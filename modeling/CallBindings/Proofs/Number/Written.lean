import CallBindings.Json.Shown
import CallBindings.Proofs.Number.Decimal
import CallBindings.Shape.Descriptor

set_option autoImplicit false

/-! # Written numbers

Numbers are written so that they can be told apart: the decimal of a floating point number
determines it, the sign stands in front, infinity is a word, and an integer is written with
digits only, which a floating point number never is.
-/

namespace CallBindings

namespace NumberLayout

open Text

/-! ## Floating point numbers -/

/-- A value other than those that are no number, without its sign. -/
def magnitude (x : Binary64) : Text :=
  if x.isInfinite then "inf" else if x.isZero then "0.0" else shown.unsigned x.shortest

variable {x y : Binary64}

/-- The sign of a value, as it is written. -/
def signText (x : Binary64) : Text := if x.negative then "-" else ""

theorem render_shown (h : x.isNaN = false) : shown.render x = signText x ++ magnitude x := by
  have hrender : shown.render x = if x.isNaN then shown.nan
      else if x.isInfinite then signText x ++ shown.infinity
      else if x.isZero then signText x ++ "0.0"
      else signText x ++ shown.unsigned x.shortest := rfl
  rw [hrender, h, magnitude, if_neg (by decide)]
  split
  · rfl
  · split
    · rfl
    · rfl

theorem isProper_of_not (hnan : x.isNaN = false) (hinf : ¬ x.isInfinite = true)
    (hzero : ¬ x.isZero = true) : x.isProper = true := by
  simp only [Binary64.isNaN, Binary64.isInfinite, Bool.and_eq_false_iff, Bool.and_eq_true,
    decide_eq_false_iff_not, decide_eq_true_eq, ne_eq, not_not] at hnan hinf
  simp only [Binary64.isProper, Bool.and_eq_true, decide_eq_true_eq, Bool.not_eq_true', hzero,
    and_true, ne_eq]
  rintro hb
  rcases hnan with h | h
  · exact h hb
  · exact hinf ⟨hb, h⟩

theorem eq_of_isInfinite (hs : x.negative = y.negative) (hx : x.isInfinite = true)
    (hy : y.isInfinite = true) : x = y := by
  cases x
  cases y
  simp only [Binary64.isInfinite, Bool.and_eq_true, decide_eq_true_eq] at hx hy hs
  simp only [Binary64.mk.injEq]
  exact ⟨hs, hx.1.trans hy.1.symm, hx.2.trans hy.2.symm⟩

theorem eq_of_isZero (hs : x.negative = y.negative) (hx : x.isZero = true)
    (hy : y.isZero = true) : x = y := by
  cases x
  cases y
  simp only [Binary64.isZero, Bool.and_eq_true, decide_eq_true_eq] at hx hy hs
  simp only [Binary64.mk.injEq]
  exact ⟨hs, hx.1.trans hy.1.symm, hx.2.trans hy.2.symm⟩

theorem magnitude_of_isProper (h : x.isProper = true) :
    magnitude x = shown.unsigned x.shortest := by
  have hzero : ¬ x.isZero = true := by
    simp only [Binary64.isProper, Bool.and_eq_true, Bool.not_eq_true'] at h
    simp [h.2]
  have hinf : ¬ x.isInfinite = true := by
    simp only [Binary64.isProper, Bool.and_eq_true, decide_eq_true_eq, ne_eq] at h
    simp [Binary64.isInfinite, h.1]
  rw [magnitude, if_neg hinf, if_neg hzero]

/-- A finite value has the form of a number, with a point or a power of ten in it. -/
theorem isUnsigned_magnitude (hnan : x.isNaN = false) (hinf : ¬ x.isInfinite = true) :
    IsUnsigned (magnitude x) ∧
      (CodePoint.ofChar '.' ∈ magnitude x ∨ CodePoint.ofChar 'e' ∈ magnitude x) := by
  by_cases hzero : x.isZero = true
  · have hm : magnitude x = ofString "0.0" := by rw [magnitude, if_neg hinf, if_pos hzero]
    rw [hm]
    exact ⟨⟨ofString "0.0", [], by decide, ⟨_, _, rfl, by decide⟩, by decide, Or.inl rfl⟩,
      Or.inl (by decide)⟩
  · rw [magnitude_of_isProper (isProper_of_not hnan hinf hzero)]
    exact isUnsigned_unsigned shown x.shortest

theorem magnitude_of_isInfinite (h : x.isInfinite = true) : magnitude x = ofString "inf" := by
  rw [magnitude, if_pos h]

theorem head?_magnitude (hnan : x.isNaN = false) :
    (magnitude x).head? ≠ some (CodePoint.ofChar '-') := by
  by_cases hinf : x.isInfinite = true
  · rw [magnitude_of_isInfinite hinf]
    decide
  · obtain ⟨-, c, t, heq, hc⟩ := (isUnsigned_magnitude hnan hinf).1.parts
    rw [heq, List.head?_cons]
    intro h
    cases h
    exact absurd hc (by decide)

theorem not_mem_magnitude (hnan : x.isNaN = false) (hinf : ¬ x.isInfinite = true) :
    CodePoint.ofChar 'i' ∉ magnitude x := by
  intro h
  have := (isUnsigned_magnitude hnan hinf).1.parts.1 _ h
  revert this
  decide

/-- Of finite values the text is a decimal, which is zero only for zero. -/
theorem decimal_magnitude_of_isZero (hinf : ¬ x.isInfinite = true) (hzero : x.isZero = true) :
    decimal (magnitude x) = 0 := by
  rw [magnitude, if_neg hinf, if_pos hzero]
  show decimal ([CodePoint.ofChar '0'] ++ CodePoint.ofChar '.' :: [CodePoint.ofChar '0']) = 0
  rw [decimal_of_not_mem (by decide), pointed_append_cons (by decide),
    show numeral 10 ([CodePoint.ofChar '0'] ++ [CodePoint.ofChar '0']) = 0 from rfl]
  simp

theorem decimal_magnitude (hproper : x.isProper = true) :
    decimal (magnitude x) = x.shortest.value := by
  rw [magnitude_of_isProper hproper, decimal_unsigned]

/-- Values of one sign that are written alike are equal. -/
theorem magnitude_injective (hs : x.negative = y.negative) (hx : x.isNaN = false)
    (hy : y.isNaN = false) (h : magnitude x = magnitude y) : x = y := by
  have hmark : CodePoint.ofChar 'i' ∈ ofString "inf" := by decide
  -- infinities are written in letters; what is left is told apart by its decimal value
  by_cases hxi : x.isInfinite = true <;> by_cases hyi : y.isInfinite = true
  · exact eq_of_isInfinite hs hxi hyi
  · rw [magnitude_of_isInfinite hxi] at h
    exact absurd (h ▸ hmark) (not_mem_magnitude hy hyi)
  · rw [magnitude_of_isInfinite hyi] at h
    exact absurd (h ▸ hmark) (not_mem_magnitude hx hxi)
  have hdec : decimal (magnitude x) = decimal (magnitude y) := by rw [h]
  by_cases hxz : x.isZero = true <;> by_cases hyz : y.isZero = true
  · exact eq_of_isZero hs hxz hyz
  · have hp := isProper_of_not hy hyi hyz
    rw [decimal_magnitude_of_isZero hxi hxz, decimal_magnitude hp] at hdec
    exact absurd hdec (Binary64.value_shortest_pos hp).ne
  · have hp := isProper_of_not hx hxi hxz
    rw [decimal_magnitude_of_isZero hyi hyz, decimal_magnitude hp] at hdec
    exact absurd hdec (Binary64.value_shortest_pos hp).ne'
  · have hp := isProper_of_not hx hxi hxz
    have hp' := isProper_of_not hy hyi hyz
    rw [decimal_magnitude hp, decimal_magnitude hp'] at hdec
    exact Binary64.eq_of_shortest hp hp' hs hdec

/-- **Floating point numbers that are written alike are equal.** -/
theorem render_shown_injective (hx : x.isNaN = false) (hy : y.isNaN = false)
    (h : shown.render x = shown.render y) : x = y := by
  rw [render_shown hx, render_shown hy, signText, signText] at h
  have hminus : ofString "-" = [CodePoint.ofChar '-'] := rfl
  have hempty : ofString "" = [] := rfl
  rw [hminus, hempty] at h
  cases hxs : x.negative <;> cases hys : y.negative <;> rw [hxs, hys] at h
  · exact magnitude_injective (hxs.trans hys.symm) hx hy h
  · have h : magnitude x = CodePoint.ofChar '-' :: magnitude y := h
    exact absurd (by rw [h]; rfl) (head?_magnitude hx)
  · have h : CodePoint.ofChar '-' :: magnitude x = magnitude y := h
    exact absurd (by rw [← h]; rfl) (head?_magnitude hy)
  · have h : CodePoint.ofChar '-' :: magnitude x = CodePoint.ofChar '-' :: magnitude y := h
    exact magnitude_injective (hxs.trans hys.symm) hx hy (List.cons.inj h).2

end NumberLayout

/-! ## Literals -/

namespace Text

theorem ofInt_parts (n : ℤ) :
    ∀ c ∈ ofInt n, c.isAsciiDigit = true ∨ c = CodePoint.ofChar '-' := by
  cases n with
  | ofNat n => exact fun c hc => Or.inl (isDigits_ofNat n c hc)
  | negSucc n =>
      intro c hc
      rcases List.mem_cons.mp hc with rfl | hc
      · exact Or.inr rfl
      · exact Or.inl (isDigits_ofNat (n + 1) c hc)

theorem ofInt_injective {m n : ℤ} (h : ofInt m = ofInt n) : m = n := by
  have hminus : ∀ k : ℕ, CodePoint.ofChar '-' ∉ ofNat k :=
    fun k => (isDigits_ofNat k).not_mem (by decide)
  cases m with
  | ofNat m =>
      cases n with
      | ofNat n => exact congrArg Int.ofNat (ofNat_injective h)
      | negSucc n =>
          have h : ofNat m = CodePoint.ofChar '-' :: ofNat (n + 1) := h
          exact absurd (by rw [h]; exact List.mem_cons_self) (hminus m)
  | negSucc m =>
      cases n with
      | ofNat n =>
          have h : CodePoint.ofChar '-' :: ofNat (m + 1) = ofNat n := h
          exact absurd (by rw [← h]; exact List.mem_cons_self) (hminus n)
      | negSucc n =>
          have h := ofNat_injective (List.cons.inj h).2
          rw [Nat.succ.inj h]

end Text

namespace Json

open Text NumberLayout

/-- Whether a value is a number, infinite or not. -/
def isProperNumber : Json → Bool
  | .int _ => true
  | .float x => !x.isNaN
  | _ => false

/-- Whether a code point can stand in a written number. -/
def isNumberPart (c : CodePoint) : Bool :=
  isDecimalPart c || c = CodePoint.ofChar 'i' || c = CodePoint.ofChar 'n' ||
    c = CodePoint.ofChar 'f'

theorem float_parts {x : Binary64} (hx : x.isNaN = false) :
    (∀ c ∈ NumberLayout.shown.render x, isNumberPart c = true) ∧
      ∃ c ∈ NumberLayout.shown.render x, c = CodePoint.ofChar '.' ∨ c = CodePoint.ofChar 'e' ∨
        c = CodePoint.ofChar 'i' := by
  rw [render_shown hx]
  have hsign : ∀ c ∈ signText x, isNumberPart c = true := by
    rw [signText]
    split <;> decide
  by_cases hinf : x.isInfinite = true
  · rw [magnitude_of_isInfinite hinf]
    have hinf : ∀ c ∈ ofString "inf", isNumberPart c = true := by decide
    refine ⟨?_, CodePoint.ofChar 'i', List.mem_append_right _ (by decide), by simp⟩
    intro c hc
    rcases List.mem_append.mp hc with hc | hc
    · exact hsign c hc
    · exact hinf c hc
  · obtain ⟨hform, hmark⟩ := isUnsigned_magnitude hx hinf
    constructor
    · intro c hc
      rcases List.mem_append.mp hc with hc | hc
      · exact hsign c hc
      · rw [isNumberPart, hform.parts.1 c hc]
        rfl
    · rcases hmark with hmark | hmark
      · exact ⟨_, List.mem_append_right _ hmark, Or.inl rfl⟩
      · exact ⟨_, List.mem_append_right _ hmark, Or.inr (Or.inl rfl)⟩

/-- A written number consists of digits, signs, a point and a few letters. -/
theorem isNumberPart_of_mem_shown {j : Json} (hj : j.isProperNumber = true) :
    ∀ c ∈ j.shown, isNumberPart c = true := by
  cases j <;> simp only [isProperNumber, Bool.not_eq_true', Bool.false_eq_true] at hj
  case int n =>
    intro c hc
    rw [Json.shown] at hc
    rcases ofInt_parts n c hc with h | rfl
    · simp [isNumberPart, isDecimalPart, h]
    · rfl
  case float x =>
    rw [Json.shown]
    exact (float_parts hj).1

theorem shown_ne_nil {j : Json} (hj : j.isProperNumber = true) : j.shown ≠ [] := by
  cases j <;> simp only [isProperNumber, Bool.not_eq_true', Bool.false_eq_true] at hj
  case int n =>
    rw [Json.shown]
    cases n with
    | ofNat n => exact ofNat_ne_nil n
    | negSucc n => exact List.cons_ne_nil _ _
  case float x =>
    obtain ⟨c, hc, -⟩ := (float_parts hj).2
    rw [Json.shown]
    exact List.ne_nil_of_mem hc

/-- Whether a value is neither infinite nor the value that is no number. -/
def isFinite : Json → Bool
  | .float x => x.biased ≠ 2047
  | _ => true

/-- The word that a number is written with, if it is not finite. -/
def word? : Json → Option Text
  | .float x => if x.isNaN then some "nan" else if x.isInfinite then some "inf" else none
  | _ => none

theorem word?_eq_none_iff {j : Json} : j.word? = none ↔ j.isFinite = true := by
  cases j with
  | float x =>
      simp only [word?, isFinite, Binary64.isNaN, Binary64.isInfinite]
      by_cases hb : x.biased = 2047 <;> by_cases hf : x.fraction = 0 <;> simp [hb, hf]
  | _ => simp [word?, isFinite]

theorem eq_of_word? {j : Json} {w : Text} (hw : j.word? = some w) :
    w = ofString "nan" ∨ w = ofString "inf" := by
  cases j <;> simp only [word?, reduceCtorEq] at hw
  split at hw
  · cases hw
    exact Or.inl rfl
  · split at hw
    · cases hw
      exact Or.inr rfl
    · cases hw

/-- A number that is not finite is written as its word, perhaps behind a sign. -/
theorem shown_of_word? {j : Json} {w : Text} (hw : j.word? = some w) :
    j.shown = w ∨ j.shown = CodePoint.ofChar '-' :: w := by
  cases j <;> simp only [word?, reduceCtorEq] at hw
  case float x =>
    rw [Json.shown]
    split at hw
    · rename_i hnan
      cases hw
      exact Or.inl (by rw [NumberLayout.render, if_pos hnan]; rfl)
    · rename_i hnan
      split at hw
      · rename_i hinf
        cases hw
        rw [render_shown (by simpa using hnan), magnitude_of_isInfinite hinf, signText]
        split
        · exact Or.inr rfl
        · exact Or.inl rfl
      · cases hw

open Shape in
/-- A finite number is written in the form of a number, perhaps behind a sign. -/
theorem shown_of_isFinite {j : Json} (hj : isNumberLiteral j = true) (hfin : j.isFinite = true) :
    ∃ t : Text, IsUnsigned t ∧ (j.shown = t ∨ j.shown = CodePoint.ofChar '-' :: t) := by
  cases j <;> simp only [isNumberLiteral, Bool.false_eq_true] at hj
  case int n =>
    rw [Json.shown]
    cases n with
    | ofNat n => exact ⟨_, isUnsigned_of_isDigits (isDigits_ofNat n) (ofNat_ne_nil n), Or.inl rfl⟩
    | negSucc n =>
        exact ⟨_, isUnsigned_of_isDigits (isDigits_ofNat (n + 1)) (ofNat_ne_nil _), Or.inr rfl⟩
  case float x =>
    simp only [isFinite, ne_eq, decide_not, Bool.not_eq_true', decide_eq_false_iff_not] at hfin
    have hnan : x.isNaN = false := by simp [Binary64.isNaN, hfin]
    have hinf : ¬ x.isInfinite = true := by simp [Binary64.isInfinite, hfin]
    rw [Json.shown, render_shown hnan, signText]
    refine ⟨magnitude x, (isUnsigned_magnitude hnan hinf).1, ?_⟩
    split
    · exact Or.inr rfl
    · exact Or.inl rfl

/-- **Numbers that are written alike are equal,** integers and floating point numbers being
told apart. -/
theorem shown_injective {i j : Json} (hi : i.isProperNumber = true) (hj : j.isProperNumber = true)
    (h : i.shown = j.shown) : i = j := by
  have hmixed : ∀ (n : ℤ) (x : Binary64), x.isNaN = false → ofInt n ≠ NumberLayout.shown.render x := by
    intro n x hx heq
    obtain ⟨c, hc, hmark⟩ := (float_parts hx).2
    rw [← heq] at hc
    rcases ofInt_parts n c hc with hd | rfl
    · rcases hmark with rfl | rfl | rfl <;> exact absurd hd (by decide)
    · revert hmark
      decide
  cases i <;> simp only [isProperNumber, Bool.not_eq_true', Bool.false_eq_true] at hi <;>
    cases j <;> simp only [isProperNumber, Bool.not_eq_true', Bool.false_eq_true] at hj <;>
    rw [Json.shown, Json.shown] at h
  case int.int m n => rw [ofInt_injective h]
  case int.float n x => exact absurd h (hmixed n x hj)
  case float.int x n => exact absurd h.symm (hmixed n x hi)
  case float.float x y => rw [render_shown_injective hi hj h]

end Json

end CallBindings
