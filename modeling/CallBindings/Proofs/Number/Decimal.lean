import CallBindings.Number.Layout
import CallBindings.Proofs.Number.Shortest
import CallBindings.Proofs.Text.Numeral
import CallBindings.Proofs.Text.Split

set_option autoImplicit false

/-! # Decimals read back

A decimal is written with the point in place or in exponent form. `Text.decimal` reads either
form back as the number the decimal denotes.
-/

namespace CallBindings

namespace Text

/-! ## Reading decimals -/

/-- What stands before the first `c`. -/
def before (c : CodePoint) (t : Text) : Text := t.takeWhile (· ≠ c)

/-- What stands behind the first `c`. -/
def behind (c : CodePoint) (t : Text) : Text := (t.dropWhile (· ≠ c)).drop 1

/-- The number that digits with a point denote. -/
def pointed (t : Text) : ℚ :=
  numeral 10 (t.before '.' ++ t.behind '.') / 10 ^ (t.behind '.').length

/-- The power of ten that a sign and digits denote. -/
def power : Text → ℤ
  | [] => 0
  | c :: t => if c = CodePoint.ofChar '-' then -(numeral 10 t : ℤ) else numeral 10 t

/-- The number that a decimal denotes. -/
def decimal (t : Text) : ℚ := pointed (t.before 'e') * 10 ^ power (t.behind 'e')

variable {c : CodePoint} {s t : Text}

theorem forall_ne_of_not_mem (h : c ∉ s) : ∀ d ∈ s, decide (d ≠ c) = true := by
  intro d hd
  rw [decide_eq_true_eq]
  rintro rfl
  exact h hd

theorem before_append_cons (h : c ∉ s) : before c (s ++ c :: t) = s :=
  takeWhile_append_of_ends (forall_ne_of_not_mem h) (ends_cons (by simp) t)

theorem behind_append_cons (h : c ∉ s) : behind c (s ++ c :: t) = t := by
  rw [behind, List.dropWhile_append_of_pos (forall_ne_of_not_mem h), List.dropWhile_cons_of_neg (by simp)]
  rfl

theorem before_of_not_mem (h : c ∉ s) : before c s = s :=
  List.takeWhile_eq_self_iff.mpr (forall_ne_of_not_mem h)

theorem behind_of_not_mem (h : c ∉ s) : behind c s = [] := by
  rw [behind, List.dropWhile_eq_nil_iff.mpr (forall_ne_of_not_mem h)]
  rfl

theorem pointed_append_cons (h : CodePoint.ofChar '.' ∉ s) :
    pointed (s ++ CodePoint.ofChar '.' :: t) = numeral 10 (s ++ t) / 10 ^ t.length := by
  rw [pointed, before_append_cons h, behind_append_cons h]

theorem pointed_of_not_mem (h : CodePoint.ofChar '.' ∉ s) : pointed s = numeral 10 s := by
  rw [pointed, before_of_not_mem h, behind_of_not_mem h]
  simp

theorem decimal_of_not_mem (h : CodePoint.ofChar 'e' ∉ s) : decimal s = pointed s := by
  rw [decimal, before_of_not_mem h, behind_of_not_mem h]
  simp [power]

theorem decimal_append_cons (h : CodePoint.ofChar 'e' ∉ s) :
    decimal (s ++ CodePoint.ofChar 'e' :: t) = pointed s * 10 ^ power t := by
  rw [decimal, before_append_cons h, behind_append_cons h]

/-- Whether all code points are decimal digits. -/
def IsDigits (t : Text) : Prop := ∀ c ∈ t, c.isAsciiDigit = true

theorem isDigits_ofNat (n : ℕ) : IsDigits (ofNat n) := fun _ hc => isAsciiDigit_of_mem_ofNat hc

theorem isDigits_replicate_zero (k : ℕ) : IsDigits (List.replicate k (CodePoint.ofChar '0')) := by
  intro c hc
  rw [List.eq_of_mem_replicate hc]
  decide

theorem IsDigits.append (hs : s.IsDigits) (ht : t.IsDigits) : IsDigits (s ++ t) := by
  intro c hc
  rcases List.mem_append.mp hc with hc | hc
  · exact hs c hc
  · exact ht c hc

theorem IsDigits.of_subset (ht : t.IsDigits) (h : s ⊆ t) : s.IsDigits := fun c hc => ht c (h hc)

theorem IsDigits.not_mem (ht : t.IsDigits) (hc : c.isAsciiDigit = false) : c ∉ t := by
  intro hmem
  rw [ht c hmem] at hc
  cases hc

theorem isDigits_ofNatPadded (width n : ℕ) : IsDigits (ofNatPadded width n) :=
  (isDigits_replicate_zero _).append (isDigits_ofNat n)

theorem numeral_ofNatPadded (width n : ℕ) : numeral 10 (ofNatPadded width n) = n := by
  rw [ofNatPadded, numeral_replicate_zero, numeral_ofNat]

theorem numeral_append_replicate_zero (t : Text) (k : ℕ) :
    numeral 10 (t ++ List.replicate k (CodePoint.ofChar '0')) = numeral 10 t * 10 ^ k := by
  have hzero : numeral 10 (List.replicate k (CodePoint.ofChar '0')) = 0 := by
    have h := numeral_replicate_zero 10 k []
    rwa [List.append_nil] at h
  rw [numeral_append, hzero, List.length_replicate, Nat.add_zero, Nat.mul_comm]

end Text

namespace NumberLayout

open Text

variable {digits : Text} {place : ℤ}

/-! ## The two forms of a decimal -/

/-- The decimal of digits whose first stands at a place. -/
def atPlace (digits : Text) (place : ℤ) : ℚ := numeral 10 digits * 10 ^ (place + 1 - digits.length)

/-- Digits around a point, and the number that they denote. -/
inductive IsPointed : Text → ℚ → Prop
  | intro {whole rest : Text} {x : ℚ} : whole ≠ [] → whole.IsDigits → rest.IsDigits →
      (numeral 10 (whole ++ rest) : ℚ) / 10 ^ rest.length = x →
      IsPointed (whole ++ CodePoint.ofChar '.' :: rest) x

namespace IsPointed

variable {t : Text} {x : ℚ}

theorem pointed (h : IsPointed t x) : Text.pointed t = x := by
  cases h with
  | intro _ hwhole _ hx => rw [pointed_append_cons (hwhole.not_mem (by decide)), hx]

theorem point_mem (h : IsPointed t x) : CodePoint.ofChar '.' ∈ t := by
  cases h
  simp

theorem e_not_mem (h : IsPointed t x) : CodePoint.ofChar 'e' ∉ t := by
  cases h with
  | intro _ hwhole hrest _ =>
      simp only [List.mem_append, List.mem_cons, not_or]
      exact ⟨hwhole.not_mem (by decide), by decide, hrest.not_mem (by decide)⟩

/-- As a part of a number such a text begins with a digit and has nothing but digits and a point. -/
theorem mantissa (h : IsPointed t x) : (∃ c u, t = c :: u ∧ c.isAsciiDigit = true) ∧
    ∀ c ∈ t, c.isAsciiDigit = true ∨ c = CodePoint.ofChar '.' := by
  cases h with
  | intro hne hwhole hrest _ =>
      obtain ⟨d, u, rfl⟩ := List.exists_cons_of_ne_nil hne
      refine ⟨⟨d, _, rfl, hwhole d List.mem_cons_self⟩, fun c hc => ?_⟩
      rcases List.mem_append.mp hc with hc | hc
      · exact Or.inl (hwhole c hc)
      · rcases List.mem_cons.mp hc with rfl | hc
        · exact Or.inr rfl
        · exact Or.inl (hrest c hc)

end IsPointed

/-! ### The point in place

Where the point falls: before all digits, behind all of them, or between two. -/

theorem positional_of_neg (h : place < 0) : positional digits place =
    [CodePoint.ofChar '0'] ++ CodePoint.ofChar '.' ::
      (List.replicate (-place - 1).toNat (CodePoint.ofChar '0') ++ digits) := by
  rw [positional, if_pos h]
  rfl

theorem positional_of_length_le (h : ¬ place < 0) (hle : digits.length ≤ place.toNat + 1) :
    positional digits place =
      (digits ++ List.replicate (place.toNat + 1 - digits.length) (CodePoint.ofChar '0')) ++
        [CodePoint.ofChar '.', CodePoint.ofChar '0'] := by
  have hdrop : (digits.drop (place.toNat + 1)).isEmpty = true := by
    rwa [List.isEmpty_iff, List.drop_eq_nil_iff]
  rw [positional, if_neg h]
  simp only [if_pos hdrop, List.take_of_length_le hle]
  rw [List.append_assoc]
  rfl

theorem positional_of_lt_length (h : ¬ place < 0) (hlt : place.toNat + 1 < digits.length) :
    positional digits place = digits.take (place.toNat + 1) ++
      CodePoint.ofChar '.' :: digits.drop (place.toNat + 1) := by
  have hdrop : ¬ (digits.drop (place.toNat + 1)).isEmpty = true := by
    rw [List.isEmpty_iff, List.drop_eq_nil_iff]
    omega
  have hfill : place.toNat + 1 - (digits.take (place.toNat + 1)).length = 0 := by
    rw [List.length_take]
    omega
  rw [positional, if_neg h]
  simp only [if_neg hdrop, hfill, List.replicate_zero, List.append_nil]
  rw [List.append_assoc]
  rfl

/-- Digits with the point in place are digits around a point. -/
theorem isPointed_positional (hd : digits.IsDigits) (hne : digits ≠ []) (place : ℤ) :
    IsPointed (positional digits place) (atPlace digits place) := by
  by_cases hneg : place < 0
  · rw [positional_of_neg hneg]
    refine .intro (by simp) (isDigits_replicate_zero 1) ((isDigits_replicate_zero _).append hd) ?_
    rw [← List.append_assoc, ← List.replicate_one, List.replicate_append_replicate,
      numeral_replicate_zero, List.length_append, List.length_replicate, atPlace, div_eq_mul_inv,
      ← zpow_natCast, ← zpow_neg]
    congr 2
    push_cast
    omega
  rcases Nat.lt_or_ge (place.toNat + 1) digits.length with hlt | hle
  · have htake : IsDigits (digits.take (place.toNat + 1)) := hd.of_subset (List.take_subset _ _)
    have hdrop : IsDigits (digits.drop (place.toNat + 1)) := hd.of_subset (List.drop_subset _ _)
    rw [positional_of_lt_length hneg hlt]
    refine .intro (by simp [hne]) htake hdrop ?_
    rw [List.take_append_drop, List.length_drop, atPlace, div_eq_mul_inv, ← zpow_natCast,
      ← zpow_neg]
    congr 2
    omega
  · rw [positional_of_length_le hneg hle]
    refine .intro (by simp [hne]) (hd.append (isDigits_replicate_zero _))
      (isDigits_replicate_zero 1) ?_
    -- the digit behind the point is one more zero
    rw [List.append_assoc, ← List.replicate_one, List.replicate_append_replicate,
      numeral_append_replicate_zero, atPlace, List.length_replicate, pow_one, Nat.cast_mul,
      Nat.cast_pow, Nat.cast_ofNat, pow_succ, ← mul_assoc, mul_div_assoc,
      div_self (by norm_num), mul_one, ← zpow_natCast]
    congr 2
    omega

/-! ### Exponents -/

/-- The sign of an exponent, which is written in any case. -/
def exponentSign (place : ℤ) : CodePoint :=
  if place < 0 then CodePoint.ofChar '-' else CodePoint.ofChar '+'

theorem exponentSign_mem (place : ℤ) :
    exponentSign place ∈ [CodePoint.ofChar '-', CodePoint.ofChar '+'] := by
  rw [exponentSign]
  split <;> simp

theorem power_exponentSign (width : ℕ) (place : ℤ) :
    power (exponentSign place :: ofNatPadded width place.natAbs) = place := by
  rw [power, exponentSign, numeral_ofNatPadded]
  by_cases hneg : place < 0
  · rw [if_pos hneg, if_pos rfl]
    omega
  · rw [if_neg hneg, if_neg (by decide)]
    omega

theorem scientific_cons (layout : NumberLayout) (c : CodePoint) (t : Text) (place : ℤ) :
    layout.scientific (c :: t) place = (if t.isEmpty then [c] else [c] ++ CodePoint.ofChar '.' :: t) ++
      CodePoint.ofChar 'e' :: exponentSign place ::
        ofNatPadded layout.exponentWidth place.natAbs := by
  have hmark : (if place < 0 then ofString "e-" else ofString "e+") =
      [CodePoint.ofChar 'e', exponentSign place] := by
    rw [exponentSign]
    split <;> rfl
  rw [scientific]
  simp only [List.take_succ_cons, List.take_zero, List.drop_succ_cons, List.drop_zero, hmark]
  rw [List.append_assoc]
  cases t <;> rfl

/-- Exponent form is digits, perhaps around a point, and a power of ten. -/
theorem exists_scientific (layout : NumberLayout) (hd : digits.IsDigits) (hne : digits ≠ [])
    (place : ℤ) : ∃ mantissa exponent : Text, ∃ sign ∈ [CodePoint.ofChar '-', CodePoint.ofChar '+'],
    layout.scientific digits place = mantissa ++ CodePoint.ofChar 'e' :: sign :: exponent ∧
      (mantissa.IsDigits ∨ ∃ x, IsPointed mantissa x) ∧ mantissa ≠ [] ∧ exponent.IsDigits ∧
      pointed mantissa * 10 ^ power (sign :: exponent) = atPlace digits place := by
  obtain ⟨c, t, rfl⟩ := List.exists_cons_of_ne_nil hne
  have hc : IsDigits [c] := hd.of_subset (by simp)
  have ht : IsDigits t := hd.of_subset (by simp)
  have hpoint : CodePoint.ofChar '.' ∉ [c] := hc.not_mem (by decide)
  refine ⟨_, _, exponentSign place, exponentSign_mem place, scientific_cons layout c t place, ?_,
    ?_, isDigits_ofNatPadded _ _, ?_⟩
  · cases t with
    | nil => exact Or.inl hc
    | cons d t => exact Or.inr ⟨_, .intro (List.cons_ne_nil c []) hc ht rfl⟩
  · split <;> simp
  · rw [power_exponentSign]
    cases t with
    | nil =>
        rw [if_pos List.isEmpty_nil, pointed_of_not_mem hpoint, atPlace]
        congr 2
        simp
    | cons d t =>
        rw [if_neg (by simp), pointed_append_cons hpoint, atPlace, List.singleton_append,
          div_eq_mul_inv, ← zpow_natCast, ← zpow_neg, mul_assoc, ← zpow_add₀ (by norm_num)]
        congr 2
        simp only [List.length_cons]
        push_cast
        omega

/-- A decimal in one of its two forms. -/
def unsigned (layout : NumberLayout) (d : Decimal) : Text :=
  let digits := ofNat d.digits
  let place := d.exponent + digits.length - 1
  if layout.leastPlace ≤ place && place < layout.endPlace then positional digits place
  else layout.scientific digits place

theorem unsigned_eq (layout : NumberLayout) (d : Decimal) : ∃ place : ℤ,
    place = d.exponent + (ofNat d.digits).length - 1 ∧
      (layout.unsigned d = positional (ofNat d.digits) place ∨
        layout.unsigned d = layout.scientific (ofNat d.digits) place) := by
  refine ⟨_, rfl, ?_⟩
  rw [unsigned]
  split
  · exact Or.inl rfl
  · exact Or.inr rfl

/-- **A written decimal is read as the number it was written for.** -/
theorem decimal_unsigned (layout : NumberLayout) (d : Decimal) :
    decimal (layout.unsigned d) = d.value := by
  obtain ⟨place, hplace, hform⟩ := unsigned_eq layout d
  have hd := isDigits_ofNat d.digits
  have hvalue : atPlace (ofNat d.digits) place = d.value := by
    rw [atPlace, Decimal.value, numeral_ofNat, hplace]
    congr 2
    omega
  rw [← hvalue]
  rcases hform with hform | hform <;> rw [hform]
  · have hpointed := isPointed_positional hd (ofNat_ne_nil _) place
    rw [decimal_of_not_mem hpointed.e_not_mem, hpointed.pointed]
  · obtain ⟨mantissa, exponent, sign, -, heq, hm, -, -, hval⟩ :=
      exists_scientific layout hd (ofNat_ne_nil _) place
    have he : CodePoint.ofChar 'e' ∉ mantissa := by
      rcases hm with hm | ⟨x, hm⟩
      · exact hm.not_mem (by decide)
      · exact hm.e_not_mem
    rw [heq, decimal_append_cons he, hval]

/-- Whether a code point can stand in a decimal. -/
def isDecimalPart (c : CodePoint) : Bool :=
  c.isAsciiDigit || c = CodePoint.ofChar '.' || c = CodePoint.ofChar 'e' ||
    c = CodePoint.ofChar '-' || c = CodePoint.ofChar '+'

/-- The form of every number without its sign: digits, perhaps with points between them, that
begin with a digit, and perhaps a power of ten behind them. -/
def IsUnsigned (t : Text) : Prop :=
  ∃ mantissa exponent : Text, t = mantissa ++ exponent ∧
    (∃ c u, mantissa = c :: u ∧ c.isAsciiDigit = true) ∧
    (∀ c ∈ mantissa, c.isAsciiDigit = true ∨ c = CodePoint.ofChar '.') ∧
    (exponent = [] ∨ ∃ sign ∈ [CodePoint.ofChar '-', CodePoint.ofChar '+'], ∃ power : Text,
      exponent = CodePoint.ofChar 'e' :: sign :: power ∧ power.IsDigits)

theorem isUnsigned_of_isDigits {t : Text} (hd : t.IsDigits) (hne : t ≠ []) : IsUnsigned t := by
  obtain ⟨c, u, rfl⟩ := List.exists_cons_of_ne_nil hne
  exact ⟨c :: u, [], by simp, ⟨c, u, rfl, hd c List.mem_cons_self⟩, fun x hx => Or.inl (hd x hx),
    Or.inl rfl⟩

/-- A decimal has the form of a number, with a point or a power of ten in it. -/
theorem isUnsigned_unsigned (layout : NumberLayout) (d : Decimal) :
    IsUnsigned (layout.unsigned d) ∧
      (CodePoint.ofChar '.' ∈ layout.unsigned d ∨ CodePoint.ofChar 'e' ∈ layout.unsigned d) := by
  obtain ⟨place, -, hform⟩ := unsigned_eq layout d
  have hd := isDigits_ofNat d.digits
  rcases hform with hform | hform <;> rw [hform]
  · have hpointed := isPointed_positional hd (ofNat_ne_nil _) place
    obtain ⟨hfirst, hparts⟩ := hpointed.mantissa
    exact ⟨⟨_, [], (List.append_nil _).symm, hfirst, hparts, Or.inl rfl⟩,
      Or.inl hpointed.point_mem⟩
  · obtain ⟨mantissa, exponent, sign, hsign, heq, hm, hne, he, -⟩ :=
      exists_scientific layout hd (ofNat_ne_nil _) place
    have hmantissa : (∃ c u, mantissa = c :: u ∧ c.isAsciiDigit = true) ∧
        ∀ c ∈ mantissa, c.isAsciiDigit = true ∨ c = CodePoint.ofChar '.' := by
      rcases hm with hm | ⟨x, hm⟩
      · obtain ⟨c, u, rfl⟩ := List.exists_cons_of_ne_nil hne
        exact ⟨⟨c, u, rfl, hm c List.mem_cons_self⟩, fun x hx => Or.inl (hm x hx)⟩
      · exact hm.mantissa
    rw [heq]
    exact ⟨⟨mantissa, _, rfl, hmantissa.1, hmantissa.2, Or.inr ⟨sign, hsign, exponent, rfl, he⟩⟩,
      Or.inr (by simp)⟩

/-- A number without its sign consists of the parts of decimals and begins with a digit. -/
theorem IsUnsigned.parts {t : Text} (h : IsUnsigned t) :
    (∀ c ∈ t, isDecimalPart c = true) ∧ ∃ c u, t = c :: u ∧ c.isAsciiDigit = true := by
  obtain ⟨mantissa, exponent, rfl, ⟨d, u, rfl, hd⟩, hm, he⟩ := h
  refine ⟨fun c hc => ?_, d, u ++ exponent, rfl, hd⟩
  rcases List.mem_append.mp hc with hc | hc
  · rcases hm c hc with h | rfl
    · simp [isDecimalPart, h]
    · rfl
  · rcases he with rfl | ⟨sign, hsign, power, rfl, hp⟩
    · cases hc
    · rcases List.mem_cons.mp hc with rfl | hc
      · rfl
      · rcases List.mem_cons.mp hc with rfl | hc
        · simp only [List.mem_cons, List.not_mem_nil, or_false] at hsign
          rcases hsign with rfl | rfl <;> rfl
        · simp [isDecimalPart, hp c hc]

end NumberLayout

end CallBindings
