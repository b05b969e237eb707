import CallBindings.Number.Integer
import Mathlib.Data.List.TakeWhile
import Mathlib.Tactic.Common

set_option autoImplicit false

/-! # Digits that are no number

A text of digits in the wider sense can be read as an integer if all its digits are decimal and it
is not too long. Digits such as `²` have no place in a number, so that a text with one of them is
refused although it holds nothing but digits.
-/

namespace CallBindings

namespace Unicode

/-- The ranges of all digits, both ends included. -/
def digitRanges : List (Nat × Nat) := decimalZeros.map (fun z => (z, z + 9)) ++ otherDigits

/-- In ASCII there are only the ten usual digits, and no digit is white space. -/
theorem digitRanges_bounds : ∀ r ∈ digitRanges, 0x30 ≤ r.1 ∧ (r.2 ≤ 0x39 ∨ 0x80 ≤ r.1) ∧
    ∀ b ∈ blanks, r.2 < b.1 ∨ b.2 < r.1 := by
  decide +kernel

end Unicode

namespace CodePoint

variable {c : CodePoint}

theorem exists_range_of_isDigit (h : c.isDigit = true) :
    ∃ r ∈ Unicode.digitRanges, r.1 ≤ c.val ∧ c.val ≤ r.2 := by
  rw [isDigit, Bool.or_eq_true] at h
  rcases h with h | h
  · rw [decimalValue?, Option.isSome_map] at h
    obtain ⟨z, hfind⟩ := Option.isSome_iff_exists.mp h
    have hz : z ≤ c.val ∧ c.val ≤ z + 9 := by simpa using List.find?_some hfind
    exact ⟨(z, z + 9), List.mem_append_left _ (List.mem_map_of_mem (List.mem_of_find?_eq_some hfind)),
      hz⟩
  · obtain ⟨r, hr, hval⟩ := List.any_eq_true.mp h
    exact ⟨r, List.mem_append_right _ hr, by simpa using hval⟩

theorem isBlank_of_isDigit (h : c.isDigit = true) : c.isBlank = false := by
  obtain ⟨r, hr, hlow, hhigh⟩ := exists_range_of_isDigit h
  obtain ⟨-, -, hblanks⟩ := Unicode.digitRanges_bounds r hr
  rw [isBlank, Unicode.inRanges, List.any_eq_false]
  intro b hb
  have := hblanks b hb
  simp only [Bool.and_eq_true, decide_eq_true_eq]
  omega

theorem isIntegerBlank_of_isDigit (h : c.isDigit = true) : Text.isIntegerBlank c = false := by
  obtain ⟨r, hr, hlow, hhigh⟩ := exists_range_of_isDigit h
  obtain ⟨hstart, -, -⟩ := Unicode.digitRanges_bounds r hr
  rw [Text.isIntegerBlank]
  split
  · simp only [Bool.or_eq_false_iff, Bool.and_eq_false_iff, decide_eq_false_iff_not]
    omega
  · exact isBlank_of_isDigit h

/-- A sign or an underscore is no digit. -/
theorem ne_of_isDigit (h : c.isDigit = true) {d : CodePoint}
    (hd : d.val < 0x30 ∨ 0x39 < d.val ∧ d.val < 0x80) : c ≠ d := by
  rintro rfl
  obtain ⟨r, hr, hlow, hhigh⟩ := exists_range_of_isDigit h
  obtain ⟨hstart, hascii, -⟩ := Unicode.digitRanges_bounds r hr
  omega

end CodePoint

namespace Text

variable {t : Text} {c : CodePoint}

/-- Whether a text of digits is an integer: all of them are decimal, and there are not too many. -/
def IsNumber (t : Text) : Prop :=
  (∀ c ∈ t, c.decimalValue?.isSome = true) ∧ t.length ≤ integerDigitLimit

/-- Reading digits ends before the first one that is not decimal. -/
theorem digitRun?_of_digits (h : ∀ c ∈ t, c.isDigit = true) : ∃ ds,
    digitRun? false t = some (ds, t.dropWhile fun c => c.decimalValue?.isSome) ∧
      ds.length = (t.takeWhile fun c => c.decimalValue?.isSome).length := by
  induction t with
  | nil => exact ⟨[], rfl, rfl⟩
  | cons c t ih =>
      obtain ⟨hc, ht⟩ := List.forall_mem_cons.mp h
      obtain ⟨ds, hrun, hlength⟩ := ih ht
      cases hvalue : c.decimalValue? with
      | none =>
          have hunderscore : c ≠ CodePoint.ofChar '_' := CodePoint.ne_of_isDigit hc (by decide)
          exact ⟨[], by simp [digitRun?, hvalue, hunderscore], by simp [hvalue]⟩
      | some d => exact ⟨d :: ds, by simp [digitRun?, hvalue, hrun], by simp [hvalue, hlength]⟩

/-- A number begins with a decimal digit. -/
theorem digitRun?_of_head (c : CodePoint) (t : Text) :
    digitRun? true (c :: t) =
      if c.decimalValue?.isSome then digitRun? false (c :: t) else none := by
  cases hvalue : c.decimalValue? <;> simp [digitRun?, hvalue]

/-- Before digits there is neither white space nor a sign. -/
theorem signOf_of_isDigit (hc : c.isDigit = true) (t : Text) :
    signOf ((c :: t).dropWhile isIntegerBlank) = (false, c :: t) := by
  rw [List.dropWhile_cons_of_neg (by simp [CodePoint.isIntegerBlank_of_isDigit hc]), signOf,
    if_neg (CodePoint.ne_of_isDigit hc (by decide)),
    if_neg (CodePoint.ne_of_isDigit hc (by decide))]

/-- What begins with a digit is read from its first code point on, and has no sign. -/
theorem readInt_of_isDigit (hc : c.isDigit = true) (t : Text) :
    readInt (c :: t) = match digitRun? true (c :: t) with
      | none => .error (.malformed (c :: t))
      | some (ds, rest) =>
        if integerDigitLimit < ds.length then .error (.tooLong ds.length)
        else if !rest.all isIntegerBlank then .error (.malformed (c :: t))
        else .ok (natOfDigits ds) := by
  rw [readInt, signOf_of_isDigit hc]
  rfl

/-- **A text of digits is read as an integer** exactly if it is a number, and then as one that is
not negative. -/
theorem readInt_of_isDigits (h : t.isDigits = true) :
    (t.IsNumber → ∃ n : ℕ, t.readInt = .ok n) ∧ (¬ t.IsNumber → ∃ e, t.readInt = .error e) := by
  rw [isDigits, Bool.and_eq_true, List.all_eq_true] at h
  obtain ⟨hne, hdigits⟩ := h
  cases t with
  | nil => cases hne
  | cons c t =>
      obtain ⟨ds, hrun, hlength⟩ := digitRun?_of_digits hdigits
      rw [readInt_of_isDigit (hdigits c List.mem_cons_self), digitRun?_of_head]
      by_cases hhead : c.decimalValue?.isSome = true
      · simp only [if_pos hhead, hrun]
        -- all the digits are read, or the reading stops at one, which is no white space
        cases hrest : (c :: t).dropWhile fun c => c.decimalValue?.isSome with
        | nil =>
            have hall := List.dropWhile_eq_nil_iff.mp hrest
            rw [List.takeWhile_eq_self_iff.mpr hall] at hlength
            rw [hlength]
            constructor
            · rintro ⟨-, hshort⟩
              exact ⟨natOfDigits ds, by rw [if_neg (by omega)]; rfl⟩
            · intro hnumber
              have hlong : integerDigitLimit < (c :: t).length :=
                not_le.mp fun hshort => hnumber ⟨hall, hshort⟩
              exact ⟨_, if_pos hlong⟩
        | cons d rest =>
            have hd : d ∈ c :: t :=
              (List.dropWhile_sublist _).mem (hrest ▸ List.mem_cons_self)
            have hdecimal : ¬ d.decimalValue?.isSome = true := by
              have hhead := List.head?_dropWhile_not (fun c => c.decimalValue?.isSome) (c :: t)
              rw [hrest] at hhead
              simpa using hhead
            have hblank := CodePoint.isIntegerBlank_of_isDigit (hdigits d hd)
            refine ⟨fun hnumber => absurd (hnumber.1 d hd) hdecimal, fun _ => ?_⟩
            simp only [List.all_cons, hblank, Bool.false_and, Bool.not_false, if_true]
            split
            · exact ⟨_, rfl⟩
            · exact ⟨_, rfl⟩
      · simp only [if_neg hhead]
        exact ⟨fun hnumber => absurd (hnumber.1 c List.mem_cons_self) hhead, fun _ => ⟨_, rfl⟩⟩

end Text

end CallBindings
