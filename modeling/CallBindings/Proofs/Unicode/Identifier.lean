import CallBindings.Proofs.Text.Quoted
import CallBindings.Unicode.Identifier

set_option autoImplicit false

/-! # Code points of identifiers

In ASCII, an identifier begins with a letter or the low line and goes on with digits as well.
What stands between the words of generated text is ASCII, so that it ends a word follows without
another look at the tables.
-/

namespace CallBindings

namespace Unicode

/-- Two ranges of letters are the only ones in ASCII that an identifier can begin with. -/
theorem identifierStart_bounds :
    identifierStart.take 2 = [(0x41, 0x5A), (0x61, 0x7A)] ∧
      ∀ r ∈ identifierStart.drop 2, 0x80 ≤ r.1 := by
  decide +kernel

/-- The digits are the only range in ASCII that an identifier can just go on with. -/
theorem identifierExtend_bounds :
    identifierExtend.take 1 = [(0x30, 0x39)] ∧ ∀ r ∈ identifierExtend.drop 1, 0x80 ≤ r.1 := by
  decide +kernel

/-- Ranges further on do not matter. -/
theorem inRanges_eq_take {ranges : List (Nat × Nat)} {k n : Nat}
    (h : ∀ r ∈ ranges.drop k, 0x80 ≤ r.1) (hn : n < 0x80) :
    inRanges ranges n = inRanges (ranges.take k) n := by
  have hrest : inRanges (ranges.drop k) n = false := by
    simp only [inRanges, List.any_eq_false, Bool.and_eq_true, decide_eq_true_eq]
    intro r hr
    have := h r hr
    omega
  calc inRanges ranges n = inRanges (ranges.take k ++ ranges.drop k) n := by
        rw [List.take_append_drop]
    _ = (inRanges (ranges.take k) n || inRanges (ranges.drop k) n) := List.any_append
    _ = inRanges (ranges.take k) n := by rw [hrest, Bool.or_false]

end Unicode

namespace CodePoint

variable {c : CodePoint}

theorem startsIdentifier_of_ascii (h : c.val < 0x80) :
    c.startsIdentifier = (c.val == 0x5F || c.isAsciiLetter) := by
  obtain ⟨hletters, hrest⟩ := Unicode.identifierStart_bounds
  rw [startsIdentifier, Unicode.inRanges_eq_take hrest h, hletters]
  simp [Unicode.inRanges, isAsciiLetter]

theorem inIdentifier_of_ascii (h : c.val < 0x80) :
    c.inIdentifier = (c.val == 0x5F || c.isAsciiLetter || c.isAsciiDigit) := by
  obtain ⟨hdigits, hrest⟩ := Unicode.identifierExtend_bounds
  rw [inIdentifier, startsIdentifier_of_ascii h, Unicode.inRanges_eq_take hrest h, hdigits]
  simp [Unicode.inRanges, isAsciiDigit]

theorem not_startsIdentifier_of_isAsciiDigit (h : c.isAsciiDigit = true) :
    c.startsIdentifier = false := by
  simp only [isAsciiDigit, Bool.and_eq_true, decide_eq_true_eq] at h
  rw [startsIdentifier_of_ascii (by omega)]
  simp only [isAsciiLetter, Bool.or_eq_false_iff, Bool.and_eq_false_iff, beq_eq_false_iff_ne,
    decide_eq_false_iff_not]
  omega

theorem inIdentifier_of_isSmallHex (h : c.isSmallHex = true) : c.inIdentifier = true := by
  rw [isSmallHex_iff] at h
  rw [inIdentifier_of_ascii (by omega)]
  simp only [isAsciiLetter, isAsciiDigit, Bool.or_eq_true, Bool.and_eq_true, decide_eq_true_eq]
  omega

end CodePoint

namespace Text

variable {t : Text}

theorem inIdentifier_of_isIdentifier (h : t.isIdentifier = true) :
    ∀ c ∈ t, c.inIdentifier = true := by
  cases t with
  | nil => intro c hc; cases hc
  | cons a t =>
      simp only [isIdentifier, Bool.and_eq_true, List.all_eq_true] at h
      intro c hc
      rcases List.mem_cons.mp hc with rfl | hc
      · rw [CodePoint.inIdentifier, h.1, Bool.true_or]
      · exact h.2 c hc

theorem not_mem_of_isIdentifier (h : t.isIdentifier = true) {c : CodePoint}
    (hc : c.inIdentifier = false) : c ∉ t := by
  intro hmem
  rw [inIdentifier_of_isIdentifier h c hmem] at hc
  cases hc

end Text

end CallBindings
