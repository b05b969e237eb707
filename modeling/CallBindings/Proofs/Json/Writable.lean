import CallBindings.Json.Writable
import Mathlib

set_option autoImplicit false

/-! # Which values have a text

An integer has a text exactly if it lies between two powers of ten, and any other value exactly
if all integers in it have one.
-/

namespace CallBindings

/-- The digits are taken off from the last one on, as the number is built up. -/
theorem natOfDigits_lt {ds : List ℕ} (h : ∀ d ∈ ds, d < 10) :
    natOfDigits ds < 10 ^ ds.length := by
  induction ds using List.reverseRecOn with
  | nil => decide
  | append_singleton ds d ih =>
      have hlast : natOfDigits (ds ++ [d]) = 10 * natOfDigits ds + d := by simp [natOfDigits]
      have hfront := ih fun e he => h e (List.mem_append_left _ he)
      have hd := h d (by simp)
      rw [hlast, List.length_append, List.length_singleton, Nat.pow_succ]
      omega

namespace Text

variable {n : ℤ}

theorem canWrite_iff : canWrite n = true ↔ n.natAbs < 10 ^ integerDigitLimit := by
  rw [canWrite, decide_eq_true_iff, ofNat, List.length_map]
  exact Nat.length_toDigits_le_iff (by decide) (by decide)

theorem canWrite_eq_false_iff : canWrite n = false ↔ 10 ^ integerDigitLimit ≤ n.natAbs := by
  rw [Bool.eq_false_iff, ne_eq, canWrite_iff, Nat.not_lt]

/-- An integer of one digit more than can be written. -/
def tooLong : ℤ := 10 ^ integerDigitLimit

theorem canWrite_tooLong : canWrite tooLong = false := by
  have hten : Int.natAbs 10 = 10 := rfl
  have habs : 10 ^ integerDigitLimit = tooLong.natAbs := by rw [tooLong, Int.natAbs_pow, hten]
  exact canWrite_eq_false_iff.mpr (Nat.le_of_eq habs)

end Text

namespace Json

variable {layOut : Json → Text} {j : Json}

theorem written_eq_ok_iff {t : Text} :
    written layOut j = .ok t ↔ j.isWritable = true ∧ t = layOut j := by
  rw [written]
  split
  · next h => simp [h, eq_comm]
  · next h => simp [h]

theorem itemsWritable_iff {items : List Json} :
    itemsWritable items = true ↔ ∀ item ∈ items, item.isWritable = true := by
  induction items with
  | nil => simp [itemsWritable]
  | cons item items ih => simp [itemsWritable, ih]

theorem membersWritable_iff {members : List (Text × Json)} :
    membersWritable members = true ↔ ∀ member ∈ members, member.2.isWritable = true := by
  induction members with
  | nil => simp [membersWritable]
  | cons member members ih => simp [membersWritable, ih]

end Json

end CallBindings
