import CallBindings.Files.Search
import CallBindings.Proofs.Files.Path

set_option autoImplicit false

/-! # What a search gives

A search lists what it finds in the order of code points. It fails only for a pattern with more
segments than are followed, if its directory and its pattern are paths that the system takes.
-/

namespace CallBindings

open Text

/-! ## The order of texts -/

theorem Text.le_total (s t : Text) : (le s t || le t s) = true := by
  induction s generalizing t with
  | nil => rfl
  | cons a s ih =>
      cases t with
      | nil => rfl
      | cons b t =>
          rw [le, le]
          rcases Nat.lt_trichotomy a.val b.val with h | h | h
          · rw [if_pos h, Bool.true_or]
          · rw [if_neg (by omega), if_neg (by omega), if_neg (by omega), if_neg (by omega)]
            exact ih t
          · rw [if_neg (by omega), if_pos h, if_pos h, Bool.or_true]

theorem Text.le_trans {s t u : Text} (hst : le s t = true) (htu : le t u = true) :
    le s u = true := by
  induction s generalizing t u with
  | nil => rfl
  | cons a s ih =>
      cases t with
      | nil => cases hst
      | cons b t =>
          cases u with
          | nil => cases htu
          | cons c u =>
              rw [le] at hst htu ⊢
              -- the first code points decide unless all three are the same
              by_cases hab : a.val < b.val
              · by_cases hcb : c.val < b.val
                · rw [if_neg (by omega), if_pos hcb] at htu
                  cases htu
                · rw [if_pos (by omega)]
              · by_cases hba : b.val < a.val
                · rw [if_neg hab, if_pos hba] at hst
                  cases hst
                · rw [if_neg hab, if_neg hba] at hst
                  by_cases hbc : b.val < c.val
                  · rw [if_pos (by omega)]
                  · by_cases hcb : c.val < b.val
                    · rw [if_neg hbc, if_pos hcb] at htu
                      cases htu
                    · rw [if_neg hbc, if_neg hcb] at htu
                      rw [if_neg (by omega), if_neg (by omega)]
                      exact ih hst htu

theorem Text.le_antisymm {s t : Text} (hst : le s t = true) (hts : le t s = true) : s = t := by
  induction s generalizing t with
  | nil =>
      cases t with
      | nil => rfl
      | cons b t => cases hts
  | cons a s ih =>
      cases t with
      | nil => cases hst
      | cons b t =>
          rw [le] at hst hts
          rcases Nat.lt_trichotomy a.val b.val with h | h | h
          · rw [if_neg (by omega), if_pos h] at hts
            cases hts
          · rw [if_neg (by omega), if_neg (by omega)] at hst hts
            rw [ih hst hts, show a = b by cases a; cases b; cases h; rfl]
          · rw [if_neg (by omega), if_pos h] at hst
            cases hst

/-- Texts in order are in strictly increasing order exactly if they are different. -/
theorem Text.pairwise_strict_iff {ts : List Text} (h : ts.Pairwise fun s t => le s t = true) :
    (ts.Pairwise fun s t => le t s = false) ↔ ts.Nodup := by
  constructor
  · refine fun hstrict => hstrict.imp fun {s t} hst hsame => ?_
    have hself : le s s = true := by simpa using Text.le_total s s
    rw [← hsame, hself] at hst
    cases hst
  · intro hnodup
    refine (List.Pairwise.and h hnodup).imp fun {s t} hst => ?_
    rw [Bool.eq_false_iff]
    exact fun hts => hst.2 (Text.le_antisymm hst.1 hts)

theorem Text.pairwise_sort (ts : List Text) : (sort ts).Pairwise fun s t => le s t = true := by
  have htrans : ∀ s t u : Text, le s t = true → le t u = true → le s u = true :=
    fun _ _ _ => Text.le_trans
  exact List.pairwise_mergeSort htrans Text.le_total ts

/-! ## Searches -/

namespace Search

variable {fs : Files} {directory pattern t : Text} {files : List Text}

theorem isUsable_plan (h : Files.IsUsable t) : Files.IsUsable (plan t).1 := by
  rw [plan]
  cases hcut : cut? t with
  | none => exact h
  | some cut =>
      obtain ⟨start, rest⟩ := cut
      rw [cut?] at hcut
      split at hcut
      · cases hcut
      · cases hcut
        refine Files.IsUsable.parent (h.of_subset fun c hc => ?_)
        have hc := (List.dropWhile_sublist _).mem (List.mem_reverse.mp hc)
        exact (List.takeWhile_sublist _).mem (List.mem_reverse.mp hc)

/-- What a search finds is sorted. -/
theorem pairwise_find (h : find fs directory pattern = .ok files) :
    files.Pairwise fun p q => le p q = true := by
  rw [find, findWritten] at h
  split at h
  · cases h
    split
    · exact List.pairwise_singleton _ _
    · exact List.Pairwise.nil
  · split at h
    · cases h
    · split at h
      · cases h
      · cases h
        exact pairwise_sort _

/-- A search for a path that the system takes fails only if there are too many segments. -/
theorem find_eq_error {e : FileError} (hcurrent : Files.IsUsable fs.currentPath)
    (hdirectory : Files.IsUsable directory) (hpattern : Files.IsUsable pattern)
    (h : find fs directory pattern = .error e) :
    segmentLimit < (plan (written fs directory pattern)).2.length := by
  have husable : Files.IsUsable (written fs directory pattern) :=
    (hcurrent.absolute hdirectory).pathJoin hpattern
  have hstart := Files.check_eq_ok_iff.mpr (isUsable_plan husable)
  rw [find, findWritten] at h
  split at h
  · cases h
  · next start segments hplan =>
      rw [hplan] at hstart
      simp only [hplan] at *
      split at h
      · next hmany => exact hmany
      · rw [hstart] at h
        cases h

end Search

end CallBindings
