import CallBindings.Text.Basic
import Mathlib

set_option autoImplicit false

/-! # Where a part of a text ends

If a part consists of code points of one sort and what follows begins with another sort, then
the text determines where the part ends. `Ends` says of what follows that it begins so. A text of
parts with a separator between them is taken apart at the separator.
-/

namespace CallBindings.Text

/-- The text is empty or begins with a code point that is not in `p`. -/
def Ends (p : CodePoint → Bool) (t : Text) : Prop := ∀ c ∈ t.head?, p c = false

variable {p : CodePoint → Bool}

theorem ends_cons {c : CodePoint} (hc : p c = false) (t : Text) : Ends p (c :: t) := by
  intro d hd
  have hd : c = d := by simpa using hd
  exact hd ▸ hc

theorem takeWhile_of_ends {t : Text} (h : Ends p t) : t.takeWhile p = [] := by
  cases t with
  | nil => rfl
  | cons c t => rw [List.takeWhile_cons, h c (by simp)]; rfl

theorem takeWhile_append_of_ends {a t : Text} (ha : ∀ c ∈ a, p c = true) (ht : Ends p t) :
    (a ++ t).takeWhile p = a := by
  rw [List.takeWhile_append_of_pos ha, takeWhile_of_ends ht, List.append_nil]

section Mark

variable {α : Type} [DecidableEq α] {c : α} {a : List α}

theorem decide_ne_of_not_mem (ha : c ∉ a) : ∀ d ∈ a, decide (d ≠ c) = true := by
  intro d hd
  rw [decide_eq_true_eq]
  rintro rfl
  exact ha hd

/-- What stands in front of the first `c`. -/
theorem takeWhile_append_cons (ha : c ∉ a) (t : List α) :
    (a ++ c :: t).takeWhile (· ≠ c) = a := by
  rw [List.takeWhile_append_of_pos (decide_ne_of_not_mem ha),
    List.takeWhile_cons_of_neg (by simp), List.append_nil]

/-- What stands from the first `c` on. -/
theorem dropWhile_append_cons (ha : c ∉ a) (t : List α) :
    (a ++ c :: t).dropWhile (· ≠ c) = c :: t := by
  rw [List.dropWhile_append_of_pos (decide_ne_of_not_mem ha),
    List.dropWhile_cons_of_neg (by simp)]

end Mark

/-- A part and what follows it are determined by the whole. -/
theorem append_inj_of_ends {a b s t : Text} (ha : ∀ c ∈ a, p c = true)
    (hb : ∀ c ∈ b, p c = true) (hs : Ends p s) (ht : Ends p t) (h : a ++ s = b ++ t) :
    a = b ∧ s = t := by
  have hab : a = b := by
    rw [← takeWhile_append_of_ends ha hs, h, takeWhile_append_of_ends hb ht]
  subst hab
  exact ⟨rfl, List.append_cancel_left h⟩

/-- Two texts without `c` that are followed by the first `c`. -/
theorem append_cons_inj {c : CodePoint} {a b s t : Text} (ha : c ∉ a) (hb : c ∉ b)
    (h : a ++ c :: s = b ++ c :: t) : a = b ∧ s = t := by
  have hne : ∀ {u : Text}, c ∉ u → ∀ d ∈ u, (d != c) = true := by
    intro u hu d hd
    simp only [bne_iff_ne, ne_eq]
    rintro rfl
    exact hu hd
  have hends : ∀ u : Text, Ends (· != c) (c :: u) := fun u => ends_cons (by simp) u
  obtain ⟨hab, hst⟩ := append_inj_of_ends (hne ha) (hne hb) (hends s) (hends t) h
  exact ⟨hab, (List.cons.inj hst).2⟩

/-! ## Dropping an initial text -/

theorem dropStart?_eq_some_iff {t start rest : Text} :
    dropStart? t start = some rest ↔ t = start ++ rest := by
  induction start generalizing t with
  | nil => cases t <;> simp [dropStart?]
  | cons a start ih =>
      cases t with
      | nil => simp [dropStart?]
      | cons b t =>
          rw [dropStart?]
          split
          · rename_i hab
            rw [ih, List.cons_append, hab, List.cons.injEq, and_iff_right rfl]
          · rename_i hab
            simp [Ne.symm hab]

theorem dropStart?_append_append (a s t : Text) :
    dropStart? (a ++ s) (a ++ t) = dropStart? s t := by
  induction a with
  | nil => rfl
  | cons c a ih => rw [List.cons_append, List.cons_append, dropStart?, if_pos rfl, ih]

theorem dropStart?_append (start rest : Text) : dropStart? (start ++ rest) start = some rest :=
  dropStart?_eq_some_iff.mpr rfl

/-! ## Cutting at a separator -/

section Cutting

variable {sep : CodePoint} {t piece : Text}

theorem splitAt_of_not_mem (h : sep ∉ t) : splitAt sep t = [t] := by
  induction t with
  | nil => rfl
  | cons c t ih =>
      have hne : ¬ c = sep := by
        rintro rfl
        exact h List.mem_cons_self
      rw [splitAt, if_neg hne, ih fun hc => h (List.mem_cons_of_mem c hc)]

theorem splitAt_append_cons (h : sep ∉ t) (rest : Text) :
    splitAt sep (t ++ sep :: rest) = t :: splitAt sep rest := by
  induction t with
  | nil => rw [List.nil_append, splitAt, if_pos rfl]
  | cons c t ih =>
      have hne : ¬ c = sep := by
        rintro rfl
        exact h List.mem_cons_self
      rw [List.cons_append, splitAt, if_neg hne, ih fun hc => h (List.mem_cons_of_mem c hc)]

/-- The last piece goes on with what is put behind the text; the others do not. -/
theorem exists_splitAt_append (sep : CodePoint) (t : Text) :
    ∃ (front : List Text) (last : Text), sep ∉ last ∧
      ∀ u : Text, splitAt sep (t ++ u) = front ++ splitAt sep (last ++ u) := by
  -- the last piece is the one that what follows goes on with
  induction t with
  | nil => exact ⟨[], [], List.not_mem_nil, fun _ => rfl⟩
  | cons c t ih =>
      obtain ⟨front, last, hlast, hcut⟩ := ih
      by_cases hc : c = sep
      · refine ⟨[] :: front, last, hlast, fun u => ?_⟩
        rw [List.cons_append, splitAt, if_pos hc, hcut, List.cons_append]
      · cases front with
        | nil =>
            have hmem : sep ∉ c :: last := fun h =>
              (List.mem_cons.mp h).elim (fun hsep => hc hsep.symm) hlast
            refine ⟨[], c :: last, hmem, fun u => ?_⟩
            rw [List.cons_append, splitAt, if_neg hc, hcut, List.nil_append, List.nil_append,
              List.cons_append, splitAt, if_neg hc]
        | cons first front =>
            refine ⟨(c :: first) :: front, last, hlast, fun u => ?_⟩
            rw [List.cons_append, splitAt, if_neg hc, hcut, List.cons_append, List.cons_append]

theorem subset_of_mem_splitAt (h : piece ∈ splitAt sep t) :
    piece ⊆ t := by
  induction t generalizing piece with
  | nil =>
      rw [List.mem_singleton.mp h]
      exact List.Subset.refl []
  | cons c t ih =>
      -- a code point is cut at, or it goes to the front of the first piece of the rest
      rw [splitAt] at h
      split at h
      · rcases List.mem_cons.mp h with rfl | h
        · exact List.nil_subset _
        · exact List.subset_cons_of_subset c (ih h)
      · split at h
        · rw [List.mem_singleton.mp h]
          exact List.cons_subset_cons c (List.nil_subset t)
        · next first rest hsplit =>
            rw [hsplit] at ih
            rcases List.mem_cons.mp h with rfl | h
            · exact List.cons_subset_cons c (ih List.mem_cons_self)
            · exact List.subset_cons_of_subset c (ih (List.mem_cons_of_mem first h))

theorem not_mem_of_mem_splitAt (h : piece ∈ splitAt sep t) :
    sep ∉ piece := by
  induction t generalizing piece with
  | nil =>
      rw [List.mem_singleton.mp h]
      exact List.not_mem_nil
  | cons c t ih =>
      rw [splitAt] at h
      split at h
      · rcases List.mem_cons.mp h with rfl | h
        · exact List.not_mem_nil
        · exact ih h
      · next hc =>
          have hfirst : ∀ {first : Text}, sep ∉ first → sep ∉ c :: first := fun hfirst hmem =>
            (List.mem_cons.mp hmem).elim (fun hsep => hc hsep.symm) hfirst
          split at h
          · rw [List.mem_singleton.mp h]
            exact hfirst List.not_mem_nil
          · next first rest hsplit =>
              rw [hsplit] at ih
              rcases List.mem_cons.mp h with rfl | h
              · exact hfirst (ih List.mem_cons_self)
              · exact ih (List.mem_cons_of_mem first h)

end Cutting

/-! ## Texts that are joined -/

theorem join_cons (sep t : Text) (ts : List Text) :
    join sep (t :: ts) = t ++ ts.flatMap (sep ++ ·) := by
  induction ts generalizing t with
  | nil => simp [join]
  | cons u ts ih =>
      rw [List.flatMap_cons, ← List.append_assoc, ← List.append_assoc,
        show join sep (t :: u :: ts) = t ++ sep ++ join sep (u :: ts) from rfl, ih,
        ← List.append_assoc]

/-- What was joined is taken apart again; each part but the first begins with what stands behind the
separator. -/
theorem splitAt_join {sep : CodePoint} {tail t : Text} {ts : List Text} (htail : sep ∉ tail)
    (h : ∀ u ∈ t :: ts, sep ∉ u) :
    splitAt sep (join (sep :: tail) (t :: ts)) = t :: ts.map (tail ++ ·) := by
  induction ts generalizing t with
  | nil => exact splitAt_of_not_mem (h t List.mem_cons_self)
  | cons u ts ih =>
      have hjoin : join (sep :: tail) (t :: u :: ts) =
          t ++ sep :: join (sep :: tail) ((tail ++ u) :: ts) := by
        simp [join_cons]
      have hparts : ∀ v ∈ (tail ++ u) :: ts, sep ∉ v := by
        intro v hv
        rcases List.mem_cons.mp hv with rfl | hv
        · have hu := h u (by simp)
          simp [htail, hu]
        · exact h v (by simp [hv])
      rw [hjoin, splitAt_append_cons (h t List.mem_cons_self), ih hparts, List.map_cons]

end CallBindings.Text
