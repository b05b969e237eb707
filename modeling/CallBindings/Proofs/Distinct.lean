import CallBindings.Text.Basic
import Mathlib

set_option autoImplicit false

/-! # Lists without repeats

`distinct` keeps the first occurrence of each member. What it does to a list that is put
together from parts depends on the parts only through their distinct members, so repeats may
be dropped early or late.
-/

namespace CallBindings

variable {α β : Type} [DecidableEq α] [DecidableEq β]

@[simp] theorem distinct_nil : distinct ([] : List α) = [] := rfl

theorem distinct_cons (a : α) (as : List α) :
    distinct (a :: as) = a :: (distinct as).filter (· ≠ a) := rfl

@[simp] theorem mem_distinct {a : α} {as : List α} : a ∈ distinct as ↔ a ∈ as := by
  induction as with
  | nil => rfl
  | cons b as ih =>
      rw [distinct_cons, List.mem_cons, List.mem_filter, ih, List.mem_cons]
      by_cases h : a = b <;> simp [h]

theorem nodup_distinct (as : List α) : (distinct as).Nodup := by
  induction as with
  | nil => exact List.nodup_nil
  | cons a as ih =>
      rw [distinct_cons, List.nodup_cons]
      exact ⟨by simp, ih.filter _⟩

theorem distinct_of_nodup {as : List α} (h : as.Nodup) : distinct as = as := by
  induction as with
  | nil => rfl
  | cons a as ih =>
      obtain ⟨ha, has⟩ := List.nodup_cons.mp h
      rw [distinct_cons, ih has, List.filter_eq_self.mpr]
      intro b hb
      simp only [ne_eq, decide_eq_true_eq]
      rintro rfl
      exact ha hb

theorem distinct_eq_self_iff {as : List α} : distinct as = as ↔ as.Nodup :=
  ⟨fun h => h ▸ nodup_distinct as, distinct_of_nodup⟩

omit [DecidableEq α] [DecidableEq β] in
/-- Different members stay without repeats exactly if none of them become equal. -/
theorem nodup_map_iff {f : α → β} {as : List α} (h : as.Nodup) :
    (as.map f).Nodup ↔ ∀ a ∈ as, ∀ b ∈ as, a ≠ b → f a ≠ f b := by
  rw [List.nodup_map_iff_inj_on h]
  refine forall₂_congr fun a _ => forall₂_congr fun b _ => ?_
  exact not_imp_not.symm

theorem distinct_filter (p : α → Bool) (as : List α) :
    distinct (as.filter p) = (distinct as).filter p := by
  induction as with
  | nil => rfl
  | cons a as ih =>
      rw [distinct_cons]
      by_cases hp : p a = true
      · rw [List.filter_cons_of_pos hp, distinct_cons, ih, List.filter_cons_of_pos hp,
          List.filter_filter, List.filter_filter]
        simp only [Bool.and_comm]
      · rw [List.filter_cons_of_neg hp, ih, List.filter_cons_of_neg hp, List.filter_filter]
        refine List.filter_congr fun b _ => ?_
        by_cases hb : b = a
        · subst hb
          simp [hp]
        · simp [hb]

theorem distinct_map {f : α → β} {as : List α}
    (h : ∀ a ∈ as, ∀ b ∈ as, f a = f b → a = b) :
    distinct (as.map f) = (distinct as).map f := by
  induction as with
  | nil => rfl
  | cons a as ih =>
      rw [List.map_cons, distinct_cons, distinct_cons, List.map_cons,
        ih fun b hb c hc => h b (List.mem_cons_of_mem a hb) c (List.mem_cons_of_mem a hc),
        List.filter_map]
      congr 2
      refine List.filter_congr fun b hb => ?_
      have hb : b ∈ as := mem_distinct.mp hb
      have hiff : f b = f a ↔ b = a :=
        ⟨h b (List.mem_cons_of_mem a hb) a List.mem_cons_self, congrArg f⟩
      simp [hiff]

/-- Of what is appended only the members that are new count. -/
theorem distinct_append (as bs : List α) :
    distinct (as ++ bs) = distinct as ++ (distinct bs).filter (· ∉ as) := by
  induction as with
  | nil => simp
  | cons a as ih =>
      rw [List.cons_append, distinct_cons, ih, distinct_cons, List.filter_append,
        List.filter_filter, List.cons_append]
      congr 3
      funext b
      simp

theorem distinct_append_congr {as as' bs bs' : List α} (ha : distinct as = distinct as')
    (hb : distinct bs = distinct bs') : distinct (as ++ bs) = distinct (as' ++ bs') := by
  have hmem : ∀ b, b ∈ as ↔ b ∈ as' := by
    intro b
    rw [← mem_distinct, ha, mem_distinct]
  rw [distinct_append, distinct_append, ha, hb]
  simp only [hmem]

/-! ## Parts that depend on members -/

variable {γ : Type}

theorem distinct_flatMap_congr {as : List γ} {f g : γ → List α}
    (h : ∀ a ∈ as, distinct (f a) = distinct (g a)) :
    distinct (as.flatMap f) = distinct (as.flatMap g) := by
  induction as with
  | nil => rfl
  | cons a as ih =>
      rw [List.flatMap_cons, List.flatMap_cons]
      exact distinct_append_congr (h a List.mem_cons_self)
        (ih fun b hb => h b (List.mem_cons_of_mem a hb))

/-- Behind the part of a member the parts of its repeats add nothing. -/
theorem distinct_append_flatMap_filter (f : β → List α) (a : β) (bs : List β) :
    distinct (f a ++ (bs.filter (· ≠ a)).flatMap f) = distinct (f a ++ bs.flatMap f) := by
  rw [distinct_append, distinct_append, ← distinct_filter, ← distinct_filter]
  congr 2
  -- what `f a` holds is left out behind it, so a further `a` contributes nothing
  induction bs with
  | nil => rfl
  | cons b bs ih =>
      by_cases hb : b = a
      · have hnone : (f a).filter (· ∉ f a) = [] := by
          rw [List.filter_eq_nil_iff]
          intro c hc
          simp [hc]
        subst hb
        rw [List.filter_cons_of_neg (by simp), ih, List.flatMap_cons, List.filter_append, hnone,
          List.nil_append]
      · rw [List.filter_cons_of_pos (by simpa using hb), List.flatMap_cons, List.flatMap_cons,
          List.filter_append, List.filter_append, ih]

/-- Repeats can be dropped before the parts are put together. -/
theorem distinct_flatMap_distinct (f : β → List α) (bs : List β) :
    distinct ((distinct bs).flatMap f) = distinct (bs.flatMap f) := by
  induction bs with
  | nil => rfl
  | cons b bs ih =>
      rw [distinct_cons, List.flatMap_cons, distinct_append_flatMap_filter, List.flatMap_cons]
      exact distinct_append_congr rfl ih

end CallBindings
