import Mathlib.Data.List.Basic
import Mathlib.Data.List.Induction
import Mathlib.Tactic.Common

set_option autoImplicit false

/-! # Histories

A history is a list of what has happened, the latest at its end. What it says is often that
something has happened and nothing has undone it since; that is told by where the history can be cut
in two, and found by going through the history from its beginning. What a history has made of a
state is found in the same way: a relation between the two that holds at the beginning, and that
each step keeps, holds at any time.
-/

namespace CallBindings

variable {α σ : Type} {P : List α → α → Prop} {Q : α → Prop} {history before after : List α}
  {a b : α}

/-- Whether something has happened that is as `P` says, after what had happened before it, and
everything since then is as `Q` says. -/
def Since (P : List α → α → Prop) (Q : α → Prop) (history : List α) : Prop :=
  ∃ before a after, history = before ++ a :: after ∧ P before a ∧ ∀ b ∈ after, Q b

theorem not_since_nil : ¬ Since P Q [] := by
  rintro ⟨before, a, after, h, -⟩
  exact List.append_ne_nil_of_right_ne_nil before (List.cons_ne_nil a after) h.symm

/-- A history that goes on can be cut at its end, or where it could be cut before. -/
theorem concat_eq_append_cons : history ++ [b] = before ++ a :: after ↔
    (history = before ∧ b = a ∧ after = []) ∨
      ∃ rest, after = rest ++ [b] ∧ history = before ++ a :: rest := by
  -- what follows the cut is empty, or ends as the whole does
  rcases List.eq_nil_or_concat after with rfl | ⟨rest, last, rfl⟩
  · rw [List.append_singleton_inj]
    simp
  · rw [List.concat_eq_append, ← List.cons_append, ← List.append_assoc, List.append_singleton_inj]
    constructor
    · rintro ⟨rfl, rfl⟩
      exact Or.inr ⟨rest, rfl, rfl⟩
    · rintro (⟨-, -, hnil⟩ | ⟨rest', hrest, rfl⟩)
      · exact absurd hnil (List.append_ne_nil_of_right_ne_nil rest (List.cons_ne_nil last []))
      · obtain ⟨rfl, rfl⟩ := List.append_singleton_inj.mp hrest
        exact ⟨rfl, rfl⟩

theorem since_concat : Since P Q (history ++ [a]) ↔ P history a ∨ Q a ∧ Since P Q history := by
  constructor
  · rintro ⟨before, b, after, heq, hP, hQ⟩
    rcases concat_eq_append_cons.mp heq with ⟨rfl, rfl, -⟩ | ⟨rest, rfl, rfl⟩
    · exact Or.inl hP
    · rw [List.forall_mem_append] at hQ
      exact Or.inr ⟨hQ.2 a (List.mem_singleton_self a), before, b, rest, rfl, hP, hQ.1⟩
  · rintro (hP | ⟨ha, before, b, after, rfl, hP, hQ⟩)
    · exact ⟨history, a, [], rfl, hP, List.forall_mem_nil _⟩
    · refine ⟨before, b, after ++ [a], List.append_assoc _ _ _, hP, ?_⟩
      rw [List.forall_mem_append, List.forall_mem_singleton]
      exact ⟨hQ, ha⟩

/-- What relates a state to its history at the beginning, and is kept by each step, relates them
after any history. -/
theorem foldl_related {R : List α → σ → Prop} {step : σ → α → σ} {start : σ} (hstart : R [] start)
    (hstep : ∀ history s a, R history s → R (history ++ [a]) (step s a)) (history : List α) :
    R history (history.foldl step start) := by
  -- the last step is taken last, so the induction is on the history from its end
  induction history using List.reverseRecOn with
  | nil => exact hstart
  | append_singleton history a ih =>
      rw [List.foldl_concat]
      exact hstep history _ a ih

end CallBindings
