import Mathlib.Data.List.Lex
import Mathlib.Tactic.Common
import Mathlib.Tactic.Tauto

set_option autoImplicit false

/-! # The first fault on the way

Something nested is gone through step by step: a step either is a fault, or leads into a further
place, whose own steps are gone through before the next one. A fault has an address, the number
of the step in each place on the way to it, and the order of addresses (as words over the numbers)
is the order in which the steps are come by. The first fault is so told without any reference to
how the places are gone through. A computation that stops at the first error is matched with it
piece by piece: `Reports` is kept when one computation follows another.
-/

namespace CallBindings

/-- One step on the way through a place: a fault found there, or a place to go through. -/
inductive Step (ε α : Type) where
  | fault (e : ε)
  | visit (a : α)

section Addresses

variable {ε α : Type} (steps : α → List (Step ε α))

/-- The fault at an address: the number of a step, followed by an address in the place that is
visited there, if it is not a fault itself. -/
def faultAt : List ℕ → List (Step ε α) → Option ε
  | [], _ => none
  | i :: address, l =>
    match l[i]?, address with
    | some (.fault e), [] => some e
    | some (.visit a), _ => faultAt address (steps a)
    | _, _ => none

/-- Whether no fault comes up on the way through some steps. -/
def Faultless (l : List (Step ε α)) : Prop :=
  ∀ address, faultAt steps address l = none

/-- Whether `e` is the first fault on the way through some steps. -/
def FirstFault (l : List (Step ε α)) (e : ε) : Prop :=
  ∃ address, faultAt steps address l = some e ∧ ∀ q < address, faultAt steps q l = none

variable {steps} {l l' : List (Step ε α)} {a : α} {e e' : ε}

theorem faultAt_empty (address : List ℕ) : faultAt steps address [] = none := by
  cases address <;> simp [faultAt]

theorem faultAt_succ (i : ℕ) (address : List ℕ) (x : Step ε α) :
    faultAt steps ((i + 1) :: address) (x :: l) = faultAt steps (i :: address) l := by
  simp [faultAt]

theorem faultAt_visit (address : List ℕ) :
    faultAt steps (0 :: address) (.visit a :: l) = faultAt steps address (steps a) := by
  simp [faultAt]

/-- Addresses that begin behind the first step are ordered as they are from there. -/
theorem succ_cons_lt_succ_cons {i k : ℕ} {p q : List ℕ} :
    (k + 1) :: q < (i + 1) :: p ↔ k :: q < i :: p := by
  simp [List.cons_lt_cons_iff]

/-! ## One step after the other -/

theorem faultless_nil : Faultless steps [] := faultAt_empty

theorem not_faultless_fault : ¬ Faultless steps (.fault e :: l) := by
  intro h
  have h0 : faultAt steps [0] (.fault e :: l) = some e := by simp [faultAt]
  rw [h [0]] at h0
  exact absurd h0 (by simp)

theorem faultless_visit :
    Faultless steps (.visit a :: l) ↔ Faultless steps (steps a) ∧ Faultless steps l := by
  constructor
  · intro h
    refine ⟨fun address => by rw [← faultAt_visit]; exact h _, fun address => ?_⟩
    cases address with
    | nil => rfl
    | cons i address => rw [← faultAt_succ i address (.visit a)]; exact h _
  · rintro ⟨hinside, hlater⟩ address
    match address with
    | [] => rfl
    | 0 :: address => rw [faultAt_visit]; exact hinside address
    | (i + 1) :: address => rw [faultAt_succ]; exact hlater _

theorem not_firstFault_nil : ¬ FirstFault steps [] e := by
  rintro ⟨address, haddress, -⟩
  rw [faultAt_empty] at haddress
  exact absurd haddress (by simp)

/-- A fault that is the first step is the first fault. -/
theorem firstFault_fault : FirstFault steps (.fault e' :: l) e ↔ e = e' := by
  have h0 : faultAt steps [0] (.fault e' :: l) = some e' := by simp [faultAt]
  have hbefore : ∀ q < [0], faultAt steps q (.fault e' :: l) = none := by
    intro q hq
    cases q with
    | nil => rfl
    | cons i q => simp [List.cons_lt_cons_iff] at hq
  constructor
  · rintro ⟨address, haddress, hfirst⟩
    rcases lt_trichotomy address [0] with h | rfl | h
    · rw [hbefore address h] at haddress
      exact absurd haddress (by simp)
    · exact (Option.some.inj (h0.symm.trans haddress)).symm
    · rw [hfirst [0] h] at h0
      exact absurd h0 (by simp)
  · rintro rfl
    exact ⟨[0], h0, hbefore⟩

/-- The first fault is in the place that is visited first, or that has none and it comes later. -/
theorem firstFault_visit :
    FirstFault steps (.visit a :: l) e ↔
      FirstFault steps (steps a) e ∨ Faultless steps (steps a) ∧ FirstFault steps l e := by
  constructor
  · rintro ⟨address, haddress, hfirst⟩
    match address with
    | [] => exact absurd haddress (by simp [faultAt])
    | 0 :: address =>
        -- the fault is inside: what is before it there is before it here
        left
        rw [faultAt_visit] at haddress
        refine ⟨address, haddress, fun q hq => ?_⟩
        rw [← faultAt_visit (l := l)]
        exact hfirst _ (List.cons_lt_cons_iff.mpr (Or.inr ⟨rfl, hq⟩))
    | (i + 1) :: address =>
        -- the fault comes later: every address inside is before it, so none of them is a fault
        right
        rw [faultAt_succ] at haddress
        refine ⟨fun q => ?_, i :: address, haddress, fun q hq => ?_⟩
        · rw [← faultAt_visit (l := l)]
          exact hfirst _ (List.cons_lt_cons_iff.mpr (Or.inl (Nat.succ_pos i)))
        · cases q with
          | nil => rfl
          | cons k q =>
              rw [← faultAt_succ k q (.visit a)]
              exact hfirst _ (succ_cons_lt_succ_cons.mpr hq)
  · rintro (⟨address, haddress, hfirst⟩ | ⟨hnone, address, haddress, hfirst⟩)
    · refine ⟨0 :: address, by rwa [faultAt_visit], fun q hq => ?_⟩
      match q with
      | [] => rfl
      | 0 :: q =>
          rw [faultAt_visit]
          apply hfirst
          simpa [List.cons_lt_cons_iff] using hq
      | (k + 1) :: q => simp [List.cons_lt_cons_iff] at hq
    · cases address with
      | nil => exact absurd haddress (by simp [faultAt])
      | cons i address =>
          refine ⟨(i + 1) :: address, by rwa [faultAt_succ], fun q hq => ?_⟩
          match q with
          | [] => rfl
          | 0 :: q => rw [faultAt_visit]; exact hnone q
          | (k + 1) :: q =>
              rw [faultAt_succ]
              exact hfirst _ (succ_cons_lt_succ_cons.mp hq)

/-! ## Some steps after others -/

theorem faultless_append :
    Faultless steps (l ++ l') ↔ Faultless steps l ∧ Faultless steps l' := by
  induction l with
  | nil => simp [faultless_nil]
  | cons x l ih =>
      cases x with
      | fault e => simp [not_faultless_fault]
      | visit a => rw [List.cons_append, faultless_visit, faultless_visit, ih, and_assoc]

theorem firstFault_append :
    FirstFault steps (l ++ l') e ↔
      FirstFault steps l e ∨ Faultless steps l ∧ FirstFault steps l' e := by
  induction l with
  | nil => simp [not_firstFault_nil, faultless_nil]
  | cons x l ih =>
      cases x with
      | fault e' => simp [firstFault_fault, not_faultless_fault]
      | visit a =>
          rw [List.cons_append, firstFault_visit, firstFault_visit, faultless_visit, ih]
          tauto

/-- There is a first fault only if there is a fault. -/
theorem FirstFault.not_faultless (h : FirstFault steps l e) : ¬ Faultless steps l := by
  obtain ⟨address, haddress, -⟩ := h
  intro hnone
  rw [hnone address] at haddress
  exact absurd haddress (by simp)

/-- No two faults are first: addresses are linearly ordered. -/
theorem FirstFault.unique (h : FirstFault steps l e) (h' : FirstFault steps l e') : e = e' := by
  obtain ⟨address, haddress, hfirst⟩ := h
  obtain ⟨address', haddress', hfirst'⟩ := h'
  rcases lt_trichotomy address address' with hlt | rfl | hlt
  · rw [hfirst' address hlt] at haddress
    exact absurd haddress (by simp)
  · exact Option.some.inj (haddress.symm.trans haddress')
  · rw [hfirst address' hlt] at haddress'
    exact absurd haddress' (by simp)

/-- The first fault is one of the steps, or is found in a place that one of them leads to. -/
theorem FirstFault.fault_or_visit (h : FirstFault steps l e) :
    .fault e ∈ l ∨ ∃ a, .visit a ∈ l ∧ FirstFault steps (steps a) e := by
  induction l with
  | nil => exact absurd h not_firstFault_nil
  | cons x l ih =>
      cases x with
      | fault e' =>
          obtain rfl := firstFault_fault.mp h
          exact Or.inl List.mem_cons_self
      | visit a =>
          rcases firstFault_visit.mp h with hinside | ⟨-, hlater⟩
          · exact Or.inr ⟨a, List.mem_cons_self, hinside⟩
          · rcases ih hlater with hmem | ⟨b, hmem, hb⟩
            · exact Or.inl (List.mem_cons_of_mem _ hmem)
            · exact Or.inr ⟨b, List.mem_cons_of_mem _ hmem, hb⟩

end Addresses

/-! ## Computations that come through -/

section

variable {ε α β : Type} {x : Except ε α} {b : β}

theorem bind_eq_ok {f : α → Except ε β} :
    x >>= f = .ok b ↔ ∃ a, x = .ok a ∧ f a = .ok b := by
  cases x with
  | error e =>
      constructor
      · intro h
        cases h
      · rintro ⟨_, h, _⟩
        cases h
  | ok a =>
      constructor
      · intro h
        exact ⟨a, rfl, h⟩
      · rintro ⟨_, h, hf⟩
        cases h
        exact hf

theorem bind_eq_error {e : ε} {f : α → Except ε β} :
    x >>= f = .error e ↔ x = .error e ∨ ∃ a, x = .ok a ∧ f a = .error e := by
  cases x with
  | error e' =>
      constructor
      · exact fun h => Or.inl (congrArg Except.error (Except.error.inj h))
      · rintro (h | ⟨_, h, _⟩)
        · exact congrArg Except.error (Except.error.inj h)
        · cases h
  | ok a =>
      constructor
      · exact fun h => Or.inr ⟨a, rfl, h⟩
      · rintro (h | ⟨_, h, hf⟩)
        · cases h
        · cases h
          exact hf

theorem eq_ok_of_toOption {x : Except ε α} {a : α} (h : x.toOption = some a) : x = .ok a := by
  cases x with
  | error e => cases h
  | ok a' => exact congrArg Except.ok (Option.some.inj h)

theorem map_eq_error {e : ε} {f : α → β} : x.map f = .error e ↔ x = .error e := by
  cases x with
  | error e' => exact ⟨fun h => congrArg Except.error (Except.error.inj h),
      fun h => congrArg Except.error (Except.error.inj h)⟩
  | ok a =>
      constructor
      · intro h
        cases h
      · intro h
        cases h

theorem map_eq_ok {f : α → β} : x.map f = .ok b ↔ ∃ a, x = .ok a ∧ f a = b := by
  cases x with
  | error e =>
      constructor
      · intro h
        cases h
      · rintro ⟨_, h, _⟩
        cases h
  | ok a =>
      constructor
      · intro h
        cases h
        exact ⟨a, rfl, rfl⟩
      · rintro ⟨_, h, rfl⟩
        cases h
        rfl

end

/-! ## Computations that stop at the first fault -/

section Reports

variable {ε α δ β γ : Type} (steps : α → List (Step ε α)) (wording : ε → δ)

/-- What a computation that goes through some steps gives: an error for the first fault, and
something else only if there is none. -/
def Reports (l : List (Step ε α)) : Except δ β → Prop
  | .ok _ => Faultless steps l
  | .error e => ∃ o, FirstFault steps l o ∧ e = wording o

variable {steps wording} {l l' : List (Step ε α)} {r : Except δ β}

theorem reports_fault (e : ε) :
    Reports steps wording (.fault e :: l) (.error (wording e) : Except δ β) :=
  ⟨e, firstFault_fault.mpr rfl, rfl⟩

theorem Reports.visit {a : α} (h : Reports steps wording (steps a) r) :
    Reports steps wording [.visit a] r := by
  cases r with
  | ok b => exact faultless_visit.mpr ⟨h, faultless_nil⟩
  | error e =>
      obtain ⟨o, ho, rfl⟩ := h
      exact ⟨o, firstFault_visit.mpr (Or.inl ho), rfl⟩

/-- The second of two computations goes through its steps once the first has come through. -/
theorem Reports.bind {f : β → Except δ γ} (h : Reports steps wording l r)
    (hf : ∀ b, r = .ok b → Reports steps wording l' (f b)) :
    Reports steps wording (l ++ l') (r >>= f) := by
  cases r with
  | error e =>
      obtain ⟨o, ho, rfl⟩ := h
      exact ⟨o, firstFault_append.mpr (Or.inl ho), rfl⟩
  | ok b =>
      have hb := hf b rfl
      show Reports steps wording (l ++ l') (f b)
      cases hfb : f b with
      | ok c =>
          rw [hfb] at hb
          exact faultless_append.mpr ⟨h, hb⟩
      | error e =>
          rw [hfb] at hb
          obtain ⟨o, ho, rfl⟩ := hb
          exact ⟨o, firstFault_append.mpr (Or.inr ⟨h, ho⟩), rfl⟩

theorem Reports.map (f : β → γ) (h : Reports steps wording l r) :
    Reports steps wording l (r.map f) := by
  cases r with
  | ok b => exact h
  | error e => exact h

theorem Reports.error_iff (h : Reports steps wording l r) {e : δ} :
    r = .error e ↔ ∃ o, FirstFault steps l o ∧ e = wording o := by
  cases r with
  | ok b =>
      constructor
      · intro hr
        cases hr
      · rintro ⟨o, ho, -⟩
        exact absurd h ho.not_faultless
  | error e' =>
      obtain ⟨o', ho', rfl⟩ := h
      constructor
      · intro hr
        exact ⟨o', ho', (Except.error.inj hr).symm⟩
      · rintro ⟨o, ho, rfl⟩
        rw [ho'.unique ho]

end Reports

end CallBindings
