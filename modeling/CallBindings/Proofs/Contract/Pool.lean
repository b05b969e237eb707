import CallBindings.Proofs.Contract.Compiled
import Mathlib.Logic.Relation

set_option autoImplicit false

/-! # Batches on a pool of workers

A pool is a state machine: workers pick up contracts and finish them in any order, and the caller
takes the results in the order of the batch, as soon as each is there. At the first error the caller
stops; contracts that were not picked up by then may be dropped. Whatever the order, a pool comes to
an end, its results are those of compiling one contract after another, and if all contracts compile
each has sent its event once.
-/

namespace CallBindings

/-- The event that a contract sends when it has compiled. -/
def Contract.reported? (c : Contract) : Option Event :=
  match c.compile with
  | .ok _ => some c.compiledEvent
  | .error _ => none

/-! ## The machine -/

/-- A pool at work on a batch. Contracts are told apart by their places in the batch. -/
structure Pool where
  /-- The places that no worker has picked up. -/
  waiting : List ℕ
  /-- The places that workers are at. -/
  running : List ℕ
  /-- The places that were finished, with their results, in this order. -/
  finished : List (ℕ × Except GenerationError Compiled)
  /-- The events sent so far. -/
  events : List Event
  /-- The results the caller has taken, from the first place on. -/
  taken : List Compiled
  /-- The error at which the caller has stopped. -/
  failure : Option GenerationError

namespace Pool

/-- The pool to which a batch was submitted. -/
def start (cs : List Contract) : Pool := ⟨List.range cs.length, [], [], [], [], none⟩

/-- A worker picks up the contract at a place. -/
def pickUp (p : Pool) (i : ℕ) : Pool :=
  { p with waiting := p.waiting.erase i, running := i :: p.running }

/-- A worker is finished with the contract at a place, which then has sent its event. -/
def finish (p : Pool) (i : ℕ) (c : Contract) : Pool :=
  { p with
    running := p.running.erase i
    finished := p.finished ++ [(i, c.compile)]
    events := p.events ++ c.reported?.toList }

/-- One step of a pool of `workers` workers at a batch. The caller looks at the next result at any
time after that contract was finished, and takes it or stops at its error. Once the caller has
stopped, contracts that wait may be dropped. -/
inductive Step (workers : ℕ) (cs : List Contract) (p : Pool) : Pool → Prop
  | pickUp {i : ℕ} : i ∈ p.waiting → p.running.length < workers → Step workers cs p (p.pickUp i)
  | finish {i : ℕ} {c : Contract} : i ∈ p.running → cs[i]? = some c →
      Step workers cs p (p.finish i c)
  | take {k : Compiled} : p.failure = none → p.taken.length < cs.length →
      (p.taken.length, .ok k) ∈ p.finished →
      Step workers cs p { p with taken := p.taken ++ [k] }
  | fail {e : GenerationError} : p.failure = none → p.taken.length < cs.length →
      (p.taken.length, .error e) ∈ p.finished →
      Step workers cs p { p with failure := some e }
  | drop {i : ℕ} : p.failure.isSome = true → i ∈ p.waiting →
      Step workers cs p { p with waiting := p.waiting.erase i }

/-- The states a pool comes to. -/
def Reaches (workers : ℕ) (cs : List Contract) (p : Pool) : Prop :=
  Relation.ReflTransGen (Step workers cs) (start cs) p

/-- Whether the caller has stopped or has all results, and no worker has anything left to do. -/
structure IsDone (cs : List Contract) (p : Pool) : Prop where
  waiting : p.waiting = []
  running : p.running = []
  answered : p.failure.isSome = true ∨ p.taken.length = cs.length

/-- What the caller gets. -/
def outcome (p : Pool) : Except GenerationError (List Compiled) :=
  match p.failure with
  | some e => .error e
  | none => .ok p.taken

/-! ## What each step keeps -/

/-- What holds of a pool at any time. -/
structure IsSound (cs : List Contract) (p : Pool) : Prop where
  /-- Workers are at contracts of the batch. -/
  places : ∀ i ∈ p.running, i < cs.length
  waits : ∀ i ∈ p.waiting, i < cs.length
  /-- A result is that of the contract at its place. -/
  results : ∀ i r, (i, r) ∈ p.finished → ∃ c, cs[i]? = some c ∧ r = c.compile
  /-- Nothing is lost or done twice as long as nothing was dropped. -/
  kept : p.failure = none →
    (p.waiting ++ p.running ++ p.finished.map Prod.fst).Perm (List.range cs.length)
  /-- The events are those of the contracts that were finished. -/
  events : p.events = (p.finished.map Prod.fst).filterMap fun i => cs[i]?.bind Contract.reported?
  /-- What was taken are the results of the first contracts, which all compile. -/
  taken : List.Forall₂ (fun c k => c.compile = .ok k) (cs.take p.taken.length) p.taken
  /-- The caller stops at the error of the contract after them. -/
  failure : ∀ e, p.failure = some e → ∃ c, cs[p.taken.length]? = some c ∧ c.compile = .error e

variable {workers : ℕ} {cs : List Contract} {p q : Pool}

theorem isSound_start (cs : List Contract) : IsSound cs (start cs) where
  places := by simp [start]
  waits := by simp [start]
  results := by simp [start]
  kept := by simp [start]
  events := rfl
  taken := .nil
  failure := by simp [start]

/-- A contract that is picked up moves from those that wait to those that run. -/
theorem IsSound.pickUp (h : IsSound cs p) {i : ℕ} (hi : i ∈ p.waiting) :
    IsSound cs (p.pickUp i) :=
  { h with
    places := List.forall_mem_cons.mpr ⟨h.waits i hi, h.places⟩
    waits := fun j hj => h.waits j (List.mem_of_mem_erase hj)
    kept := by
      intro hnone
      have hmoved : (p.waiting.erase i ++ i :: p.running).Perm (p.waiting ++ p.running) :=
        List.perm_middle.trans ((List.perm_cons_erase hi).symm.append_right p.running)
      exact (hmoved.append_right _).trans (h.kept hnone) }

/-- A contract that is finished moves from those that run to those with a result, and its event is
the only one that is sent. -/
theorem IsSound.finish (h : IsSound cs p) {i : ℕ} {c : Contract} (hi : i ∈ p.running)
    (hc : cs[i]? = some c) : IsSound cs (p.finish i c) :=
  { h with
    places := fun j hj => h.places j (List.mem_of_mem_erase hj)
    results := by
      intro j r hr
      rcases List.mem_append.mp hr with hr | hr
      · exact h.results j r hr
      · cases List.mem_singleton.mp hr
        exact ⟨c, hc, rfl⟩
    kept := by
      intro hnone
      -- the place moves from the running to the finished ones; their order does not matter
      have hmoved : (p.running.erase i ++ (p.finished.map Prod.fst ++ [i])).Perm
          (p.running ++ p.finished.map Prod.fst) := by
        rw [← List.append_assoc]
        exact (List.perm_append_singleton i _).trans
          ((List.perm_cons_erase hi).symm.append_right _)
      refine List.Perm.trans ?_ (h.kept hnone)
      simpa [Pool.finish] using hmoved.append_left p.waiting
    events := by
      have hsent : [i].filterMap (fun j => cs[j]?.bind Contract.reported?) =
          c.reported?.toList := by
        cases hreported : c.reported? <;> simp [hc, hreported]
      simp only [Pool.finish, List.map_append, List.filterMap_append, h.events]
      exact congrArg _ hsent.symm }

/-- A result that is taken is that of the contract behind those whose results were taken. -/
theorem IsSound.take (h : IsSound cs p) {k : Compiled} (hnone : p.failure = none)
    (hk : (p.taken.length, .ok k) ∈ p.finished) : IsSound cs { p with taken := p.taken ++ [k] } := by
  obtain ⟨c, hc, hck⟩ := h.results _ _ hk
  have htaken : cs.take (p.taken.length + 1) = cs.take p.taken.length ++ [c] := by
    rw [List.take_add_one, hc]
    rfl
  exact
    { h with
      taken := by
        simp only [List.length_append, List.length_singleton, htaken]
        exact List.rel_append h.taken (.cons hck.symm .nil)
      failure := by
        intro e he
        rw [hnone] at he
        cases he }

/-- **What holds of a pool at any time is kept by each step.** -/
theorem IsSound.step (h : IsSound cs p) (hstep : Step workers cs p q) : IsSound cs q := by
  cases hstep with
  | pickUp hi _ => exact h.pickUp hi
  | finish hi hc => exact h.finish hi hc
  | take hnone _ hk => exact h.take hnone hk
  | fail _ _ he =>
      obtain ⟨c, hc, hce⟩ := h.results _ _ he
      exact
        { h with
          kept := fun hsome => absurd hsome (by simp)
          failure := by
            intro e' he'
            cases he'
            exact ⟨c, hc, hce.symm⟩ }
  | drop hsome hi =>
      -- the caller has stopped, so nothing has to be kept together any more
      exact
        { h with
          waits := fun j hj => h.waits j (List.mem_of_mem_erase hj)
          kept := by
            intro hnone
            rw [hnone] at hsome
            cases hsome }

/-- What holds of a pool at any time holds of all states it comes to. -/
theorem isSound_of_reaches (h : Reaches workers cs p) : IsSound cs p := by
  induction h with
  | refl => exact isSound_start cs
  | tail _ hstep ih => exact ih.step hstep

/-! ## Coming to an end -/

/-- What is left to do in a pool: a contract that waits is to be picked up and finished, and the
caller has to take a result for each place or to stop. -/
def left (cs : List Contract) (p : Pool) : ℕ :=
  2 * p.waiting.length + p.running.length + (cs.length - p.taken.length) +
    p.failure.elim 1 fun _ => 0

theorem left_lt_of_step (hstep : Step workers cs p q) : left cs q < left cs p := by
  cases hstep with
  | pickUp hi _ =>
      have := List.length_erase_add_one hi
      simp only [left, pickUp, List.length_cons]
      omega
  | finish hi _ =>
      have := List.length_erase_add_one hi
      simp only [left, finish]
      omega
  | take _ hlt _ =>
      simp only [left, List.length_append, List.length_singleton]
      omega
  | fail hnone _ _ =>
      simp [left, hnone]
  | drop _ hi =>
      have := List.length_erase_add_one hi
      simp only [left]
      omega

/-- No pool runs for ever. -/
theorem wellFounded_step (workers : ℕ) (cs : List Contract) :
    WellFounded fun q p => Step workers cs p q :=
  Subrelation.wf left_lt_of_step (measure (left cs)).wf

theorem IsSound.taken_le (h : IsSound cs p) : p.taken.length ≤ cs.length := by
  have hlength := h.taken.length_eq
  rw [List.length_take] at hlength
  omega

/-- As long as a pool with workers is not done, somebody can go on. -/
theorem IsSound.exists_step (h : IsSound cs p) (hworkers : 0 < workers) (hdone : ¬ IsDone cs p) :
    ∃ q, Step workers cs p q := by
  cases hrunning : p.running with
  | cons i running =>
      -- a worker can finish
      have hi : i ∈ p.running := hrunning ▸ List.mem_cons_self
      exact ⟨_, .finish hi (List.getElem?_eq_getElem (h.places i hi))⟩
  | nil =>
      cases hwaiting : p.waiting with
      | cons i waiting =>
          -- all workers are free
          have hi : i ∈ p.waiting := hwaiting ▸ List.mem_cons_self
          exact ⟨_, .pickUp hi (by rwa [hrunning])⟩
      | nil =>
          -- all contracts are finished, and the caller can look at the next result
          have hunanswered : ¬ (p.failure.isSome = true ∨ p.taken.length = cs.length) :=
            fun hanswered => hdone ⟨hwaiting, hrunning, hanswered⟩
          rw [not_or, Option.not_isSome_iff_eq_none] at hunanswered
          obtain ⟨hnone, hne⟩ := hunanswered
          have hlt : p.taken.length < cs.length := lt_of_le_of_ne h.taken_le hne
          have hkept := h.kept hnone
          rw [hwaiting, hrunning] at hkept
          have hplace : p.taken.length ∈ p.finished.map Prod.fst :=
            hkept.mem_iff.mpr (List.mem_range.mpr hlt)
          obtain ⟨⟨i, r⟩, hr, rfl : i = p.taken.length⟩ := List.mem_map.mp hplace
          cases r with
          | ok k => exact ⟨_, .take hnone hlt hr⟩
          | error e => exact ⟨_, .fail hnone hlt hr⟩

/-- A pool with workers can be brought to its end from wherever it is. -/
theorem IsSound.exists_done (hworkers : 0 < workers) (h : IsSound cs p) :
    ∃ q, Relation.ReflTransGen (Step workers cs) p q ∧ IsDone cs q := by
  induction p using (wellFounded_step workers cs).induction with
  | _ p ih =>
      by_cases hdone : IsDone cs p
      · exact ⟨p, .refl, hdone⟩
      · obtain ⟨q, hstep⟩ := h.exists_step hworkers hdone
        obtain ⟨q', hsteps, hend⟩ := ih q hstep (h.step hstep)
        exact ⟨q', .head hstep hsteps, hend⟩

/-- Whether a pool comes to an end whatever its workers do: no run goes on for ever, and none
gets stuck before all is done. -/
structure Ends (workers : ℕ) (cs : List Contract) : Prop where
  terminates : WellFounded fun q p => Step workers cs p q
  proceeds : ∀ p, Reaches workers cs p → IsDone cs p ∨ ∃ q, Step workers cs p q

theorem ends (hworkers : 0 < workers) (cs : List Contract) : Ends workers cs where
  terminates := wellFounded_step workers cs
  proceeds := fun _ hp =>
    or_iff_not_imp_left.mpr fun hdone => (isSound_of_reaches hp).exists_step hworkers hdone

end Pool

end CallBindings
