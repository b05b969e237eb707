import CallBindings.Proofs.Contract.Pool

set_option autoImplicit false

/-! # Batches compile alike on a pool and one contract after another

A batch that was compiled by a pool ends as if its contracts had been compiled one after another,
whatever the order in which the workers went on: with the error of the first contract that does
not compile, or with the first id that repeats an earlier one, or with what each contract compiles
to, in the order of the batch. The events are the same up to their order.
-/

namespace CallBindings

/-! ## How a batch ends -/

/-- Whether `e` is the error of the first contract that does not compile. -/
def FirstFailure (cs : List Contract) (e : GenerationError) : Prop :=
  ∃ before c after, cs = before ++ c :: after ∧ (∀ d ∈ before, ∃ k, d.compile = .ok k) ∧
    c.compile = .error e

/-- Whether `id` is the first that equals one before it. -/
def FirstRepeat (ids : List Text) (id : Text) : Prop :=
  ∃ before after, ids = before ++ id :: after ∧ before.Nodup ∧ id ∈ before

/-- How a batch ends: an error of a contract on its own comes before a repeated id. -/
inductive Ending (cs : List Contract) : Except GenerationError (List Compiled) → Prop
  | failed {e : GenerationError} : FirstFailure cs e → Ending cs (.error e)
  | repeated {ks : List Compiled} {id : Text} :
      List.Forall₂ (fun c k => c.compile = .ok k) cs ks → FirstRepeat (cs.map (·.id)) id →
      Ending cs (.error (.duplicateId id))
  | compiled {ks : List Compiled} :
      List.Forall₂ (fun c k => c.compile = .ok k) cs ks → (cs.map (·.id)).Nodup →
      Ending cs (.ok ks)

theorem Contract.id_of_compile {c : Contract} {k : Compiled} (h : c.compile = .ok k) :
    k.id = c.id := by
  rw [compile] at h
  split at h
  · cases h
  · split at h
    · cases h
    · obtain ⟨request, -, h⟩ := bind_eq_ok.mp h
      obtain ⟨value, -, h⟩ := bind_eq_ok.mp h
      obtain ⟨failures, -, h⟩ := bind_eq_ok.mp h
      obtain ⟨references, -, h⟩ := bind_eq_ok.mp h
      cases h
      rfl

namespace Compiled

variable {cs : List Contract} {ks : List Compiled}

theorem firstFailure_nil {e : GenerationError} : ¬ FirstFailure [] e := by
  simp [FirstFailure]

/-- The first failure is that of the first contract, or that contract compiles and it is the first
failure of the others. -/
theorem firstFailure_cons {c : Contract} {e : GenerationError} : FirstFailure (c :: cs) e ↔
    c.compile = .error e ∨ (∃ k, c.compile = .ok k) ∧ FirstFailure cs e := by
  constructor
  · rintro ⟨before, d, after, heq, hbefore, hd⟩
    cases before with
    | nil =>
        cases heq
        exact Or.inl hd
    | cons b before =>
        cases heq
        obtain ⟨hc, hbefore⟩ := List.forall_mem_cons.mp hbefore
        exact Or.inr ⟨hc, before, d, after, rfl, hbefore, hd⟩
  · rintro (hc | ⟨hc, before, d, after, rfl, hbefore, hd⟩)
    · exact ⟨[], c, cs, rfl, List.forall_mem_nil _, hc⟩
    · exact ⟨c :: before, d, after, rfl, List.forall_mem_cons.mpr ⟨hc, hbefore⟩, hd⟩

/-- One contract after another compiles up to the first that fails. -/
theorem each_eq_error {e : GenerationError} : (each cs).2 = .error e ↔ FirstFailure cs e := by
  induction cs with
  | nil => exact iff_of_false nofun firstFailure_nil
  | cons c cs ih =>
      rw [each, firstFailure_cons]
      cases hc : c.compile with
      | error e' => simp
      | ok k =>
          show (each cs).2.map (k :: ·) = .error e ↔ _
          rw [map_eq_error, ih]
          simp

theorem repeatedId?_eq_some_iff {seen : List Text} {id : Text} :
    repeatedId? seen ks = some id ↔ ∃ before after, ks.map (·.id) = before ++ id :: after ∧
      before.Nodup ∧ (∀ x ∈ before, x ∉ seen) ∧ (id ∈ seen ∨ id ∈ before) := by
  induction ks generalizing seen with
  | nil => simp [repeatedId?]
  | cons k ks ih =>
      rw [repeatedId?, List.map_cons]
      by_cases hk : k.id ∈ seen
      · -- `k` repeats an id, and nothing stands before it
        rw [if_pos (by simpa using hk)]
        constructor
        · rintro ⟨⟩
          exact ⟨[], _, rfl, by simp, by simp, Or.inl hk⟩
        · rintro ⟨before, after, heq, -, hseen, -⟩
          cases before with
          | nil => rw [(List.cons.inj heq).1]
          | cons x before =>
              obtain ⟨rfl, -⟩ := List.cons.inj heq
              exact absurd hk (hseen _ List.mem_cons_self)
      · -- `k` is new: what repeats behind it repeats one that was seen, `k` among them
        rw [if_neg (by simpa using hk), ih]
        constructor
        · rintro ⟨before, after, heq, hnodup, hseen, hid⟩
          refine ⟨k.id :: before, after, by rw [heq, List.cons_append], ?_, ?_, ?_⟩
          · exact List.nodup_cons.mpr
              ⟨fun hmem => hseen _ hmem List.mem_cons_self, hnodup⟩
          · refine List.forall_mem_cons.mpr ⟨hk, fun x hx hmem => ?_⟩
            exact hseen x hx (List.mem_cons_of_mem _ hmem)
          · simp only [List.mem_cons] at hid ⊢
            tauto
        · rintro ⟨before, after, heq, hnodup, hseen, hid⟩
          cases before with
          | nil =>
              obtain ⟨rfl, -⟩ := List.cons.inj heq
              rcases hid with hid | hid
              · exact absurd hid hk
              · cases hid
          | cons x before =>
              obtain ⟨rfl, hrest⟩ := List.cons.inj heq
              obtain ⟨hx, hnodup⟩ := List.nodup_cons.mp hnodup
              refine ⟨before, after, hrest, hnodup, fun y hy hmem => ?_, ?_⟩
              · rcases List.mem_cons.mp hmem with rfl | hmem
                · exact hx hy
                · exact hseen y (List.mem_cons_of_mem _ hy) hmem
              · simp only [List.mem_cons] at hid ⊢
                tauto

theorem conclude_eq_error {compiled : List Event × Except GenerationError (List Compiled)}
    {e : GenerationError} :
    (conclude compiled).2 = .error e ↔ compiled.2 = .error e ∨
      ∃ ks id, compiled.2 = .ok ks ∧ repeatedId? [] ks = some id ∧ e = .duplicateId id := by
  rw [conclude]
  cases compiled.2 with
  | error e' => simp
  | ok ks =>
      cases hid : repeatedId? [] ks with
      | none => simp [hid]
      | some id => simp [hid, eq_comm]

/-- The ending of a batch that is compiled one contract after another. -/
theorem conclude_each_eq_iff {o : Except GenerationError (List Compiled)} :
    (conclude (each cs)).2 = o ↔ Ending cs o := by
  cases o with
  | ok ks =>
      rw [conclude_eq_ok, each_eq_ok, repeatedId?_eq_none_iff]
      constructor
      · rintro ⟨hks, hnodup, -⟩
        rw [map_id_of_forall₂ hks Contract.id_of_compile] at hnodup
        exact .compiled hks hnodup
      · rintro (_ | _ | ⟨hks, hnodup⟩)
        rw [← map_id_of_forall₂ hks Contract.id_of_compile] at hnodup
        exact ⟨hks, hnodup, by simp⟩
  | error e =>
      rw [conclude_eq_error, each_eq_error]
      constructor
      · rintro (hfailure | ⟨ks, id, hks, hid, rfl⟩)
        · exact .failed hfailure
        · rw [each_eq_ok] at hks
          obtain ⟨before, after, heq, hnodup, -, hmem⟩ := repeatedId?_eq_some_iff.mp hid
          rw [map_id_of_forall₂ hks Contract.id_of_compile] at heq
          exact .repeated hks ⟨before, after, heq, hnodup, by simpa using hmem⟩
      · rintro (hfailure | ⟨hks, before, after, heq, hnodup, hmem⟩)
        · exact Or.inl hfailure
        · refine Or.inr ⟨_, _, each_eq_ok.mpr hks, repeatedId?_eq_some_iff.mpr ?_, rfl⟩
          rw [map_id_of_forall₂ hks Contract.id_of_compile]
          exact ⟨before, after, heq, hnodup, by simp, Or.inr hmem⟩

theorem events_each (h : ∀ c ∈ cs, ∃ k, c.compile = .ok k) :
    (each cs).1 = cs.map Contract.compiledEvent := by
  induction cs with
  | nil => rfl
  | cons c cs ih =>
      obtain ⟨hc, hcs⟩ := List.forall_mem_cons.mp h
      obtain ⟨k, hk⟩ := hc
      rw [each, hk]
      exact congrArg (c.compiledEvent :: ·) (ih hcs)

end Compiled

/-! ## A pool that is done -/

namespace Pool

variable {workers : ℕ} {cs ds : List Contract} {p q : Pool} {places : List ℕ}

theorem forall₂_range (cs : List Contract) :
    List.Forall₂ (fun i c => cs[i]? = some c) (List.range cs.length) cs := by
  rw [List.forall₂_iff_get]
  exact ⟨by simp, fun i hi hi' => by simp⟩

theorem filterMap_places (h : List.Forall₂ (fun i c => cs[i]? = some c) places ds) :
    places.filterMap (fun i => cs[i]?.bind Contract.reported?) =
      ds.filterMap Contract.reported? := by
  induction h with
  | nil => rfl
  | cons hc _ ih => rw [List.filterMap_cons, List.filterMap_cons, hc, Option.bind_some, ih]

theorem IsSound.outcome_eq (h : IsSound cs p) (hdone : IsDone cs p) :
    p.outcome = (Compiled.each cs).2 := by
  rw [outcome]
  cases hfailure : p.failure with
  | some e =>
      obtain ⟨c, hc, hce⟩ := h.failure e hfailure
      -- the results that were taken belong to the contracts in front of the one that failed
      have hsplit : cs = cs.take p.taken.length ++ c :: cs.drop (p.taken.length + 1) := by
        obtain ⟨hlt, rfl⟩ := List.getElem?_eq_some_iff.mp hc
        rw [← List.drop_eq_getElem_cons, List.take_append_drop]
      have hbefore : ∀ d ∈ cs.take p.taken.length, ∃ k, d.compile = .ok k := by
        intro d hd
        obtain ⟨k, -, hk⟩ := exists_of_forall₂ h.taken.flip hd
        exact ⟨k, hk⟩
      exact (Compiled.each_eq_error.mpr ⟨_, c, _, hsplit, hbefore, hce⟩).symm
  | none =>
      have hall : p.taken.length = cs.length := by simpa [hfailure] using hdone.answered
      have htaken := h.taken
      rw [hall, List.take_length] at htaken
      exact (Compiled.each_eq_ok.mpr htaken).symm

/-- A pool in which every contract compiles does not stop before its end. -/
theorem IsSound.failure_eq_none (h : IsSound cs p) (hcompile : ∀ c ∈ cs, ∃ k, c.compile = .ok k) :
    p.failure = none := by
  cases hfailure : p.failure with
  | none => rfl
  | some e =>
      obtain ⟨c, hc, hce⟩ := h.failure e hfailure
      obtain ⟨k, hk⟩ := hcompile c (List.mem_of_getElem? hc)
      rw [hce] at hk
      cases hk

theorem IsSound.events_perm (h : IsSound cs p) (hdone : IsDone cs p)
    (hcompile : ∀ c ∈ cs, ∃ k, c.compile = .ok k) :
    p.events.Perm (cs.map Contract.compiledEvent) := by
  have hkept := h.kept (h.failure_eq_none hcompile)
  rw [hdone.waiting, hdone.running] at hkept
  have hreported : ∀ c ∈ cs, c.reported? = some c.compiledEvent := by
    intro c hc
    obtain ⟨k, hk⟩ := hcompile c hc
    rw [Contract.reported?, hk]
  rw [h.events]
  refine (hkept.filterMap _).trans ?_
  rw [filterMap_places (forall₂_range cs), ← List.filterMap_eq_map]
  exact .of_eq (List.filterMap_congr hreported)

/-! ## Every order of finishing is possible -/

/-- A pool can finish the contracts that wait in any order. -/
theorem exists_inOrder (hworkers : 0 < workers) (hplaces : ∀ i ∈ places, i < cs.length)
    (hwaiting : p.waiting.Perm places) (hrunning : p.running = []) :
    ∃ q, Relation.ReflTransGen (Step workers cs) p q ∧ q.waiting = [] ∧ q.running = [] ∧
      q.events = p.events ++ places.filterMap fun i => cs[i]?.bind Contract.reported? := by
  induction places generalizing p with
  | nil => exact ⟨p, .refl, hwaiting.eq_nil, hrunning, by simp⟩
  | cons i places ih =>
      obtain ⟨hi, hplaces⟩ := List.forall_mem_cons.mp hplaces
      have hmem : i ∈ p.waiting := hwaiting.mem_iff.mpr List.mem_cons_self
      have hc : cs[i]? = some cs[i] := List.getElem?_eq_getElem hi
      -- one worker picks up the first contract and finishes it, and so on
      have hpickUp : Step workers cs p (p.pickUp i) := .pickUp hmem (by rwa [hrunning])
      have hfinish : Step workers cs (p.pickUp i) ((p.pickUp i).finish i cs[i]) :=
        .finish List.mem_cons_self hc
      have hrest : ((p.pickUp i).finish i cs[i]).waiting.Perm places := by
        simpa [pickUp, finish] using hwaiting.erase i
      have hfree : ((p.pickUp i).finish i cs[i]).running = [] := by
        simp [pickUp, finish, hrunning]
      obtain ⟨q, hsteps, hdone, hidle, hevents⟩ := ih hplaces hrest hfree
      refine ⟨q, .head hpickUp (.head hfinish hsteps), hdone, hidle, ?_⟩
      rw [hevents, List.filterMap_cons, hc, Option.bind_some]
      cases hreported : cs[i].reported? <;> simp [pickUp, finish, hreported]

theorem idle_of_step (hstep : Step workers cs p q) (hwaiting : p.waiting = [])
    (hrunning : p.running = []) : q.waiting = [] ∧ q.running = [] ∧ q.events = p.events := by
  cases hstep with
  | pickUp hi _ => simp [hwaiting] at hi
  | finish hi _ => simp [hrunning] at hi
  | take _ _ _ => exact ⟨hwaiting, hrunning, rfl⟩
  | fail _ _ _ => exact ⟨hwaiting, hrunning, rfl⟩
  | drop _ hi => simp [hwaiting] at hi

/-- When the workers have nothing left to do, no more events are sent. -/
theorem events_of_steps (hsteps : Relation.ReflTransGen (Step workers cs) p q)
    (hwaiting : p.waiting = []) (hrunning : p.running = []) : q.events = p.events := by
  induction hsteps using Relation.ReflTransGen.head_induction_on with
  | refl => rfl
  | head hstep _ ih =>
      obtain ⟨hwaiting', hrunning', hevents⟩ := idle_of_step hstep hwaiting hrunning
      rw [ih hwaiting' hrunning', hevents]

/-- A pool can finish the contracts of a batch in any order. -/
theorem exists_finished (hworkers : 0 < workers) {finished : List Contract}
    (hfinished : finished.Perm cs) :
    ∃ p, Reaches workers cs p ∧ IsDone cs p ∧
      p.events = finished.filterMap Contract.reported? := by
  -- the places of the contracts in that order
  obtain ⟨places, hperm, hplaces⟩ : Relation.Comp List.Perm
      (List.Forall₂ fun i c => cs[i]? = some c) (List.range cs.length) finished := by
    rw [← List.forall₂_comp_perm_eq_perm_comp_forall₂]
    exact ⟨cs, forall₂_range cs, hfinished.symm⟩
  have hlt : ∀ i ∈ places, i < cs.length :=
    fun i hi => List.mem_range.mp (hperm.mem_iff.mpr hi)
  obtain ⟨p, hp, hwaiting, hrunning, hevents⟩ :=
    exists_inOrder (p := start cs) hworkers hlt hperm rfl
  obtain ⟨q, hsteps, hdone⟩ := (isSound_of_reaches hp).exists_done hworkers
  refine ⟨q, hp.trans hsteps, hdone, ?_⟩
  rw [events_of_steps hsteps hwaiting hrunning, hevents, filterMap_places hplaces]
  rfl

end Pool

/-! ## All runs of a batch agree -/

namespace Compiled

variable {workers : ℤ} {cs : List Contract}
  {r : List Event × Except GenerationError (List Compiled)}

/-- Whether the compilation of a batch can give `r`, before ids are compared: what a pool gives
when it is done, or what compiling one contract after another gives. -/
def Runs (workers : ℤ) (cs : List Contract)
    (r : List Event × Except GenerationError (List Compiled)) : Prop :=
  if usesPool workers cs then
    ∃ p, Pool.Reaches workers.toNat cs p ∧ Pool.IsDone cs p ∧ r = (p.events, p.outcome)
  else r = each cs

theorem Runs.results (h : Runs workers cs r) : r.2 = (each cs).2 := by
  rw [Runs] at h
  split at h
  · obtain ⟨p, hp, hdone, rfl⟩ := h
    exact (Pool.isSound_of_reaches hp).outcome_eq hdone
  · rw [h]

theorem Runs.events_perm (h : Runs workers cs r)
    (hcompile : ∀ c ∈ cs, ∃ k, c.compile = .ok k) :
    r.1.Perm (cs.map Contract.compiledEvent) := by
  rw [Runs] at h
  split at h
  · obtain ⟨p, hp, hdone, rfl⟩ := h
    exact (Pool.isSound_of_reaches hp).events_perm hdone hcompile
  · rw [h, events_each hcompile]

theorem toNat_pos_of_usesPool (h : usesPool workers cs = true) : 0 < workers.toNat := by
  simp only [usesPool, Bool.and_eq_true, decide_eq_true_eq] at h
  omega

/-- Compiling on a pool whose workers finish in some order is a run. -/
theorem runs_pooled (h : usesPool workers cs = true) {finished : List Contract}
    (hfinished : finished.Perm cs) : Runs workers cs (pooled finished cs) := by
  rw [Runs, if_pos h]
  obtain ⟨p, hp, hdone, hevents⟩ :=
    Pool.exists_finished (toNat_pos_of_usesPool h) hfinished
  refine ⟨p, hp, hdone, ?_⟩
  rw [hevents, (Pool.isSound_of_reaches hp).outcome_eq hdone]
  rfl

/-- What is concluded from results depends on the events only in what is logged. -/
theorem conclude_congr {r r' : List Event × Except GenerationError (List Compiled)}
    (h : r.2 = r'.2) : (conclude r).2 = (conclude r').2 := by
  rw [conclude, conclude, h]
  cases r'.2 with
  | error e => rfl
  | ok ks => cases hid : repeatedId? [] ks <;> simp [hid]

/-- What all runs of a batch have in common. -/
structure RunsAgree (workers : ℤ) (cs : List Contract) : Prop where
  /-- The batch takes one of its runs. -/
  taken : ∃ r, Runs workers cs r ∧ batch workers cs = conclude r
  /-- A pool comes to an end, whatever its workers do. -/
  ends : usesPool workers cs = true → Pool.Ends workers.toNat cs
  /-- Every run ends as if one contract had been compiled after another. -/
  outcome : ∀ r, Runs workers cs r → (conclude r).2 = (conclude (each cs)).2
  /-- This is the ending that the batch has. -/
  ending : ∀ r, Runs workers cs r → ∀ o, (conclude r).2 = o ↔ Ending cs o
  /-- If all contracts compile, each has sent its event once, in whatever order. -/
  events : (∀ c ∈ cs, ∃ k, c.compile = .ok k) →
    (each cs).1 = cs.map Contract.compiledEvent ∧
      ∀ r, Runs workers cs r → r.1.Perm (each cs).1

/-- **Batches agree on any number of workers and in any order of their work**: an error of the
first contract that fails on its own, or the first repeated id, or all results in order. -/
theorem runsAgree (workers : ℤ) (cs : List Contract) : RunsAgree workers cs where
  taken := by
    rw [batch]
    cases hpool : usesPool workers cs with
    | true => exact ⟨_, runs_pooled hpool (.refl cs), rfl⟩
    | false => exact ⟨each cs, by simp [Runs, hpool], rfl⟩
  ends := fun hpool => Pool.ends (toNat_pos_of_usesPool hpool) cs
  outcome := fun _ hr => conclude_congr hr.results
  ending := by
    intro r hr o
    rw [conclude_congr hr.results, conclude_each_eq_iff]
  events := by
    intro hcompile
    refine ⟨events_each hcompile, fun r hr => ?_⟩
    rw [events_each hcompile]
    exact hr.events_perm hcompile

end Compiled

end CallBindings
