import CallBindings.Proofs.Contract.Batch
import CallBindings.Proofs.Generation.Run

set_option autoImplicit false

/-! # The events of a run

A run sends an event for each step it has come through: one for the search, one for each contract
that is loaded and then one for each that is compiled, one for the module and one for writing it. So
the events tell how far a run got, and end with the last step before the one that failed. The
relations below say which steps there are and where each may fail, loop by loop; the stages of the
events are then a beginning of those that are planned, and all of them if the run ends with a module.
-/

namespace CallBindings

open Text

/-! ## The events among notices -/

namespace Notice

@[simp] theorem events_append (notices later : List Notice) :
    events (notices ++ later) = events notices ++ events later :=
  List.filterMap_append

@[simp] theorem events_map_event (sent : List Event) : events (sent.map .event) = sent := by
  rw [events, List.filterMap_map]
  exact List.filterMap_some

@[simp] theorem events_nil : events [] = [] := rfl

@[simp] theorem events_log (r : LogRecord) : events [.log r] = [] := rfl

@[simp] theorem events_event (e : Event) : events [.event e] = [e] := rfl

end Notice

namespace Generation

variable {registry : Registry} {fs : Files} {failures : DeviceFailures} {settings : Settings}
  {dryRun : Bool} {generatedAt : Timestamp} {files : List Text} {cs : List Contract}
  {sent : List Event}

/-! ## Loading -/

/-- The events of the contracts that files hold, in order. -/
def loadEvents (files : List Text) (cs : List Contract) : List Event :=
  List.zipWith (fun p c => loadedEvent c.id p) files cs

/-- What is sent while files are loaded, and what loading them comes to. -/
inductive Loads (fs : Files) : List Text → List Event → Except RunStop (List Contract) → Prop
  | all {files : List Text} {cs : List Contract} :
      List.Forall₂ (Holds fs) files cs → Loads fs files (loadEvents files cs) (.ok cs)
  | upTo {before after : List Text} {p : Text} {cs : List Contract} {stop : RunStop} :
      List.Forall₂ (Holds fs) before cs → loadContract fs p = .error stop →
      Loads fs (before ++ p :: after) (loadEvents before cs) (.error stop)

theorem Loads.cons {p : Text} {c : Contract} {r : Except RunStop (List Contract)}
    (hc : Holds fs p c) (h : Loads fs files sent r) :
    Loads fs (p :: files) (loadedEvent c.id p :: sent) (r.map (c :: ·)) := by
  cases h with
  | all hfiles => exact .all (.cons hc hfiles)
  | upTo hbefore hstop => exact .upTo (.cons hc hbefore) hstop

/-- Each file is loaded once those before it are. -/
theorem loads_loadContracts (fs : Files) (files : List Text) :
    Loads fs files (loadContracts fs files).1 (loadContracts fs files).2 := by
  induction files with
  | nil => exact .all .nil
  | cons p files ih =>
      rw [loadContracts]
      cases hp : loadContract fs p with
      | error stop => exact .upTo .nil hp
      | ok c => exact ih.cons (loadContract_eq_ok.mp hp)

/-! ## Compiling -/

/-- What is sent while contracts are compiled one after another, and what compiling them comes to.
That an id is repeated is noticed only when all are compiled. -/
inductive Compiles : List Contract → List Event → Except GenerationError (List Compiled) → Prop
  | all {cs : List Contract} {ks : List Compiled} :
      List.Forall₂ (fun c k => c.compile = .ok k) cs ks → (cs.map (·.id)).Nodup →
      Compiles cs (cs.map Contract.compiledEvent) (.ok ks)
  | repeated {cs : List Contract} {ks : List Compiled} {id : Text} :
      List.Forall₂ (fun c k => c.compile = .ok k) cs ks → FirstRepeat (cs.map (·.id)) id →
      Compiles cs (cs.map Contract.compiledEvent) (.error (.duplicateId id))
  | upTo {before after : List Contract} {c : Contract} {e : GenerationError} :
      (∀ d ∈ before, ∃ k, d.compile = .ok k) → c.compile = .error e →
      Compiles (before ++ c :: after) (before.map Contract.compiledEvent) (.error e)

/-- A contract that does not compile sends nothing, and neither do those behind it. -/
theorem events_each_upTo {before after : List Contract} {c : Contract} {e : GenerationError}
    (hbefore : ∀ d ∈ before, ∃ k, d.compile = .ok k) (hc : c.compile = .error e) :
    (Compiled.each (before ++ c :: after)).1 = before.map Contract.compiledEvent := by
  induction before with
  | nil => rw [List.nil_append, Compiled.each, hc, List.map_nil]
  | cons d before ih =>
      obtain ⟨⟨k, hk⟩, hlater⟩ := List.forall_mem_cons.mp hbefore
      rw [List.cons_append, Compiled.each, hk]
      exact congrArg (d.compiledEvent :: ·) (ih hlater)

theorem events_conclude (r : List Event × Except GenerationError (List Compiled)) :
    Notice.events (Compiled.conclude r).1 = r.1 := by
  obtain ⟨sent, compiled⟩ := r
  rw [Compiled.conclude]
  cases compiled with
  | error e => exact Notice.events_map_event sent
  | ok ks =>
      cases hid : Compiled.repeatedId? [] ks with
      | some id => simp [hid]
      | none => simp [hid]

theorem forall_compiles {ks : List Compiled}
    (h : List.Forall₂ (fun c k => c.compile = .ok k) cs ks) : ∀ c ∈ cs, ∃ k, c.compile = .ok k := by
  intro c hc
  obtain ⟨k, -, hk⟩ := exists_of_forall₂ h.flip hc
  exact ⟨k, hk⟩

/-- Without a pool, a batch is compiled one contract after another. -/
theorem compiles_batch {workers : ℤ} (hworkers : workers ≤ 1) (cs : List Contract) :
    Compiles cs (Notice.events (Compiled.batch workers cs).1) (Compiled.batch workers cs).2 := by
  have hpool : Compiled.usesPool workers cs = false := by
    simp only [Compiled.usesPool, Bool.and_eq_false_iff, decide_eq_false_iff_not]
    exact Or.inl (by omega)
  have hbatch : Compiled.batch workers cs = Compiled.conclude (Compiled.each cs) := by
    rw [Compiled.batch, hpool, if_neg Bool.false_ne_true]
  have hending := Compiled.conclude_each_eq_iff.mp (Eq.refl (Compiled.conclude (Compiled.each cs)).2)
  rw [hbatch, events_conclude]
  -- how the batch ends is known; what is left are the events up to there
  generalize (Compiled.conclude (Compiled.each cs)).2 = o at hending
  cases hending with
  | failed hfailure =>
      obtain ⟨before, c, after, rfl, hbefore, hc⟩ := hfailure
      rw [events_each_upTo hbefore hc]
      exact .upTo hbefore hc
  | repeated hks hid =>
      rw [Compiled.events_each (forall_compiles hks)]
      exact .repeated hks hid
  | compiled hks hids =>
      rw [Compiled.events_each (forall_compiles hks)]
      exact .all hks hids

/-! ## Building -/

/-- What is sent while a module is built of the files found, and what building it comes to. -/
inductive Builds (registry : Registry) (fs : Files) (settings : Settings)
    (generatedAt : Timestamp) (files : List Text) : List Event → Except RunStop Product → Prop
  | nothingFound : files = [] → Builds registry fs settings generatedAt files []
      (.error (.failed (.noFiles settings.inputPath settings.pattern)))
  | unloaded {loads : List Event} {stop : RunStop} :
      files ≠ [] → Loads fs files loads (.error stop) →
      Builds registry fs settings generatedAt files loads (.error stop)
  | uncompiled {loads compiles : List Event} {cs : List Contract} {e : GenerationError} :
      files ≠ [] → Loads fs files loads (.ok cs) → Compiles cs compiles (.error e) →
      Builds registry fs settings generatedAt files (loads ++ compiles)
        (.error (.failed (.aborted e)))
  | unlinked {loads compiles : List Event} {cs : List Contract} {ks : List Compiled} :
      files ≠ [] → Loads fs files loads (.ok cs) → Compiles cs compiles (.ok ks) →
      registry.lists settings.transport = false →
      Builds registry fs settings generatedAt files (loads ++ compiles)
        (.error (.failed (.aborted (.unknownTransport settings.transport))))
  | assembled {loads compiles : List Event} {cs : List Contract} {ks : List Compiled}
      {m : GeneratedModule} :
      files ≠ [] → Loads fs files loads (.ok cs) → Compiles cs compiles (.ok ks) →
      registry.lists settings.transport = true →
      GeneratedModule.assemble registry settings.transport generatedAt ks = .ok m →
      Builds registry fs settings generatedAt files (loads ++ (compiles ++ [m.assembledEvent]))
        (.ok ⟨m, m.render⟩)

/-- Loading comes first, then compiling, and then the module. -/
theorem builds_build (hworkers : settings.maxWorkers ≤ 1) :
    Builds registry fs settings generatedAt files
      (Notice.events (build registry fs settings generatedAt files).1)
      (build registry fs settings generatedAt files).2 := by
  rw [build]
  by_cases hfound : files = []
  · rw [if_pos (List.isEmpty_iff.mpr hfound)]
    exact .nothingFound hfound
  rw [if_neg fun h => hfound (List.isEmpty_iff.mp h)]
  -- each phase is entered with what the one before has come to, so the cases are nested
  have hloads := loads_loadContracts fs files
  generalize loadContracts fs files = loading at hloads ⊢
  obtain ⟨loads, loaded⟩ := loading
  cases loaded with
  | error stop =>
      simp only [Notice.events_map_event]
      exact .unloaded hfound hloads
  | ok cs =>
      have hcompiles := compiles_batch hworkers cs
      simp only [GeneratedModule.generate]
      generalize Compiled.batch settings.maxWorkers cs = batch at hcompiles ⊢
      obtain ⟨notices, compiled⟩ := batch
      cases compiled with
      | error e =>
          simp only [Notice.events_append, Notice.events_map_event]
          exact .uncompiled hfound hloads hcompiles
      | ok ks =>
          cases hlists : registry.lists settings.transport with
          | false =>
              simp only [GeneratedModule.assemble, hlists, Bool.false_eq_true, if_false,
                Notice.events_append, Notice.events_map_event]
              exact .unlinked hfound hloads hcompiles hlists
          | true =>
              cases hassemble :
                  GeneratedModule.assemble registry settings.transport generatedAt ks with
              | error e =>
                  rw [GeneratedModule.assemble, if_pos hlists] at hassemble
                  cases hassemble
              | ok m =>
                  simp only [hassemble, Notice.events_append, Notice.events_map_event,
                    Notice.events_event]
                  exact .assembled hfound hloads hcompiles hlists hassemble

/-! ## Delivering -/

/-- What is sent behind the event of the search, and what the run comes to. -/
inductive Traced (registry : Registry) (fs : Files) (failures : DeviceFailures)
    (settings : Settings) (dryRun : Bool) (generatedAt : Timestamp) (files : List Text) :
    List Event → Except RunStop Product → Prop
  | unbuilt {sent : List Event} {stop : RunStop} :
      Builds registry fs settings generatedAt files sent (.error stop) →
      Traced registry fs failures settings dryRun generatedAt files sent (.error stop)
  | dry {sent : List Event} {product : Product} :
      Builds registry fs settings generatedAt files sent (.ok product) → dryRun = true →
      Traced registry fs failures settings dryRun generatedAt files sent (.ok product)
  | unwritten {sent : List Event} {product : Product} {e : FileError} :
      Builds registry fs settings generatedAt files sent (.ok product) → dryRun = false →
      (AtomicWrite.write fs failures settings.outputPath product.text).2 = .error e →
      Traced registry fs failures settings dryRun generatedAt files sent
        (.error (if e.isSystem then .failed (.unwritable settings.outputPath e)
          else .broken (.file e)))
  | written {sent : List Event} {product : Product} :
      Builds registry fs settings generatedAt files sent (.ok product) → dryRun = false →
      (AtomicWrite.write fs failures settings.outputPath product.text).2 = .ok () →
      Traced registry fs failures settings dryRun generatedAt files
        (sent ++ [writtenEvent settings.outputPath]) (.ok product)

/-- Nothing is delivered that is not built. -/
theorem traced_deliverBuilt {built : Except RunStop Product}
    (h : Builds registry fs settings generatedAt files sent built) :
    Traced registry fs failures settings dryRun generatedAt files
      (sent ++ Notice.events (deliverBuilt fs failures settings dryRun built).2.1)
      (deliverBuilt fs failures settings dryRun built).2.2 := by
  cases built with
  | error stop =>
      rw [show Notice.events (deliverBuilt fs failures settings dryRun (.error stop)).2.1 = [] from
        rfl, List.append_nil]
      exact .unbuilt h
  | ok product =>
      rw [deliverBuilt]
      cases dryRun with
      | true =>
          rw [deliver, if_pos rfl, Notice.events_log, List.append_nil]
          exact .dry h rfl
      | false =>
          rw [deliver, if_neg Bool.false_ne_true]
          cases hwrite : AtomicWrite.write fs failures settings.outputPath product.text with
          | mk after result =>
              have hresult := congrArg Prod.snd hwrite
              cases result with
              | error e =>
                  simp only [Notice.events_nil, List.append_nil]
                  exact .unwritten h rfl hresult
              | ok _ =>
                  simp only [Notice.events_event]
                  exact .written h rfl hresult

/-! ## Stages -/

/-- The stages of a module that is built of `n` files. -/
def buildStages (n : ℕ) : List Text :=
  List.replicate n (ofString "load") ++
    (List.replicate n (ofString "compile") ++ [ofString "assemble"])

/-- The stages of a run that comes through, for `n` files found. -/
def stages (n : ℕ) (dryRun : Bool) : List Text :=
  ofString "discover" :: (buildStages n ++ if dryRun then [] else [ofString "write"])

/-- Whether the stages that are reached are those before some other of the planned ones. -/
def StopsShort (reached planned : List Text) : Prop :=
  ∃ next later, planned = reached ++ next :: later

namespace StopsShort

variable {reached planned : List Text}

theorem append_left (before : List Text) (h : StopsShort reached planned) :
    StopsShort (before ++ reached) (before ++ planned) := by
  obtain ⟨next, later, rfl⟩ := h
  exact ⟨next, later, (List.append_assoc before reached (next :: later)).symm⟩

theorem append_right (h : StopsShort reached planned) (after : List Text) :
    StopsShort reached (planned ++ after) := by
  obtain ⟨next, later, rfl⟩ := h
  exact ⟨next, later ++ after, List.append_assoc reached (next :: later) after⟩

/-- A stage that is repeated stops short if it is repeated less often. -/
theorem replicate {k n : ℕ} (hk : k < n) (stage : Text) :
    StopsShort (List.replicate k stage) (List.replicate n stage) := by
  refine ⟨stage, List.replicate (n - k - 1) stage, ?_⟩
  rw [← List.replicate_succ, List.replicate_append_replicate]
  congr 1
  omega

end StopsShort

theorem stage_loadEvents (h : List.Forall₂ (Holds fs) files cs) :
    (loadEvents files cs).map (·.stage) = List.replicate files.length (ofString "load") := by
  induction h with
  | nil => rfl
  | cons _ _ ih => exact congrArg (ofString "load" :: ·) ih

theorem stage_compiledEvents (cs : List Contract) :
    (cs.map Contract.compiledEvent).map (·.stage) =
      List.replicate cs.length (ofString "compile") := by
  rw [List.map_map]
  exact List.map_const

theorem Loads.stages_of_ok (h : Loads fs files sent (.ok cs)) :
    sent.map (·.stage) = List.replicate files.length (ofString "load") ∧
      cs.length = files.length := by
  cases h with
  | all hfiles => exact ⟨stage_loadEvents hfiles, hfiles.length_eq.symm⟩

theorem Loads.stages_of_error {stop : RunStop} (h : Loads fs files sent (.error stop)) :
    StopsShort (sent.map (·.stage)) (List.replicate files.length (ofString "load")) := by
  cases h with
  | upTo hbefore _ =>
      rw [stage_loadEvents hbefore]
      refine StopsShort.replicate ?_ _
      rw [List.length_append, List.length_cons]
      omega

theorem Compiles.stages_of_ok {ks : List Compiled} (h : Compiles cs sent (.ok ks)) :
    sent.map (·.stage) = List.replicate cs.length (ofString "compile") := by
  cases h with
  | all _ _ => exact stage_compiledEvents cs

/-- What goes wrong with contracts goes wrong before their module is assembled. -/
theorem Compiles.stages_of_error {e : GenerationError} (h : Compiles cs sent (.error e)) :
    StopsShort (sent.map (·.stage))
      (List.replicate cs.length (ofString "compile") ++ [ofString "assemble"]) := by
  cases h with
  | repeated _ _ =>
      rw [stage_compiledEvents]
      exact ⟨ofString "assemble", [], rfl⟩
  | upTo _ _ =>
      rw [stage_compiledEvents]
      refine (StopsShort.replicate ?_ _).append_right _
      rw [List.length_append, List.length_cons]
      omega

theorem Builds.stages_of_ok {product : Product}
    (h : Builds registry fs settings generatedAt files sent (.ok product)) :
    sent.map (·.stage) = buildStages files.length := by
  cases h with
  | assembled _ hloads hcompiles _ _ =>
      obtain ⟨hload, hlength⟩ := hloads.stages_of_ok
      rw [List.map_append, List.map_append, hload, hcompiles.stages_of_ok, hlength]
      rfl

theorem Builds.stages_of_error {stop : RunStop}
    (h : Builds registry fs settings generatedAt files sent (.error stop)) :
    StopsShort (sent.map (·.stage)) (buildStages files.length) := by
  cases h with
  | nothingFound hfiles =>
      subst hfiles
      exact ⟨ofString "assemble", [], rfl⟩
  | unloaded _ hloads => exact hloads.stages_of_error.append_right _
  | uncompiled _ hloads hcompiles =>
      obtain ⟨hload, hlength⟩ := hloads.stages_of_ok
      rw [List.map_append, hload, buildStages, ← hlength]
      exact hcompiles.stages_of_error.append_left _
  | unlinked _ hloads hcompiles _ =>
      obtain ⟨hload, hlength⟩ := hloads.stages_of_ok
      rw [List.map_append, hload, hcompiles.stages_of_ok, hlength]
      exact StopsShort.append_left _ ⟨ofString "assemble", [], rfl⟩

theorem write_not_mem_buildStages (n : ℕ) : ofString "write" ∉ buildStages n := by
  simp only [buildStages, List.mem_append, List.mem_replicate, List.mem_singleton]
  rintro (⟨-, h⟩ | ⟨-, h⟩ | h) <;> exact absurd h (by decide)

/-- A run that comes to a module has gone through all stages. -/
theorem Traced.stages_of_ok {product : Product}
    (h : Traced registry fs failures settings dryRun generatedAt files sent (.ok product)) :
    sent.map (·.stage) =
      buildStages files.length ++ if dryRun then [] else [ofString "write"] := by
  cases h with
  | dry hbuilds hdry => rw [hbuilds.stages_of_ok, if_pos hdry, List.append_nil]
  | written hbuilds hdry _ =>
      rw [List.map_append, hbuilds.stages_of_ok, hdry]
      rfl

/-- A run that does not come to a module stops short, and before anything is written. -/
theorem Traced.stages_of_error {stop : RunStop}
    (h : Traced registry fs failures settings dryRun generatedAt files sent (.error stop)) :
    StopsShort (sent.map (·.stage))
        (buildStages files.length ++ if dryRun then [] else [ofString "write"]) ∧
      ofString "write" ∉ sent.map (·.stage) := by
  cases h with
  | unbuilt hbuilds =>
      -- the stages of a build are none of writing, and what is reached are some of them
      obtain ⟨next, later, hstages⟩ := hbuilds.stages_of_error
      refine ⟨hbuilds.stages_of_error.append_right _, fun hwrite => ?_⟩
      refine write_not_mem_buildStages files.length ?_
      rw [hstages]
      exact List.mem_append_left _ hwrite
  | unwritten hbuilds hdry _ =>
      rw [hbuilds.stages_of_ok, hdry]
      exact ⟨⟨ofString "write", [], rfl⟩, write_not_mem_buildStages _⟩

/-! ## Runs -/

/-- What the events of a run tell about it. -/
structure TellsProgress (registry : Registry) (fs : Files) (failures : DeviceFailures)
    (settings : Settings) (dryRun : Bool) (generatedAt : Timestamp) (sent : List Event)
    (result : Except Breakdown RunResult) : Prop where
  /-- A run that cannot search breaks off before its first event. -/
  unsearched : ∀ e, Search.find fs settings.inputPath settings.pattern = .error e →
    sent = [] ∧ result = .error (.file e)
  /-- Otherwise the files are found in order, and what is sent behind the event of the search
  follows the steps of the run up to the one at which it ends. -/
  searched : ∀ files, Search.find fs settings.inputPath settings.pattern = .ok files →
    (files.Pairwise fun p q => Text.le p q = true) ∧ ∃ later ended,
      sent = discoveredEvent settings.inputPath files.length :: later ∧
      Traced registry fs failures settings dryRun generatedAt files later ended ∧
      result = (conclude ended).map fun outcome => ⟨settings, files, dryRun, outcome⟩
  /-- With a module, the stages are all that there are; -/
  complete : ∀ r, result = .ok r → r.ok = true →
    sent.map (·.stage) = stages r.files.length dryRun
  /-- without one, they stop short. -/
  short : ∀ r, result = .ok r → r.ok = false →
    StopsShort (sent.map (·.stage)) (stages r.files.length dryRun)
  written : ∀ r, result = .ok r → ((∃ e ∈ sent, e.stage = "write") ↔ r.written = true)

/-- The result of a run that has found its files is one with a module, or one with a failure. -/
theorem eq_of_result {ended : Except RunStop Product} {r : RunResult}
    (h : ((conclude ended).map fun outcome => (⟨settings, files, dryRun, outcome⟩ : RunResult)) =
      .ok r) :
    (∃ product, ended = .ok product ∧ r = ⟨settings, files, dryRun, .ok product⟩) ∨
      ∃ failure, ended = .error (.failed failure) ∧ r = ⟨settings, files, dryRun, .error failure⟩ := by
  obtain ⟨outcome, hconclude, rfl⟩ := map_eq_ok.mp h
  have hended := conclude_eq_ok hconclude
  cases outcome with
  | ok product => exact Or.inl ⟨product, hended, rfl⟩
  | error failure => exact Or.inr ⟨failure, hended, rfl⟩

theorem write_mem_stages_iff {n : ℕ} : ofString "write" ∈ stages n dryRun ↔ dryRun = false := by
  have hdiscover : ofString "write" ≠ ofString "discover" := by decide
  rw [stages, List.mem_cons, List.mem_append, or_iff_right hdiscover,
    or_iff_right (write_not_mem_buildStages n)]
  cases dryRun <;> simp

/-- What the events tell follows from how they are traced. -/
theorem Traced.tellsProgress {later : List Event} {ended : Except RunStop Product}
    (hfind : Search.find fs settings.inputPath settings.pattern = .ok files)
    (h : Traced registry fs failures settings dryRun generatedAt files later ended) :
    TellsProgress registry fs failures settings dryRun generatedAt
      (discoveredEvent settings.inputPath files.length :: later)
      ((conclude ended).map fun outcome => ⟨settings, files, dryRun, outcome⟩) where
  unsearched := by
    intro e he
    rw [hfind] at he
    cases he
  searched := by
    intro found hfound
    rw [hfind] at hfound
    cases hfound
    exact ⟨Search.pairwise_find hfind, later, ended, rfl, h, rfl⟩
  complete := by
    intro r hr hok
    rcases eq_of_result hr with ⟨product, rfl, rfl⟩ | ⟨failure, rfl, rfl⟩
    · exact congrArg (ofString "discover" :: ·) h.stages_of_ok
    · cases hok
  short := by
    intro r hr hok
    rcases eq_of_result hr with ⟨product, rfl, rfl⟩ | ⟨failure, rfl, rfl⟩
    · cases hok
    · exact h.stages_of_error.1.append_left [ofString "discover"]
  written := by
    intro r hr
    rw [← List.mem_map]
    rcases eq_of_result hr with ⟨product, rfl, rfl⟩ | ⟨failure, rfl, rfl⟩
    · have hstages : (discoveredEvent settings.inputPath files.length :: later).map (·.stage) =
          stages files.length dryRun := congrArg (ofString "discover" :: ·) h.stages_of_ok
      rw [hstages]
      refine write_mem_stages_iff.trans ?_
      simp [RunResult.written, RunResult.ok]
    · have hdiscover : ofString "write" ≠ ofString "discover" := by decide
      refine iff_of_false (fun hwrite => ?_) Bool.false_ne_true
      rcases List.mem_cons.mp hwrite with hfirst | hlater
      · exact hdiscover hfirst
      · exact h.stages_of_error.2 hlater

theorem events_run (h : Search.find fs settings.inputPath settings.pattern = .ok files) :
    Notice.events (run registry fs failures settings dryRun generatedAt).2.1 =
      discoveredEvent settings.inputPath files.length ::
        (Notice.events (build registry fs settings generatedAt files).1 ++
          Notice.events (deliverBuilt fs failures settings dryRun
            (build registry fs settings generatedAt files).2).2.1) := by
  rw [run, h]
  simp only
  -- the record that closes a run with a result is no event
  cases conclude (deliverBuilt fs failures settings dryRun
    (build registry fs settings generatedAt files).2).2.2 with
  | error b =>
      simp only [Notice.events_append]
      rfl
  | ok outcome =>
      simp only [Notice.events_append, Notice.events_log, List.append_nil]
      rfl

/-- **The events of a run tell how far it got**, without a pool: one for the search, one for each
file that is loaded, one for each contract that is compiled, one for the module and one for writing
it, each as soon as its step has succeeded, up to the first step that does not. -/
theorem run_tellsProgress (registry : Registry) (fs : Files) (failures : DeviceFailures)
    (settings : Settings) (dryRun : Bool) (generatedAt : Timestamp)
    (hworkers : settings.maxWorkers ≤ 1) :
    TellsProgress registry fs failures settings dryRun generatedAt
      (Notice.events (run registry fs failures settings dryRun generatedAt).2.1)
      (run registry fs failures settings dryRun generatedAt).2.2 := by
  cases hfind : Search.find fs settings.inputPath settings.pattern with
  | error e =>
      rw [run_of_find_error hfind]
      exact {
        unsearched := by
          intro e' he'
          rw [hfind] at he'
          cases he'
          exact ⟨rfl, rfl⟩
        searched := by
          intro files hfiles
          rw [hfind] at hfiles
          cases hfiles
        complete := fun r hr => nomatch hr
        short := fun r hr => nomatch hr
        written := fun r hr => nomatch hr }
  | ok files =>
      rw [events_run hfind, (run_of_find hfind).2]
      exact (traced_deliverBuilt (builds_build hworkers)).tellsProgress hfind

/-- The only contract file there is goes through all stages. -/
theorem run_tellsProgress_ping :
    pingSettings.maxWorkers ≤ 1 ∧
    (Notice.events (run Registry.builtin pingFiles {} pingSettings false
        ⟨2024, 1, 2, 3, 4, 5, 0, some 0⟩).2.1).map (·.stage) =
      ["discover", "load", "compile", "assemble", "write"].map ofString := by
  have htells := run_tellsProgress Registry.builtin pingFiles {} pingSettings false
    ⟨2024, 1, 2, 3, 4, 5, 0, some 0⟩ (by decide)
  obtain ⟨m, hm⟩ := gathers_ping.exists_generate ⟨2024, 1, 2, 3, 4, 5, 0, some 0⟩
  have hwrite := write_ping
    (GeneratedModule.isScalar_render (sound_of_forall₂ gathers_ping.holds) hm)
  obtain ⟨product, hproduct⟩ :=
    exists_delivered_iff.mpr ⟨[pingContract], gathers_ping, Or.inr ⟨m, hm, hwrite⟩⟩
  have hresult : (run Registry.builtin pingFiles {} pingSettings false
      ⟨2024, 1, 2, 3, 4, 5, 0, some 0⟩).2.2 =
        .ok ⟨pingSettings, [ofString "/work/ping.contract.json"], false, .ok product⟩ := by
    rw [(run_of_find find_ping).2, hproduct]
    rfl
  exact ⟨by decide, htells.complete _ hresult rfl⟩

end Generation

end CallBindings
