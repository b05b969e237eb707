import CallBindings.Generation.Run
import CallBindings.Proofs.Contract.Accepted
import CallBindings.Proofs.Module.Layout

set_option autoImplicit false

/-! # What a run builds

A module is built of the contract files found if there is one at least, each of them reads as a
contract, and the contracts make up a module. The contracts are those of the files in their order.
Nothing is built, and the run goes on to say why, if any of this fails; it breaks off only if the
reading of a file is given up.
-/

namespace CallBindings

namespace Generation

variable {registry : Registry} {fs : Files} {settings : Settings} {generatedAt : Timestamp}
  {files : List Text} {p transport : Text} {c : Contract} {cs : List Contract} {workers : ℤ}

/-! ## Contracts -/

/-- Whether the file at a path reads as a contract. -/
def Holds (fs : Files) (p : Text) (c : Contract) : Prop :=
  ∃ j, fs.readJson p = .ok j ∧ Contract.ofJson (some p) j = .ok c

theorem loadContract_eq_ok : loadContract fs p = .ok c ↔ Holds fs p c := by
  have hread : ∀ j, readDescriptor fs p = .ok j ↔ fs.readJson p = .ok j := by
    intro j
    rw [readDescriptor]
    cases fs.readJson p <;> simp
  rw [loadContract, bind_eq_ok, Holds]
  refine exists_congr fun j => and_congr (hread j) ?_
  cases Contract.ofJson (some p) j <;> simp

/-- The first file is loaded before the others. -/
theorem snd_loadContracts_cons (fs : Files) (p : Text) (files : List Text) :
    (loadContracts fs (p :: files)).2 =
      loadContract fs p >>= fun c => (loadContracts fs files).2.map (c :: ·) := by
  rw [loadContracts]
  cases loadContract fs p <;> rfl

theorem loadContracts_eq_ok :
    (loadContracts fs files).2 = .ok cs ↔ List.Forall₂ (Holds fs) files cs := by
  induction files generalizing cs with
  | nil =>
      rw [loadContracts, List.forall₂_nil_left_iff]
      exact ⟨fun h => (Except.ok.inj h).symm, fun h => h ▸ rfl⟩
  | cons p files ih =>
      rw [snd_loadContracts_cons, bind_eq_ok, List.forall₂_cons_left_iff]
      constructor
      · rintro ⟨c, hc, h⟩
        obtain ⟨rest, hrest, rfl⟩ := map_eq_ok.mp h
        exact ⟨c, rest, loadContract_eq_ok.mp hc, ih.mp hrest, rfl⟩
      · rintro ⟨c, rest, hc, hrest, rfl⟩
        exact ⟨c, loadContract_eq_ok.mpr hc, map_eq_ok.mpr ⟨rest, ih.mpr hrest, rfl⟩⟩

/-- Whether the reading of some file is given up. -/
def GivesUp (fs : Files) (files : List Text) : Prop :=
  ∃ p ∈ files, ∃ e, fs.readJson p = .error e ∧ e.isGivenUp = true

theorem isGivenUp_of_loadContract {b : Breakdown} (h : loadContract fs p = .error (.broken b)) :
    ∃ e, fs.readJson p = .error e ∧ e.isGivenUp = true := by
  rcases bind_eq_error.mp h with hread | ⟨j, -, hj⟩
  · rw [readDescriptor] at hread
    split at hread
    · rename_i e he
      split at hread
      · exact ⟨e, he, ‹_›⟩
      · cases hread
    · cases hread
  · split at hj <;> cases hj

theorem givesUp_of_loadContracts {b : Breakdown}
    (h : (loadContracts fs files).2 = .error (.broken b)) : GivesUp fs files := by
  induction files with
  | nil => cases h
  | cons p files ih =>
      rw [snd_loadContracts_cons] at h
      rcases bind_eq_error.mp h with hload | ⟨c, -, hrest⟩
      · exact ⟨p, List.mem_cons_self, isGivenUp_of_loadContract hload⟩
      · obtain ⟨q, hq, he⟩ := ih (map_eq_error.mp hrest)
        exact ⟨q, List.mem_cons_of_mem p hq, he⟩

theorem Holds.sound (h : Holds fs p c) : c.Sound := by
  obtain ⟨j, -, hj⟩ := h
  exact Contract.sound_of_ofJson hj

theorem sound_of_forall₂ (h : List.Forall₂ (Holds fs) files cs) : ∀ c ∈ cs, c.Sound := by
  intro c hc
  obtain ⟨p, -, hp⟩ := exists_of_forall₂ h hc
  exact hp.sound

/-! ## The module -/

/-- Sound contracts make up a module exactly if each has a response for success, their ids are
distinct and the transport is registered. -/
theorem exists_generate_iff (hsound : ∀ c ∈ cs, c.Sound) :
    (∃ m, (GeneratedModule.generate registry transport workers generatedAt cs).2 = .ok m) ↔
      (∀ c ∈ cs, c.success?.isSome = true) ∧ (cs.map (·.id)).Nodup ∧
        registry.lists transport = true := by
  constructor
  · rintro ⟨m, hm⟩
    obtain ⟨ks, hks, hassemble⟩ := GeneratedModule.exists_of_generate hm
    obtain ⟨hcompiled, hids⟩ := Compiled.batch_eq_ok.mp hks
    have hsuccess : ∀ c ∈ cs, c.success?.isSome = true := by
      intro c hc
      obtain ⟨k, -, hk⟩ := exists_of_forall₂ hcompiled.flip hc
      obtain ⟨success, hs⟩ := Contract.success_of_compile hk
      rw [hs]
      rfl
    -- compiling keeps the ids, so what the batch says of them holds of the contracts
    rw [Compiled.map_id_of_forall₂ (Compiled.yields_of_batch hks) Contract.Yields.id] at hids
    refine ⟨hsuccess, hids, ?_⟩
    rw [GeneratedModule.assemble] at hassemble
    split at hassemble
    · assumption
    · cases hassemble
  · rintro ⟨hsuccess, hids, hlists⟩
    obtain ⟨m, hm, -⟩ := GeneratedModule.generate_of_sound workers generatedAt hlists hsound
      hsuccess hids
    exact ⟨m, hm⟩

/-- Whether the files found are those of contracts that make up a module. -/
structure Gathers (registry : Registry) (fs : Files) (settings : Settings) (files : List Text)
    (cs : List Contract) : Prop where
  /-- At least one file is found. -/
  found : files ≠ []
  /-- Each of them reads as JSON, which describes a contract. -/
  holds : List.Forall₂ (Holds fs) files cs
  /-- Each contract has a response for success. -/
  success : ∀ c ∈ cs, c.success?.isSome = true
  ids : (cs.map (·.id)).Nodup
  transport : registry.lists settings.transport = true

/-- Nothing else is asked of contracts for there to be a module. -/
theorem Gathers.exists_generate (h : Gathers registry fs settings files cs)
    (generatedAt : Timestamp) : ∃ m, (GeneratedModule.generate registry settings.transport
      settings.maxWorkers generatedAt cs).2 = .ok m :=
  (exists_generate_iff (sound_of_forall₂ h.holds)).mpr ⟨h.success, h.ids, h.transport⟩

/-- What a build comes to, its notices left out. -/
theorem snd_build : (build registry fs settings generatedAt files).2 =
    if files = [] then .error (.failed (.noFiles settings.inputPath settings.pattern))
    else match (loadContracts fs files).2 with
      | .error e => .error e
      | .ok cs =>
        match (GeneratedModule.generate registry settings.transport settings.maxWorkers
            generatedAt cs).2 with
        | .error e => .error (.failed (.aborted e))
        | .ok m => .ok ⟨m, m.render⟩ := by
  rw [build]
  by_cases hfound : files = []
  · rw [if_pos (List.isEmpty_iff.mpr hfound), if_pos hfound]
  · rw [if_neg (fun h => hfound (List.isEmpty_iff.mp h)), if_neg hfound]
    obtain ⟨events, loaded⟩ := loadContracts fs files
    cases loaded with
    | error e => rfl
    | ok cs =>
        simp only
        obtain ⟨notices, generated⟩ := GeneratedModule.generate registry settings.transport
          settings.maxWorkers generatedAt cs
        cases generated <;> rfl

/-- What is built is the module of the contracts in the files, with its text. -/
theorem build_eq_ok {product : Product} :
    (build registry fs settings generatedAt files).2 = .ok product ↔
      ∃ cs m, Gathers registry fs settings files cs ∧
        (GeneratedModule.generate registry settings.transport settings.maxWorkers generatedAt
          cs).2 = .ok m ∧ product = ⟨m, m.render⟩ := by
  rw [snd_build]
  constructor
  · intro h
    split at h
    · cases h
    rename_i hfound
    split at h
    · cases h
    rename_i cs hload
    split at h
    · cases h
    rename_i m hm
    have hholds := loadContracts_eq_ok.mp hload
    obtain ⟨hsuccess, hids, hlists⟩ :=
      (exists_generate_iff (sound_of_forall₂ hholds)).mp ⟨m, hm⟩
    exact ⟨cs, m, ⟨hfound, hholds, hsuccess, hids, hlists⟩, hm, (Except.ok.inj h).symm⟩
  · rintro ⟨cs, m, hgathers, hm, rfl⟩
    rw [if_neg hgathers.found, loadContracts_eq_ok.mpr hgathers.holds]
    simp only [hm]

/-- A build breaks off only if the reading of a file is given up. -/
theorem givesUp_of_build {b : Breakdown}
    (h : (build registry fs settings generatedAt files).2 = .error (.broken b)) :
    GivesUp fs files := by
  rw [snd_build] at h
  split at h
  · cases h
  split at h
  · rename_i hload
    cases h
    exact givesUp_of_loadContracts hload
  · split at h <;> cases h

end Generation

end CallBindings
