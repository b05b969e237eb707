import CallBindings.Proofs.Files.Matches
import CallBindings.Proofs.Generation.Trace

set_option autoImplicit false

/-! # The files that a run discovers

A search in a plain directory lists the files of its matches in the order of their paths, and a run
loads them in this order, one after another. So a file is listed, and loaded, once for each of its
matches. A pattern with two segments for any number of names has several matches for one file; a run
that finds a file twice ends without a module, since the id of its contract is repeated.
-/

namespace CallBindings

open Text

namespace Generation

variable {registry : Registry} {fs : Files} {failures : DeviceFailures} {settings : Settings}
  {dryRun : Bool} {generatedAt : Timestamp} {files : List Text} {cs : List Contract}
  {notices later : List Notice} {sent : List Event}

/-! ## The events of loading -/

/-- The events among notices that report a contract that has been loaded. -/
def loadings (notices : List Notice) : List Event :=
  (Notice.events notices).filter fun e => e.stage = ofString "load"

@[simp] theorem loadings_append (notices later : List Notice) :
    loadings (notices ++ later) = loadings notices ++ loadings later := by
  rw [loadings, Notice.events_append, List.filter_append]
  rfl

/-- What reports another stage reports no loading. -/
theorem loadings_eq_nil (h : ∀ e ∈ Notice.events notices, e.stage ≠ ofString "load") :
    loadings notices = [] :=
  List.filter_eq_nil_iff.mpr fun e he => by simpa using h e he

theorem loadings_map_event (h : ∀ e ∈ sent, e.stage = ofString "load") :
    loadings (sent.map .event) = sent := by
  rw [loadings, Notice.events_map_event]
  exact List.filter_eq_self.mpr fun e he => decide_eq_true (h e he)

theorem stage_loadContracts (fs : Files) (files : List Text) :
    ∀ e ∈ (loadContracts fs files).1, e.stage = ofString "load" := by
  induction files with
  | nil => exact List.forall_mem_nil _
  | cons p files ih =>
      rw [loadContracts]
      cases loadContract fs p with
      | error stop => exact List.forall_mem_nil _
      | ok c => exact List.forall_mem_cons.mpr ⟨rfl, ih⟩

theorem stage_each (cs : List Contract) :
    ∀ e ∈ (Compiled.each cs).1, e.stage = ofString "compile" := by
  induction cs with
  | nil => exact List.forall_mem_nil _
  | cons c cs ih =>
      rw [Compiled.each]
      cases c.compile with
      | error e => exact List.forall_mem_nil _
      | ok k => exact List.forall_mem_cons.mpr ⟨rfl, ih⟩

theorem stage_pooled (finished cs : List Contract) :
    ∀ e ∈ (Compiled.pooled finished cs).1, e.stage = ofString "compile" := by
  intro e he
  obtain ⟨c, -, hc⟩ := List.mem_filterMap.mp he
  split at hc
  · cases hc
    rfl
  · cases hc

/-- The making of a module loads nothing. -/
theorem loadings_generate (registry : Registry) (generatedAt : Timestamp) (workers : ℤ)
    (transport : Text) (cs : List Contract) :
    loadings (GeneratedModule.generate registry transport workers generatedAt cs).1 = [] := by
  have hbatch : ∀ e ∈ Notice.events (Compiled.batch workers cs).1,
      e.stage = ofString "compile" := by
    rw [Compiled.batch, events_conclude]
    split
    · exact stage_pooled cs cs
    · exact stage_each cs
  -- compiling sends events of its own stage only
  have hnone : loadings (Compiled.batch workers cs).1 = [] :=
    loadings_eq_nil fun e he hload => absurd ((hbatch e he).symm.trans hload) (by decide)
  rw [GeneratedModule.generate]
  generalize Compiled.batch workers cs = batch at hnone ⊢
  obtain ⟨notices, compiled⟩ := batch
  cases compiled with
  | error e => exact hnone
  | ok ks =>
      simp only
      split
      · exact hnone
      · rw [loadings_append, show loadings notices = [] from hnone]
        rfl

theorem loadings_build (registry : Registry) (fs : Files) (settings : Settings)
    (generatedAt : Timestamp) (files : List Text) :
    loadings (build registry fs settings generatedAt files).1 = (loadContracts fs files).1 := by
  have hloaded := loadings_map_event (stage_loadContracts fs files)
  rw [build]
  by_cases hfound : files = []
  · rw [if_pos (List.isEmpty_iff.mpr hfound), hfound]
    rfl
  rw [if_neg fun h => hfound (List.isEmpty_iff.mp h)]
  generalize loadContracts fs files = loading at hloaded ⊢
  obtain ⟨loads, loaded⟩ := loading
  cases loaded with
  | error stop => exact hloaded
  | ok cs =>
      have hgenerate := loadings_generate registry generatedAt settings.maxWorkers
        settings.transport cs
      simp only
      generalize GeneratedModule.generate registry settings.transport settings.maxWorkers
        generatedAt cs = generated at hgenerate ⊢
      obtain ⟨notices, m⟩ := generated
      cases m with
      | error e =>
          simp only
          rw [loadings_append, hloaded, hgenerate, List.append_nil]
      | ok m =>
          simp only
          rw [loadings_append, hloaded, hgenerate, List.append_nil]

theorem loadings_deliverBuilt (fs : Files) (failures : DeviceFailures) (settings : Settings)
    (dryRun : Bool) (built : Except RunStop Product) :
    loadings (deliverBuilt fs failures settings dryRun built).2.1 = [] := by
  cases built with
  | error stop => rfl
  | ok product =>
      rw [deliverBuilt, deliver]
      cases dryRun with
      | true => rfl
      | false =>
          rw [if_neg Bool.false_ne_true]
          cases AtomicWrite.write fs failures settings.outputPath product.text with
          | mk after result => cases result <;> rfl

/-- A run loads the files that it finds, in their order. -/
theorem loadings_run (h : Search.find fs settings.inputPath settings.pattern = .ok files) :
    loadings (run registry fs failures settings dryRun generatedAt).2.1 =
      (loadContracts fs files).1 := by
  have hdiscover : loadings [.event (discoveredEvent settings.inputPath files.length)] = [] :=
    loadings_eq_nil fun e he => by
      rw [List.mem_singleton.mp he]
      exact (by decide : ofString "discover" ≠ ofString "load")
  rw [loadings, events_run h, ← List.singleton_append, List.filter_append, List.filter_append]
  have hbuild := loadings_build registry fs settings generatedAt files
  have hdeliver := loadings_deliverBuilt fs failures settings dryRun
    (build registry fs settings generatedAt files).2
  rw [loadings] at hdiscover hbuild hdeliver
  rw [hbuild, hdeliver, List.append_nil]
  exact congrArg (· ++ _) hdiscover

/-! ## Files with different contracts -/

/-- A file holds one contract. -/
theorem Holds.unique {p : Text} {c c' : Contract} (h : Holds fs p c) (h' : Holds fs p c') :
    c = c' := by
  obtain ⟨j, hread, hj⟩ := h
  obtain ⟨j', hread', hj'⟩ := h'
  cases hread.symm.trans hread'
  exact Except.ok.inj (hj.symm.trans hj')

/-- Files with contracts of different ids are different. -/
theorem nodup_of_ids (h : List.Forall₂ (Holds fs) files cs) (hids : (cs.map (·.id)).Nodup) :
    files.Nodup := by
  induction h with
  | nil => exact List.nodup_nil
  | cons hc hrest ih =>
      rw [List.map_cons, List.nodup_cons] at hids
      refine List.nodup_cons.mpr ⟨fun hmem => hids.1 ?_, ih hids.2⟩
      obtain ⟨d, hd, hholds⟩ := exists_of_forall₂ hrest.flip hmem
      rw [hc.unique hholds]
      exact List.mem_map_of_mem hd

/-- A run that ends with a module has found no file twice. -/
theorem nodup_of_ok {r : RunResult}
    (h : (run registry fs failures settings dryRun generatedAt).2.2 = .ok r) (hok : r.ok = true) :
    r.files.Nodup := by
  obtain ⟨cs, -, hgathers, -⟩ := (allOrNothing_of_result h).product hok
  exact nodup_of_ids hgathers.holds hgathers.ids

/-! ## Runs -/

/-- What a run does with the files that its search has found. -/
structure LoadsFound (registry : Registry) (fs : Files) (failures : DeviceFailures)
    (settings : Settings) (dryRun : Bool) (generatedAt : Timestamp) (found : List Text) : Prop where
  /-- They are loaded in the order in which they are listed, as often as they are, up to the first
  that does not hold a contract. -/
  loads : ∃ ended, Loads fs found
    (loadings (run registry fs failures settings dryRun generatedAt).2.1) ended
  files : ∀ r, (run registry fs failures settings dryRun generatedAt).2.2 = .ok r → r.files = found
  /-- With a module, no file is listed twice. -/
  once : ∀ r, (run registry fs failures settings dryRun generatedAt).2.2 = .ok r → r.ok = true →
    found.Pairwise fun p q => Text.le q p = false

theorem loadsFound_of_find
    (h : Search.find fs settings.inputPath settings.pattern = .ok files) :
    LoadsFound registry fs failures settings dryRun generatedAt files := by
  have hfiles : ∀ r, (run registry fs failures settings dryRun generatedAt).2.2 = .ok r →
      r.files = files := fun r hr =>
    Except.ok.inj ((allOrNothing_of_result hr).found.symm.trans h)
  refine ⟨⟨_, loadings_run h ▸ loads_loadContracts fs files⟩, hfiles, fun r hr hok => ?_⟩
  rw [Text.pairwise_strict_iff (Search.pairwise_find h), ← hfiles r hr]
  exact nodup_of_ok hr hok

/-- **A run discovers the files that match.** In a sound tree, a search of a plain directory for a
relative pattern answers unless there are too many segments or a path that the system does not take.
It then lists the files of the matches, in the order of their paths and once for each match: in
strictly increasing order exactly if no file has two matches, as for every pattern with at most one
`**` and no `..` behind a wildcard. A run loads the files as they are listed. -/
theorem find_listsMatches (fs : Files) (directory pattern : Text) (hroot : fs.root.IsSound)
    (hplain : Path.IsPlain (fs.absolute directory)) (hpattern : Path.isAbsolute pattern = false) :
    ((∃ found, Search.find fs directory pattern = .ok found) ↔
      Search.IsSearchable (fs.absolute directory) pattern) ∧
    ∀ found, Search.find fs directory pattern = .ok found →
      Search.ListsMatches fs (fs.absolute directory) pattern found ∧
      ∀ (registry : Registry) (failures : DeviceFailures) (settings : Settings) (dryRun : Bool)
        (generatedAt : Timestamp), settings.inputPath = directory → settings.pattern = pattern →
        LoadsFound registry fs failures settings dryRun generatedAt found := by
  refine ⟨Search.exists_find_iff (Search.isNormal_absolute fs directory) hplain hpattern,
    fun found hfound => ⟨Search.listsMatches_of_find hroot hplain hpattern hfound, ?_⟩⟩
  rintro registry failures settings dryRun generatedAt rfl rfl
  exact loadsFound_of_find hfound

/-- A current directory with a contract file in a directory below it, and one in a hidden one. -/
def nestedFiles : Files where
  root := .directory [(ofString "work", .directory [
    (ofString "api", .directory [(ofString "ping.contract.json", .file pingText.utf8)]),
    (ofString ".old", .directory [(ofString "ping.contract.json", .file pingText.utf8)])])]
  current := [ofString "work"]

/-- The settings of a run there for a pattern. -/
def nestedSettings (pattern : Text) : Settings :=
  { Settings.defaults nestedFiles.currentPath with pattern := pattern }

theorem isSound_nested : nestedFiles.root.IsSound := by
  have hping : (FileTree.directory
      [(ofString "ping.contract.json", .file pingText.utf8)]).IsSound :=
    .directory (by decide) (by decide) (List.forall_mem_singleton.mpr (.file _))
  refine .directory (by decide) (by decide) (List.forall_mem_singleton.mpr ?_)
  exact .directory (by decide) (by decide)
    (List.forall_mem_cons.mpr ⟨hping, List.forall_mem_singleton.mpr hping⟩)

theorem find_nested : Search.find nestedFiles nestedFiles.currentPath defaultPattern =
    .ok [ofString "/work/api/ping.contract.json"] := by
  cbv

/-- By default, the file that is not hidden is discovered. -/
theorem find_listsMatches_nested :
    nestedFiles.root.IsSound ∧ Path.IsPlain (nestedFiles.absolute nestedFiles.currentPath) ∧
    Path.isAbsolute defaultPattern = false ∧
    Search.ListsMatches nestedFiles (nestedFiles.absolute nestedFiles.currentPath) defaultPattern
      [ofString "/work/api/ping.contract.json"] ∧
    LoadsFound Registry.builtin nestedFiles {} (nestedSettings defaultPattern) false
      ⟨2024, 1, 2, 3, 4, 5, 0, some 0⟩ [ofString "/work/api/ping.contract.json"] := by
  have hplain : Path.IsPlain (nestedFiles.absolute nestedFiles.currentPath) := by decide
  have hpattern : Path.isAbsolute defaultPattern = false := by decide
  obtain ⟨hlists, hloads⟩ := (find_listsMatches nestedFiles nestedFiles.currentPath defaultPattern
    isSound_nested hplain hpattern).2 _ find_nested
  exact ⟨isSound_nested, hplain, hpattern, hlists, hloads _ _ _ _ _ rfl rfl⟩

theorem find_nested_again : Search.find nestedFiles nestedFiles.currentPath "**/**/*.json" =
    .ok [ofString "/work/api/ping.contract.json", ofString "/work/api/ping.contract.json"] := by
  cbv

theorem holds_nested : Holds nestedFiles "/work/api/ping.contract.json" pingContract := by
  have hread : nestedFiles.readJson "/work/api/ping.contract.json" = .ok pingDescriptor :=
    eq_ok_of_toOption (by decide +kernel)
  exact ⟨pingDescriptor, hread, rfl⟩

/-- Two segments for any number of names list a file twice that is there once, in a directory. A run
loads it twice, and ends without a module. -/
theorem find_lists_twice :
    nestedFiles.root.IsSound ∧ Path.IsPlain (nestedFiles.absolute nestedFiles.currentPath) ∧
    Path.isAbsolute (ofString "**/**/*.json") = false ∧
    ∃ found, Search.find nestedFiles nestedFiles.currentPath "**/**/*.json" = .ok found ∧
      (¬ found.Pairwise fun p q => Text.le q p = false) ∧ ¬ found.Nodup ∧
      loadings (run Registry.builtin nestedFiles {} (nestedSettings "**/**/*.json") false
        ⟨2024, 1, 2, 3, 4, 5, 0, some 0⟩).2.1 =
          List.replicate 2 (loadedEvent "ping" "/work/api/ping.contract.json") ∧
      ∀ r, (run Registry.builtin nestedFiles {} (nestedSettings "**/**/*.json") false
        ⟨2024, 1, 2, 3, 4, 5, 0, some 0⟩).2.2 = .ok r → r.ok = false := by
  have hrepeat : ¬ [ofString "/work/api/ping.contract.json",
      ofString "/work/api/ping.contract.json"].Nodup := by decide
  have hfind : Search.find nestedFiles (nestedSettings "**/**/*.json").inputPath
      (nestedSettings "**/**/*.json").pattern = .ok [ofString "/work/api/ping.contract.json",
        ofString "/work/api/ping.contract.json"] := find_nested_again
  refine ⟨isSound_nested, by decide, by decide, _, find_nested_again, ?_, hrepeat, ?_, ?_⟩
  · rwa [Text.pairwise_strict_iff (Search.pairwise_find find_nested_again)]
  · have hload := loadContract_eq_ok.mpr holds_nested
    rw [loadings_run hfind, loadContracts, loadContracts, hload]
    rfl
  · intro r hr
    rw [← Bool.not_eq_true]
    intro hok
    have hnodup := nodup_of_ok hr hok
    rw [(loadsFound_of_find hfind).files r hr] at hnodup
    exact hrepeat hnodup

end Generation

end CallBindings
