import CallBindings.Proofs.Files.AtomicWrite
import CallBindings.Proofs.Files.Search
import CallBindings.Proofs.Generation.Build

set_option autoImplicit false

/-! # A run is all or nothing

A run ends with a module exactly if the files found hold contracts that make one up and, unless it
is a dry run, the module is written. Then the file at the output path is the only one that changes,
and it holds the text of the module. In every other case no file changes. A run that is given paths
that the system takes breaks off only at one of the limits for what is nested.
-/

namespace CallBindings

open Text

namespace Generation

variable {registry : Registry} {fs : Files} {failures : DeviceFailures} {settings : Settings}
  {dryRun : Bool} {generatedAt : Timestamp} {files : List Text} {built : Except RunStop Product}
  {product : Product} {b : Breakdown}

/-! ## Delivery -/

/-- What a delivery comes to that is no dry run, notices left out. -/
theorem deliver_of_not_dry (fs : Files) (failures : DeviceFailures) (settings : Settings)
    (product : Product) :
    (deliver fs failures settings false product).1 =
        (AtomicWrite.write fs failures settings.outputPath product.text).1 ∧
      (deliver fs failures settings false product).2.2 =
        match (AtomicWrite.write fs failures settings.outputPath product.text).2 with
        | .ok () => .ok product
        | .error e => .error (if e.isSystem then .failed (.unwritable settings.outputPath e)
          else .broken (.file e)) := by
  rw [deliver, if_neg Bool.false_ne_true]
  obtain ⟨after, result⟩ := AtomicWrite.write fs failures settings.outputPath product.text
  cases result <;> exact ⟨rfl, rfl⟩

/-- What is built is delivered in a dry run, or if it is written. -/
theorem deliverBuilt_eq_ok : (deliverBuilt fs failures settings dryRun built).2.2 = .ok product ↔
    built = .ok product ∧ (dryRun = true ∨
      (AtomicWrite.write fs failures settings.outputPath product.text).2 = .ok ()) := by
  cases built with
  | error stop => simp [deliverBuilt]
  | ok built =>
      cases dryRun with
      | true => simp [deliverBuilt, deliver]
      | false =>
          rw [deliverBuilt, (deliver_of_not_dry fs failures settings built).2, Except.ok.injEq]
          constructor
          · intro h
            split at h
            · rename_i hwrite
              cases h
              exact ⟨rfl, Or.inr hwrite⟩
            · cases h
          · rintro ⟨rfl, h | hwrite⟩
            · cases h
            · rw [hwrite]

/-- A delivery that does not come to a written module leaves every file as it was. -/
theorem files_of_deliverBuilt
    (h : dryRun = true ∨ ∃ stop, (deliverBuilt fs failures settings dryRun built).2.2 = .error stop)
    (place : Place) : (deliverBuilt fs failures settings dryRun built).1.root.file? place =
      fs.root.file? place := by
  cases built with
  | error stop => rfl
  | ok product =>
      cases dryRun with
      | true => rfl
      | false =>
          obtain ⟨hfiles, hended⟩ := deliver_of_not_dry fs failures settings product
          rw [deliverBuilt] at h ⊢
          rw [hfiles]
          rcases h with h | ⟨stop, h⟩
          · cases h
          · rw [hended] at h
            split at h
            · cases h
            · rename_i e hwrite
              exact AtomicWrite.files_of_write_error hwrite place

/-- A delivery breaks off with what was to be built, or at a fault that is not the system's. -/
theorem deliverBuilt_eq_broken
    (h : (deliverBuilt fs failures settings dryRun built).2.2 = .error (.broken b)) :
    built = .error (.broken b) ∨ ∃ product e, built = .ok product ∧
      (AtomicWrite.write fs failures settings.outputPath product.text).2 = .error e ∧
        e.isSystem = false := by
  cases built with
  | error stop => exact Or.inl (congrArg Except.error (Except.error.inj h))
  | ok product =>
      cases dryRun with
      | true => cases h
      | false =>
          rw [deliverBuilt, (deliver_of_not_dry fs failures settings product).2] at h
          split at h
          · cases h
          · rename_i e hwrite
            refine Or.inr ⟨product, e, rfl, hwrite, ?_⟩
            rw [← Bool.not_eq_true]
            intro hsystem
            rw [if_pos hsystem] at h
            cases h

/-! ## Runs -/

theorem conclude_eq_error {stopped : Except RunStop Product} :
    conclude stopped = .error b ↔ stopped = .error (.broken b) := by
  cases stopped with
  | ok product => simp [conclude]
  | error stop => cases stop <;> simp [conclude]

theorem conclude_eq_ok {stopped : Except RunStop Product} {outcome : Except RunFailure Product}
    (h : conclude stopped = .ok outcome) :
    stopped = match outcome with
      | .ok product => .ok product
      | .error failure => .error (.failed failure) := by
  cases stopped with
  | ok product =>
      cases h
      rfl
  | error stop =>
      cases stop with
      | failed failure =>
          cases h
          rfl
      | broken b => cases h

theorem run_of_find_error {e : FileError}
    (h : Search.find fs settings.inputPath settings.pattern = .error e) :
    run registry fs failures settings dryRun generatedAt = (fs, [], .error (.file e)) := by
  rw [run, h]

/-- What a run comes to that has found its files, notices left out. -/
theorem run_of_find (h : Search.find fs settings.inputPath settings.pattern = .ok files) :
    (run registry fs failures settings dryRun generatedAt).1 =
        (deliverBuilt fs failures settings dryRun
          (build registry fs settings generatedAt files).2).1 ∧
      (run registry fs failures settings dryRun generatedAt).2.2 =
        (conclude (deliverBuilt fs failures settings dryRun
          (build registry fs settings generatedAt files).2).2.2).map
            fun outcome => ⟨settings, files, dryRun, outcome⟩ := by
  rw [run, h]
  simp only
  cases conclude (deliverBuilt fs failures settings dryRun
    (build registry fs settings generatedAt files).2).2.2 <;> exact ⟨rfl, rfl⟩

/-- Whether nothing is nested deeper than a run follows it: the segments of the pattern, the values
in the files that are found, and the directories that are missing for the output. -/
structure WithinLimits (fs : Files) (settings : Settings) : Prop where
  segments : (Search.plan (Search.written fs settings.inputPath settings.pattern)).2.length ≤
    Search.segmentLimit
  values : ∀ files, Search.find fs settings.inputPath settings.pattern = .ok files →
    ¬ GivesUp fs files
  directories : fs.missing (fs.parentOf settings.outputPath) ≤ Files.chainLimit

/-- What a run with a result has done; `after` are the files afterwards. -/
structure AllOrNothing (registry : Registry) (fs : Files) (failures : DeviceFailures)
    (settings : Settings) (dryRun : Bool) (generatedAt : Timestamp) (after : Files)
    (r : RunResult) : Prop where
  /-- The files of the result are those that the search finds, -/
  found : Search.find fs settings.inputPath settings.pattern = .ok r.files
  /-- in the order of their paths. -/
  sorted : r.files.Pairwise fun p q => Text.le p q = true
  /-- The run ends with a module exactly if the files hold contracts that make one up, and it is a
  dry run or the text of the module is written. -/
  ok_iff : r.ok = true ↔ ∃ cs, Gathers registry fs settings r.files cs ∧ (dryRun = true ∨
    ∃ m, (GeneratedModule.generate registry settings.transport settings.maxWorkers generatedAt
        cs).2 = .ok m ∧
      (AtomicWrite.write fs failures settings.outputPath m.render).2 = .ok ())
  /-- Without a module, or in a dry run, no file changes. -/
  unchanged : r.ok = false ∨ dryRun = true → ∀ place, after.root.file? place = fs.root.file? place
  /-- A module that is not for a dry run is what the file at the output path holds afterwards, and
  no other file changes. -/
  replaced : r.ok = true → dryRun = false → ∃ content, r.moduleText.toUtf8 = .ok content ∧
    AtomicWrite.Replaces fs after settings.outputPath content
  /-- The module is that of the contracts in the files, in the order of the files. -/
  product : r.ok = true → ∃ cs m, Gathers registry fs settings r.files cs ∧
    (GeneratedModule.generate registry settings.transport settings.maxWorkers generatedAt cs).2 =
      .ok m ∧ r.contractIds = cs.map (·.id) ∧ r.moduleText = m.render

/-- What is built has a text that can be encoded. -/
theorem isScalar_of_build
    (h : (build registry fs settings generatedAt files).2 = .ok product) :
    product.text.isScalar = true := by
  obtain ⟨cs, m, hgathers, hm, rfl⟩ := build_eq_ok.mp h
  exact GeneratedModule.isScalar_render (sound_of_forall₂ hgathers.holds) hm

/-- A run within the limits, for paths that the system takes, has a result. -/
theorem exists_result (hcurrent : Files.IsUsable fs.currentPath)
    (hinput : Files.IsUsable settings.inputPath) (hpattern : Files.IsUsable settings.pattern)
    (houtput : Files.IsUsable settings.outputPath) (hlimits : WithinLimits fs settings) :
    ∃ r, (run registry fs failures settings dryRun generatedAt).2.2 = .ok r := by
  cases hfind : Search.find fs settings.inputPath settings.pattern with
  | error e =>
      have hsegments := Search.find_eq_error hcurrent hinput hpattern hfind
      exact absurd hlimits.segments (by omega)
  | ok files =>
      rw [(run_of_find hfind).2]
      cases hended : conclude (deliverBuilt fs failures settings dryRun
          (build registry fs settings generatedAt files).2).2.2 with
      | ok outcome => exact ⟨_, rfl⟩
      | error b =>
          rcases deliverBuilt_eq_broken (conclude_eq_error.mp hended) with
            hbuilt | ⟨product, e, hbuilt, hwrite, hsystem⟩
          -- what was broken off is the reading of a file, or the making of directories
          · exact absurd (givesUp_of_build hbuilt) (hlimits.values files hfind)
          · have hdirectories := hlimits.directories
            rcases AtomicWrite.write_eq_error hcurrent houtput (isScalar_of_build hbuilt) hwrite with
              h | h
            · rw [hsystem] at h
              cases h
            · omega

/-- A run that breaks off leaves every file as it was. -/
theorem files_of_breakdown
    (h : (run registry fs failures settings dryRun generatedAt).2.2 = .error b) (place : Place) :
    (run registry fs failures settings dryRun generatedAt).1.root.file? place =
      fs.root.file? place := by
  cases hfind : Search.find fs settings.inputPath settings.pattern with
  | error e => rw [run_of_find_error hfind]
  | ok files =>
      obtain ⟨hfiles, hresult⟩ := run_of_find hfind
      rw [hresult] at h
      rw [hfiles]
      exact files_of_deliverBuilt
        (Or.inr ⟨_, conclude_eq_error.mp (map_eq_error.mp h)⟩) place

/-- A module is delivered exactly if the files hold contracts that make one up, and it is a dry run
or the text of the module is written. -/
theorem exists_delivered_iff :
    (∃ product, (deliverBuilt fs failures settings dryRun
      (build registry fs settings generatedAt files).2).2.2 = .ok product) ↔
    ∃ cs, Gathers registry fs settings files cs ∧ (dryRun = true ∨
      ∃ m, (GeneratedModule.generate registry settings.transport settings.maxWorkers generatedAt
          cs).2 = .ok m ∧
        (AtomicWrite.write fs failures settings.outputPath m.render).2 = .ok ()) := by
  constructor
  · rintro ⟨product, h⟩
    obtain ⟨hbuilt, hwritten⟩ := deliverBuilt_eq_ok.mp h
    obtain ⟨cs, m, hgathers, hm, rfl⟩ := build_eq_ok.mp hbuilt
    exact ⟨cs, hgathers, hwritten.imp_right fun hwrite => ⟨m, hm, hwrite⟩⟩
  · rintro ⟨cs, hgathers, hwritten⟩
    have hdelivered : ∀ m, (GeneratedModule.generate registry settings.transport
        settings.maxWorkers generatedAt cs).2 = .ok m → (dryRun = true ∨
          (AtomicWrite.write fs failures settings.outputPath m.render).2 = .ok ()) →
        ∃ product, (deliverBuilt fs failures settings dryRun
          (build registry fs settings generatedAt files).2).2.2 = .ok product :=
      fun m hm hwritten => ⟨⟨m, m.render⟩,
        deliverBuilt_eq_ok.mpr ⟨build_eq_ok.mpr ⟨cs, m, hgathers, hm, rfl⟩, hwritten⟩⟩
    -- a dry run writes nothing, but its module is generated all the same
    rcases hwritten with hdry | ⟨m, hm, hwrite⟩
    · obtain ⟨m, hm⟩ := hgathers.exists_generate generatedAt
      exact hdelivered m hm (Or.inl hdry)
    · exact hdelivered m hm (Or.inr hwrite)

/-- A module that is delivered is that of the contracts in the files, in their order. -/
theorem product_of_delivered
    (h : (deliverBuilt fs failures settings dryRun
      (build registry fs settings generatedAt files).2).2.2 = .ok product) :
    ∃ cs m, Gathers registry fs settings files cs ∧
      (GeneratedModule.generate registry settings.transport settings.maxWorkers generatedAt cs).2 =
        .ok m ∧ product.content.contracts.map (·.id) = cs.map (·.id) ∧ product.text = m.render := by
  obtain ⟨cs, m, hgathers, hm, rfl⟩ := build_eq_ok.mp (deliverBuilt_eq_ok.mp h).1
  have hcontracts :=
    (GeneratedModule.gathers_of_generate (sound_of_forall₂ hgathers.holds) hm).contracts
  exact ⟨cs, m, hgathers, hm,
    Compiled.map_id_of_forall₂ hcontracts Contract.CompilesTo.id, rfl⟩

/-- A module that is delivered in no dry run is what the output file holds, and no other file
changes. -/
theorem replaces_of_delivered
    (h : (deliverBuilt fs failures settings false built).2.2 = .ok product) :
    ∃ content, product.text.toUtf8 = .ok content ∧ AtomicWrite.Replaces fs
      (deliverBuilt fs failures settings false built).1 settings.outputPath content := by
  obtain ⟨hbuilt, hdry | hwrite⟩ := deliverBuilt_eq_ok.mp h
  · cases hdry
  · rw [hbuilt, deliverBuilt, (deliver_of_not_dry fs failures settings product).1]
    exact AtomicWrite.write_eq_ok hwrite

/-- The result of a run says what it has done. -/
theorem allOrNothing_of_result {r : RunResult}
    (h : (run registry fs failures settings dryRun generatedAt).2.2 = .ok r) :
    AllOrNothing registry fs failures settings dryRun generatedAt
      (run registry fs failures settings dryRun generatedAt).1 r := by
  cases hfind : Search.find fs settings.inputPath settings.pattern with
  | error e =>
      rw [run_of_find_error hfind] at h
      cases h
  | ok files =>
      obtain ⟨hfiles, hresult⟩ := run_of_find hfind
      rw [hresult] at h
      obtain ⟨outcome, hended, rfl⟩ := map_eq_ok.mp h
      have hstopped := conclude_eq_ok hended
      rw [hfiles]
      cases outcome with
      | error failure =>
          have hnone : ¬ ∃ product, (deliverBuilt fs failures settings dryRun
              (build registry fs settings generatedAt files).2).2.2 = .ok product := by
            rintro ⟨product, hproduct⟩
            rw [hstopped] at hproduct
            cases hproduct
          exact {
            found := hfind
            sorted := Search.pairwise_find hfind
            ok_iff := ⟨fun hok => Bool.noConfusion hok,
              fun hmodule => absurd (exists_delivered_iff.mpr hmodule) hnone⟩
            unchanged := fun _ => files_of_deliverBuilt (Or.inr ⟨_, hstopped⟩)
            replaced := fun hok => Bool.noConfusion hok
            product := fun hok => Bool.noConfusion hok }
      | ok product =>
          exact {
            found := hfind
            sorted := Search.pairwise_find hfind
            ok_iff := ⟨fun _ => exists_delivered_iff.mp ⟨product, hstopped⟩, fun _ => rfl⟩
            unchanged := by
              rintro (hfailed | hdry)
              · cases hfailed
              · exact files_of_deliverBuilt (Or.inl hdry)
            replaced := by
              intro _ hdry
              subst hdry
              exact replaces_of_delivered hstopped
            product := fun _ => product_of_delivered hstopped }

/-- **A run is all or nothing.** For paths that the system takes, a run within the limits has a
result, and a run that breaks off at one of them leaves all files as they were. A result is one with
a module exactly if the files found hold contracts that make one up and, but for a dry run, the
module is written; it is then that of the contracts in the order of their paths, and the output file
is the only one to change. Any other run changes no file. -/
theorem run_allOrNothing (registry : Registry) (fs : Files) (failures : DeviceFailures)
    (settings : Settings) (dryRun : Bool) (generatedAt : Timestamp)
    (hcurrent : Files.check fs.currentPath = .ok ())
    (hinput : Files.check settings.inputPath = .ok ())
    (hpattern : Files.check settings.pattern = .ok ())
    (houtput : Files.check settings.outputPath = .ok ()) :
    (WithinLimits fs settings →
      ∃ r, (run registry fs failures settings dryRun generatedAt).2.2 = .ok r) ∧
    (∀ b, (run registry fs failures settings dryRun generatedAt).2.2 = .error b →
      ∀ place, (run registry fs failures settings dryRun generatedAt).1.root.file? place =
        fs.root.file? place) ∧
    ∀ r, (run registry fs failures settings dryRun generatedAt).2.2 = .ok r →
      AllOrNothing registry fs failures settings dryRun generatedAt
        (run registry fs failures settings dryRun generatedAt).1 r := by
  rw [Files.check_eq_ok_iff] at hcurrent hinput hpattern houtput
  exact ⟨exists_result hcurrent hinput hpattern houtput, fun _ => files_of_breakdown,
    fun _ => allOrNothing_of_result⟩

/-- The text of a contract. -/
def pingText : Text :=
  "\x7b\"id\":\"ping\",\"url\":\"/\",\"method\":\"GET\",\"requestBody\":\x7b\"type\":\"boolean\"\x7d," ++
    ofString "\"responses\":[\x7b\"code\":200,\"body\":\x7b\"type\":\"boolean\"\x7d\x7d]\x7d"

/-- The descriptor in that text. -/
def pingDescriptor : Json := .obj
  [("id", .str "ping"), ("url", .str "/"), ("method", .str "GET"),
    ("requestBody", .obj [("type", .str "boolean")]),
    ("responses", .arr [.obj [("code", .int 200), ("body", .obj [("type", .str "boolean")])]])]

/-- The contract of that descriptor. -/
def pingContract : Contract := ⟨"ping", "/", "GET", .boolean, [⟨200, .boolean⟩]⟩

/-- A current directory with that text in its only file. -/
def pingFiles : Files where
  root := .directory [(ofString "work",
    .directory [(ofString "ping.contract.json", .file pingText.utf8)])]
  current := [ofString "work"]

/-- The settings in force for it. -/
def pingSettings : Settings := Settings.defaults pingFiles.currentPath

theorem find_ping : Search.find pingFiles pingSettings.inputPath pingSettings.pattern =
    .ok [ofString "/work/ping.contract.json"] :=
  eq_ok_of_toOption (by decide +kernel)

theorem holds_ping : Holds pingFiles "/work/ping.contract.json" pingContract := by
  have hread : pingFiles.readJson "/work/ping.contract.json" = .ok pingDescriptor :=
    eq_ok_of_toOption (by decide +kernel)
  exact ⟨pingDescriptor, hread, rfl⟩

theorem gathers_ping : Gathers Registry.builtin pingFiles pingSettings
    [ofString "/work/ping.contract.json"] [pingContract] where
  found := List.cons_ne_nil _ _
  holds := .cons holds_ping .nil
  success := by decide
  ids := by decide
  transport := by decide

theorem withinLimits_ping : WithinLimits pingFiles pingSettings where
  segments := by decide +kernel
  values := by
    intro files hfind
    rw [find_ping] at hfind
    cases hfind
    rintro ⟨p, hp, e, he, -⟩
    obtain ⟨j, hj, -⟩ := holds_ping
    rw [List.mem_singleton.mp hp, hj] at he
    cases he
  directories := by decide +kernel

/-- Nothing there is in the way of the output. -/
theorem write_ping {text : Text} (h : text.isScalar = true) :
    (AtomicWrite.write pingFiles {} pingSettings.outputPath text).2 = .ok () := by
  have hprepare : AtomicWrite.prepare pingFiles {} pingSettings.outputPath = (pingFiles, .ok ()) :=
    rfl
  rw [AtomicWrite.write, hprepare]
  simp only [AtomicWrite.writeBeside, AtomicWrite.complete, toUtf8_of_isScalar h]
  rfl

theorem run_allOrNothing_ping :
    Files.check pingFiles.currentPath = .ok () ∧ Files.check pingSettings.inputPath = .ok () ∧
    Files.check pingSettings.pattern = .ok () ∧ Files.check pingSettings.outputPath = .ok () ∧
    WithinLimits pingFiles pingSettings ∧
    ∃ r, (run Registry.builtin pingFiles {} pingSettings false
        ⟨2024, 1, 2, 3, 4, 5, 0, some 0⟩).2.2 = .ok r ∧ r.ok = true ∧
      AllOrNothing Registry.builtin pingFiles {} pingSettings false ⟨2024, 1, 2, 3, 4, 5, 0, some 0⟩
        (run Registry.builtin pingFiles {} pingSettings false ⟨2024, 1, 2, 3, 4, 5, 0, some 0⟩).1
        r := by
  have hcurrent : Files.check pingFiles.currentPath = .ok () :=
    Files.check_eq_ok_iff.mpr (by decide)
  have hinput : Files.check pingSettings.inputPath = .ok () :=
    Files.check_eq_ok_iff.mpr (by decide)
  have hpattern : Files.check pingSettings.pattern = .ok () :=
    Files.check_eq_ok_iff.mpr (by decide)
  have houtput : Files.check pingSettings.outputPath = .ok () :=
    Files.check_eq_ok_iff.mpr (by decide)
  obtain ⟨hresult, -, hdone⟩ := run_allOrNothing Registry.builtin pingFiles {} pingSettings false
    ⟨2024, 1, 2, 3, 4, 5, 0, some 0⟩ hcurrent hinput hpattern houtput
  obtain ⟨r, hr⟩ := hresult withinLimits_ping
  have hall := hdone r hr
  have hfiles : r.files = [ofString "/work/ping.contract.json"] := by
    have hfound := hall.found
    rw [find_ping] at hfound
    exact (Except.ok.inj hfound).symm
  obtain ⟨m, hm⟩ := gathers_ping.exists_generate ⟨2024, 1, 2, 3, 4, 5, 0, some 0⟩
  have hscalar := GeneratedModule.isScalar_render (sound_of_forall₂ gathers_ping.holds) hm
  have hok : r.ok = true :=
    hall.ok_iff.mpr ⟨[pingContract], hfiles ▸ gathers_ping, Or.inr ⟨m, hm, write_ping hscalar⟩⟩
  exact ⟨hcurrent, hinput, hpattern, houtput, withinLimits_ping, r, hr, hok, hall⟩

end Generation

end CallBindings
