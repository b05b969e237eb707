import CallBindings.Proofs.Json.Bytes
import CallBindings.Proofs.Json.Equality
import CallBindings.Proofs.Json.Names
import CallBindings.Proofs.Settings.Validate
import CallBindings.Proofs.Text.Trim
import CallBindings.Settings.Layers

set_option autoImplicit false

/-! # Layers of settings

Of the three layers, the command line comes before the file and the file before the defaults, and
null counts as nothing. Layers and validation have rules of their own for null: a null in the file
replaces the default and is replaced by it again, a null on the command line is passed over. The
rules come to the same: a setting is the normal form of the first value that is not null. The one
exception is a current directory whose path ends in white space: as a value it is trimmed like any
other, but where the file says null it is put back as it is.
-/

namespace CallBindings

/-- Where a value can be read, something stands. -/
theorem Files.hasNode_of_readJson {fs : Files} {p : Text} {j : Json} (h : fs.readJson p = .ok j) :
    fs.hasNode p = true := by
  rw [Files.readJson] at h
  split at h
  · cases h
  · next hread =>
      obtain ⟨⟨⟩, hcheck, hread⟩ := bind_eq_ok.mp hread
      rw [Files.hasNode, Files.node?, hcheck]
      split at hread
      · cases hread
      · next hlocate =>
          rw [hlocate]
          split at hread
          · next hget => simp only [hget, Option.isSome_some]
          · cases hread
          · cases hread

namespace Settings

variable {mode : ValidationMode} {registry : Registry} {fs : Files} {given : Option Text}
  {d s : Settings} {overrides file members base : List (Text × Json)} {records : List LogRecord}
  {warnings : List SettingsWarning} {field current : Text}

/-! ## The file -/

/-- The members of the object in the JSON file at a path. A file that holds no object, or cannot be
read, stands for an object without members, and so does a missing one. -/
def objectAt (fs : Files) (p : Text) : List (Text × Json) :=
  match fs.readJson p with
  | .ok (.obj members) => members
  | _ => []

theorem fileMembers_eq_ok {p : Text} (h : fileMembers fs p = .ok (members, records)) :
    members = objectAt fs p := by
  rw [fileMembers] at h
  rw [objectAt]
  split at h
  · next hnode =>
      -- nothing stands there, so nothing is read there either
      cases h
      split
      · next hread =>
          rw [Files.hasNode_of_readJson hread] at hnode
          cases hnode
      · rfl
  · split at h
    · next hread =>
        rw [hread]
        split at h
        · cases h
        · cases h
          rfl
    · next hread =>
        cases h
        rw [hread]
    · next hobj hread =>
        cases h
        rw [hread]
        split
        · next hj =>
            cases hj
            exact absurd rfl (hobj _)
        · rfl

/-- Whatever is in the file, settings are loaded, unless values are nested too deeply. -/
theorem exists_kind_of_load {e : JsonFileError} (h : load fs given = .error e) :
    ∃ kind, e = .content (.json (.tooDeep kind)) := by
  rw [load] at h
  split at h
  · next hfile =>
      cases h
      rw [fileMembers] at hfile
      split at hfile
      · cases hfile
      · split at hfile
        · split at hfile
          · next hgiven =>
              cases hfile
              cases e with
              | file _ => cases hgiven
              | content e =>
                  cases e with
                  | decode _ => cases hgiven
                  | json e =>
                      cases e with
                      | malformed _ _ _ _ => cases hgiven
                      | longInteger _ => cases hgiven
                      | tooDeep kind => exact ⟨kind, rfl⟩
          · cases hfile
        · cases hfile
        · cases hfile
  · cases h

theorem load_eq_ok (h : load fs given = .ok (base, records)) :
    base = assignAll (defaults fs.currentPath).members
      (objectAt fs (configPath fs.currentPath given)) := by
  rw [load] at h
  split at h
  · cases h
  · next hfile =>
      cases h
      rw [fileMembers_eq_ok hfile]

theorem nodup_objectAt (fs : Files) (p : Text) : ((objectAt fs p).map Prod.fst).Nodup := by
  rw [objectAt]
  split
  · next hread =>
      rw [Files.readJson] at hread
      split at hread
      · cases hread
      · split at hread
        · cases hread
        · next hutf8 =>
            cases hread
            rw [Json.readUtf8] at hutf8
            split at hutf8
            · cases hutf8
            · split at hutf8
              · next hread =>
                  cases hutf8
                  exact Json.nodup_of_read hread
              · cases hutf8
  · exact List.nodup_nil

/-! ## The value of a setting in all layers -/

/-- The value that a layer has under a name, unless it is null. -/
def stated? (field : Text) (layer : List (Text × Json)) : Option Json :=
  (lookup? field layer).filter fun j => !j.isNull

/-- The first value under a name that is not null in its layer; null if there is none. -/
def firstValue (layers : List (List (Text × Json))) (field : Text) : Json :=
  (layers.findSome? (stated? field)).getD .null

/-- The value under a name when the layers are put together: a null in the file stands. -/
def mergedValue (d : Settings) (file overrides : List (Text × Json)) (field : Text) : Json :=
  ((stated? field overrides).or ((lookup? field file).or (lookup? field d.members))).getD .null

/-- What the command line says about settings, as members. -/
def statedMembers (overrides : List (Text × Json)) : List (Text × Json) :=
  fields.filterMap fun field => (stated? field overrides).map (Prod.mk field)

theorem override_eq (base overrides : List (Text × Json)) :
    override base overrides = assignAll base (statedMembers overrides) := by
  rw [override, statedMembers]
  congr 2
  funext field
  rw [stated?]
  cases lookup? field overrides with
  | none => rfl
  | some j => cases j <;> rfl

theorem nodup_fields : fields.Nodup := by decide

theorem nodup_members (current : Text) : ((defaults current).members.map Prod.fst).Nodup :=
  nodup_fields

theorem nodup_statedMembers (overrides : List (Text × Json)) :
    ((statedMembers overrides).map Prod.fst).Nodup := by
  rw [statedMembers, map_fst_filterMap]
  exact nodup_fields.filter _

theorem filter_statedMembers (overrides : List (Text × Json)) :
    (statedMembers overrides).filter (fun m => !fields.contains m.1) = [] := by
  refine List.filter_eq_nil_iff.mpr fun m hm => ?_
  obtain ⟨field, hfield, hmap⟩ := List.mem_filterMap.mp hm
  obtain ⟨j, -, rfl⟩ := Option.map_eq_some_iff.mp hmap
  simp [hfield]

theorem nodup_override (base_nodup : (base.map Prod.fst).Nodup)
    (overrides : List (Text × Json)) : ((override base overrides).map Prod.fst).Nodup :=
  override_eq base overrides ▸ nodup_map_fst_assignAll base_nodup _

/-- What validation finds under the name of a setting when the layers are put together, and put
over the defaults once more. -/
theorem getD_lookup?_layers (hfile : (file.map Prod.fst).Nodup) (hfield : field ∈ fields) :
    (lookup? field (assignAll (defaults current).members
      (override (assignAll (defaults current).members file) overrides))).getD .null =
        mergedValue (defaults current) file overrides field := by
  have hbase := nodup_map_fst_assignAll (nodup_members current) file
  -- the defaults come last twice, below the file and below everything
  rw [lookup?_assignAll (nodup_override hbase overrides), override_eq,
    lookup?_assignAll (nodup_statedMembers overrides), statedMembers, lookup?_filterMap,
    if_pos hfield, lookup?_assignAll hfile, Option.or_assoc, Option.or_assoc, Option.or_self,
    mergedValue]

/-- Members that are no settings come from the file. -/
theorem filter_layers (hfile : (file.map Prod.fst).Nodup) :
    (assignAll (defaults current).members
      (override (assignAll (defaults current).members file) overrides)).filter
        (fun m => !fields.contains m.1) = file.filter fun m => !fields.contains m.1 := by
  have hbase := nodup_map_fst_assignAll (nodup_members current) file
  -- neither the defaults nor the command line have a part in what is left
  have hdefaults : (defaults current).members.filter (fun m => !fields.contains m.1) = [] := rfl
  have hall {entries : List (Text × Json)} (h : (entries.map Prod.fst).Nodup) :
      assignAll [] (entries.filter fun m => !fields.contains m.1) =
        entries.filter fun m => !fields.contains m.1 :=
    assignAll_of_nodup (h.sublist (List.filter_sublist.map _))
  rw [filter_assignAll (fun name => !fields.contains name), hdefaults,
    hall (nodup_override hbase overrides), override_eq,
    filter_assignAll (fun name => !fields.contains name), filter_statedMembers,
    filter_assignAll (fun name => !fields.contains name), hdefaults, hall hfile]
  rfl

/-- A null that stands in the file makes a difference only where the default has another normal form
than null. -/
theorem normalForm_mergedValue {β : Type} (form : Json → β) {j : Json}
    (hj : lookup? field d.members = some j) (hnull : j.isNull = false)
    (hform : form .null = form j ∨ stated? field overrides ≠ none ∨
      lookup? field file ≠ some .null) :
    form (mergedValue d file overrides field) =
      form (firstValue [overrides, file, d.members] field) := by
  have hdefault : stated? field d.members = some j := by
    rw [stated?, hj, Option.filter_some, hnull]
    rfl
  rw [mergedValue, firstValue, List.findSome?_cons, List.findSome?_cons, List.findSome?_cons,
    hdefault, hj]
  -- a file that states null hides the default, and there the forms have to agree
  cases hoverride : stated? field overrides with
  | some j' => rfl
  | none =>
      cases hfile : lookup? field file with
      | none =>
          rw [stated?, hfile]
          rfl
      | some j' =>
          rw [stated?, hfile]
          cases j' with
          | null =>
              rcases hform with hform | hstated | hfile'
              · exact hform
              · exact absurd hoverride hstated
              · exact absurd hfile hfile'
          | bool _ => rfl
          | int _ => rfl
          | float _ => rfl
          | str _ => rfl
          | arr _ => rfl
          | obj _ => rfl

/-! ## Settings of layers -/

/-- A trimmed text is its own normal form. -/
theorem normalText_self {t : Text} (h : t.trim = t) :
    normalText t .null = normalText t (.str t) := by
  show t = if t.trim.isEmpty then t else t.trim
  rw [h, ite_self]

theorem normalTransport_self {t : Text} (h : t.trim = t) :
    normalTransport registry t .null = normalTransport registry t (.str t) := by
  rw [normalTransport, normalTransport, normalText_self h]

theorem trim_defaultOutputPath (fs : Files) :
    (defaults fs.currentPath).outputPath.trim = (defaults fs.currentPath).outputPath := by
  -- the path of the current directory begins with a slash, and the name of the output is added
  have hcurrent : ∃ rest, fs.currentPath = CodePoint.ofChar '/' :: rest := ⟨_, rfl⟩
  have houtput : ∃ before, defaultOutput = before ++ [CodePoint.ofChar 'y'] :=
    ⟨Text.ofString "api_bindings.p", by decide⟩
  obtain ⟨rest, hrest⟩ := hcurrent
  obtain ⟨before, hbefore⟩ := houtput
  show (Path.join fs.currentPath defaultOutput).trim = Path.join fs.currentPath defaultOutput
  have hrelative : Path.isAbsolute defaultOutput = false := by decide
  rw [Path.join, hrelative, if_neg Bool.false_ne_true, hrest, hbefore]
  split
  · exact Text.trim_of_ends (List.cons_append ..) (List.append_assoc _ _ _).symm (by decide)
      (by decide)
  · exact Text.trim_of_ends (List.cons_append ..) (List.append_assoc _ _ _).symm (by decide)
      (by decide)

/-- Whether settings are what validation makes of the layers: the defaults, the file at the path
given for it, and the values of the command line. -/
def Settles (mode : ValidationMode) (registry : Registry) (fs : Files) (given : Option Text)
    (overrides : List (Text × Json)) (s : Settings) : Prop :=
  ∃ base records warnings, load fs given = .ok (base, records) ∧
    validate mode registry fs.currentPath (.obj (override base overrides)) = .ok (s, warnings)

theorem normal_congr {value value' : Text → Json} (h : ∀ field ∈ fields, value field = value' field)
    (extra : List (Text × Json)) :
    normal registry d value extra = normal registry d value' extra := by
  simp only [fields, List.map_cons, List.map_nil, List.forall_mem_cons] at h
  obtain ⟨h₁, h₂, h₃, h₄, h₅, h₆, h₇, -⟩ := h
  rw [normal, normal, h₁, h₂, h₃, h₄, h₅, h₆, h₇]

theorem lookup?_members_normal {value value' : Text → Json} {extra extra' : List (Text × Json)}
    (hfield : field ∈ fields) (h : value field = value' field) :
    lookup? field (normal registry d value extra).members =
      lookup? field (normal registry d value' extra').members := by
  simp only [fields, List.map_cons, List.map_nil, List.mem_cons, List.not_mem_nil, or_false]
    at hfield
  rcases hfield with rfl | rfl | rfl | rfl | rfl | rfl | rfl
  · exact congrArg (fun j => some (Json.str (normalText d.inputPath j))) h
  · exact congrArg (fun j => some (Json.str (normalText d.outputPath j))) h
  · exact congrArg (fun j => some (Json.str (normalText d.pattern j))) h
  · exact congrArg (fun j => some (Json.str (normalTransport registry d.transport j))) h
  · exact congrArg (fun j => some (Json.int (normalCount d.maxWorkers j))) h
  · exact congrArg (fun j => some (Json.str (normalText d.logLevel j).upper)) h
  · exact congrArg (fun j => some (Json.str (normalText [] j))) h

theorem eq_normal_of_settles (h : Settles mode registry fs given overrides s) :
    s = normal registry (defaults fs.currentPath)
      (mergedValue (defaults fs.currentPath) (objectAt fs (configPath fs.currentPath given))
        overrides)
      ((objectAt fs (configPath fs.currentPath given)).filter fun m => !fields.contains m.1) := by
  obtain ⟨base, records, warnings, hload, hvalidate⟩ := h
  have hfile := nodup_objectAt fs (configPath fs.currentPath given)
  rw [eq_normal_of_validate hvalidate, load_eq_ok hload, filter_layers hfile]
  exact normal_congr (fun field hfield => getD_lookup?_layers hfile hfield) _

/-- What settings owe to each layer. -/
structure Layered (registry : Registry) (d : Settings) (overrides file : List (Text × Json))
    (s : Settings) : Prop where
  /-- A setting is the normal form of the first value that is not null. Where that is the current
  directory, and its path ends in white space, a null in the file keeps it from being trimmed. -/
  inputPath : s.inputPath =
      normalText d.inputPath (firstValue [overrides, file, d.members] "input_path") ∨
    d.inputPath.trim ≠ d.inputPath ∧ stated? "input_path" overrides = none ∧
      lookup? "input_path" file = some .null ∧ s.inputPath = d.inputPath
  outputPath : s.outputPath =
    normalText d.outputPath (firstValue [overrides, file, d.members] "output_path")
  pattern : s.pattern = normalText d.pattern (firstValue [overrides, file, d.members] "pattern")
  transport : s.transport =
    normalTransport registry d.transport (firstValue [overrides, file, d.members] "transport")
  maxWorkers : s.maxWorkers =
    normalCount d.maxWorkers (firstValue [overrides, file, d.members] "max_workers")
  logLevel : s.logLevel =
    (normalText d.logLevel (firstValue [overrides, file, d.members] "log_level")).upper
  logFile : s.logFile = normalText [] (firstValue [overrides, file, d.members] "log_file")
  /-- What is no setting comes from the file, as it is. -/
  extra : s.extra = file.filter fun m => !fields.contains m.1

theorem layered_of_settles (h : Settles mode registry fs given overrides s) :
    Layered registry (defaults fs.currentPath) overrides
      (objectAt fs (configPath fs.currentPath given)) s := by
  have hpattern : defaultPattern.trim = defaultPattern := by decide
  have htransport : defaultTransport.trim = defaultTransport := by decide
  have hlevel : Text.trim "INFO" = Text.ofString "INFO" := by decide
  rw [eq_normal_of_settles h]
  exact {
    inputPath := by
      by_cases htrim : fs.currentPath.trim = fs.currentPath
      · exact Or.inl (normalForm_mergedValue (normalText fs.currentPath) rfl rfl
          (Or.inl (normalText_self htrim)))
      · by_cases hstated : stated? "input_path" overrides = none
        · by_cases hfile : lookup? "input_path"
              (objectAt fs (configPath fs.currentPath given)) = some .null
          · refine Or.inr ⟨htrim, hstated, hfile, ?_⟩
            show normalText _ (mergedValue _ _ _ _) = _
            rw [mergedValue, hstated, hfile]
            rfl
          · exact Or.inl (normalForm_mergedValue (normalText fs.currentPath) rfl rfl
              (Or.inr (Or.inr hfile)))
        · exact Or.inl (normalForm_mergedValue (normalText fs.currentPath) rfl rfl
            (Or.inr (Or.inl hstated)))
    outputPath := normalForm_mergedValue (normalText (defaults fs.currentPath).outputPath) rfl rfl
      (Or.inl (normalText_self (trim_defaultOutputPath fs)))
    pattern := normalForm_mergedValue (normalText defaultPattern) rfl rfl
      (Or.inl (normalText_self hpattern))
    transport := normalForm_mergedValue (normalTransport registry defaultTransport) rfl rfl
      (Or.inl (normalTransport_self htransport))
    maxWorkers := normalForm_mergedValue (normalCount 1) rfl rfl (Or.inl rfl)
    logLevel := normalForm_mergedValue (fun j => (normalText "INFO" j).upper) rfl rfl
      (Or.inl (congrArg Text.upper (normalText_self hlevel)))
    logFile := normalForm_mergedValue (normalText []) rfl rfl (Or.inl rfl)
    extra := rfl }

/-- **A setting comes from the first layer that states it.** Whatever the configuration file holds,
the layers are read, up to a limit of nesting, and the file counts by its object alone. If settings
come of the layers, then each setting is the normal form of the first value stated for it, and
settings that come of other layers can differ from it only if these layers do. -/
theorem layered_settings (mode : ValidationMode) (registry : Registry) (fs : Files)
    (given : Option Text) :
    (∀ e, load fs given = .error e → ∃ kind, e = .content (.json (.tooDeep kind))) ∧
    (∀ base records, load fs given = .ok (base, records) →
      base = assignAll (defaults fs.currentPath).members
        (objectAt fs (configPath fs.currentPath given))) ∧
    ∀ overrides s, Settles mode registry fs given overrides s →
      Layered registry (defaults fs.currentPath) overrides
        (objectAt fs (configPath fs.currentPath given)) s ∧
      ∀ mode' fs' given' overrides' s', fs'.currentPath = fs.currentPath →
        Settles mode' registry fs' given' overrides' s' →
        ∀ field ∈ fields, lookup? field overrides' = lookup? field overrides →
          lookup? field (objectAt fs' (configPath fs'.currentPath given')) =
            lookup? field (objectAt fs (configPath fs.currentPath given)) →
          lookup? field s'.members = lookup? field s.members := by
  refine ⟨fun e => exists_kind_of_load, fun base records => load_eq_ok,
    fun overrides s h => ⟨layered_of_settles h, ?_⟩⟩
  intro mode' fs' given' overrides' s' hcurrent h' field hfield hoverride hfile
  rw [eq_normal_of_settles h, eq_normal_of_settles h', hcurrent]
  refine lookup?_members_normal hfield ?_
  rw [hcurrent] at hfile
  rw [mergedValue, mergedValue, stated?, stated?, hoverride, hfile]

/-- A configuration file that says null, needs putting right, and has a member of its own. -/
def teamText : Text :=
  "\x7b\"transport\":null,\"max_workers\":\" 3 \",\"pattern\":\"*.json\",\"team\":\"blue\"\x7d"

/-- A current directory with that file. -/
def teamFiles : Files where
  root := .directory [(Text.ofString "work",
    .directory [(configFile, .file teamText.utf8)])]
  current := [Text.ofString "work"]

/-- The members of that file. -/
def teamMembers : List (Text × Json) :=
  [("transport", .null), ("max_workers", .str " 3 "), ("pattern", .str "*.json"),
    ("team", .str "blue")]

/-- A command line that says something about some of the settings. -/
def teamOverrides : List (Text × Json) :=
  [("output_path", .null), ("pattern", .str "api/*.json"), ("log_level", .str "debug")]

theorem readJson_team : teamFiles.readJson (configPath teamFiles.currentPath none) =
    .ok (.obj teamMembers) :=
  eq_ok_of_toOption (by decide +kernel)

theorem settles_team : Settles .lenient Registry.builtin teamFiles none teamOverrides
    { defaults teamFiles.currentPath with
      pattern := "api/*.json", maxWorkers := 3, logLevel := "DEBUG"
      extra := [("team", .str "blue")] } := by
  have hfile : load teamFiles none =
      .ok (assignAll (defaults teamFiles.currentPath).members teamMembers, []) := by
    rw [load, fileMembers, Files.hasNode_of_readJson readJson_team, readJson_team]
    rfl
  exact ⟨_, _, _, hfile, rfl⟩

theorem layered_settings_team :
    ∃ s, Settles .lenient Registry.builtin teamFiles none teamOverrides s ∧
      Layered Registry.builtin (defaults teamFiles.currentPath) teamOverrides teamMembers s ∧
      s.transport = "httpx" ∧ s.maxWorkers = 3 ∧ s.logLevel = "DEBUG" := by
  obtain ⟨-, -, h⟩ := layered_settings .lenient Registry.builtin teamFiles none
  have hfile : objectAt teamFiles (configPath teamFiles.currentPath none) = teamMembers := by
    rw [objectAt, readJson_team]
  exact ⟨_, settles_team, hfile ▸ (h _ _ settles_team).1, rfl, rfl, rfl⟩

/-- A current directory, by its name, with a configuration file. -/
def filesWith (name : Text) (content : Bytes) : Files where
  root := .directory [(name, .directory [(configFile, .file content)])]
  current := [name]

/-- The members of a file that says null about the input path. -/
def nullMembers : List (Text × Json) := [("input_path", .null)]

/-- A current directory whose name ends in a blank, with that file in it. -/
def blankFiles : Files := filesWith "work " (Text.utf8 "\x7b\"input_path\":null\x7d")

theorem readJson_blank : blankFiles.readJson (configPath blankFiles.currentPath none) =
    .ok (.obj nullMembers) :=
  eq_ok_of_toOption (by decide +kernel)

theorem objectAt_blank :
    objectAt blankFiles (configPath blankFiles.currentPath none) = nullMembers := by
  rw [objectAt, readJson_blank]

theorem settles_blank : Settles .lenient Registry.builtin blankFiles none []
    (defaults blankFiles.currentPath) := by
  have hfile : load blankFiles none =
      .ok (assignAll (defaults blankFiles.currentPath).members nullMembers, []) := by
    rw [load, fileMembers, Files.hasNode_of_readJson readJson_blank, readJson_blank]
    rfl
  exact ⟨_, _, _, hfile, rfl⟩

/-- An object that says something about a setting and holds an integer. -/
def numberedObject (n : Int) : Json := .obj [("pattern", .str "*.json"), ("n", .int n)]

/-- A current directory with that object in a file. -/
def numberedFiles (n : Int) : Files := filesWith "work" (numberedObject n).compact.utf8

theorem read_filesWith (content : Bytes) : (filesWith "work" content).read
    (configPath (filesWith "work" content).currentPath none) = .ok content := rfl

/-- If the integer is too long, there is no more to be read of the file than an error. -/
theorem readJson_numbered {n : Int} (hn : Text.canWrite n = false) :
    (numberedFiles n).readJson (configPath (numberedFiles n).currentPath none) =
      .error (.content (.json (.longInteger (Text.ofNat n.natAbs).length))) := by
  have hutf8 : Json.readUtf8 (numberedObject n).compact.utf8 =
      .error (.json (.longInteger (Text.ofNat n.natAbs).length)) :=
    Json.readUtf8_obj_ofInt (by decide) (.str (by decide)) rfl (by decide) hn
  rw [Files.readJson, numberedFiles, read_filesWith]
  simp only [hutf8]

/-- Then the file acts like none. -/
theorem settles_numbered {n : Int} (hn : Text.canWrite n = false) :
    Settles .lenient Registry.builtin (numberedFiles n) none []
      (defaults (numberedFiles n).currentPath) := by
  have hfile : ∃ records, load (numberedFiles n) none =
      .ok ((defaults (numberedFiles n).currentPath).members, records) := by
    rw [load, fileMembers, readJson_numbered hn]
    exact ⟨_, rfl⟩
  obtain ⟨records, hfile⟩ := hfile
  exact ⟨_, _, _, hfile, rfl⟩

/-- A null in the file keeps the current directory from being trimmed, though null counts as
nothing. And an object with an integer that is too long counts as empty, though its text is JSON. -/
theorem settles_untrimmed :
    (objectAt blankFiles (configPath blankFiles.currentPath none) = nullMembers ∧
      Settles .lenient Registry.builtin blankFiles none [] (defaults blankFiles.currentPath) ∧
      (defaults blankFiles.currentPath).inputPath = "/work " ∧
      normalText (defaults blankFiles.currentPath).inputPath
        (firstValue [[], nullMembers, (defaults blankFiles.currentPath).members] "input_path") =
          "/work") ∧
    (numberedFiles Text.tooLong).read (configPath (numberedFiles Text.tooLong).currentPath none) =
      .ok (numberedObject Text.tooLong).compact.utf8 ∧
    Settles .lenient Registry.builtin (numberedFiles Text.tooLong) none []
      (defaults (numberedFiles Text.tooLong).currentPath) ∧
    (defaults (numberedFiles Text.tooLong).currentPath).pattern ≠ "*.json" :=
  ⟨⟨objectAt_blank, settles_blank, rfl, by decide⟩, read_filesWith _,
    settles_numbered Text.canWrite_tooLong, by decide⟩

end Settings

end CallBindings
