import CallBindings.Proofs.Settings.Layers
import CallBindings.Proofs.Settings.Modes
import CallBindings.Proofs.Unicode.Case

set_option autoImplicit false

/-! # Validated settings

What validation gives needs no further validation: its texts are trimmed and, but for that of the
log file, not empty, its transport is registered under the name as it is, its level is in upper case
and its number of workers at least one. Values of that kind are right, and their own normal forms, so
that both modes give the settings back.
-/

namespace CallBindings

namespace Settings

variable {mode : ValidationMode} {registry : Registry} {current fallback t : Text} {config j : Json}
  {d s : Settings} {members : List (Text × Json)} {warnings : List SettingsWarning}

/-! ## One value -/

/-- Whether a text is left by validation as it is: it is not blank, and has no white space at its
ends. -/
structure IsSettledText (t : Text) : Prop where
  ne_nil : t ≠ []
  trimmed : t.IsTrimmed

theorem isTrimmed_normalText (h : fallback.IsTrimmed) (j : Json) :
    (normalText fallback j).IsTrimmed := by
  cases j with
  | str t =>
      rw [normalText]
      split
      · exact h
      · exact Text.isTrimmed_trim t
  | _ => exact h

theorem isSettledText_normalText (h : IsSettledText fallback) (j : Json) :
    IsSettledText (normalText fallback j) := by
  refine ⟨?_, isTrimmed_normalText h.trimmed j⟩
  cases j with
  | str t =>
      rw [normalText]
      split
      · exact h.ne_nil
      · next hne => simpa using hne
  | _ => exact h.ne_nil

theorem IsSettledText.upper (h : IsSettledText t) : IsSettledText t.upper :=
  ⟨fun hnil => h.ne_nil (Text.upper_eq_nil_iff.mp hnil), h.trimmed.upper⟩

/-- A trimmed text that is not empty is taken as it is, and an empty one if it is the fallback. -/
theorem normalText_of_isTrimmed (h : t.IsTrimmed) (hne : t = [] → fallback = []) :
    normalText fallback (.str t) = t := by
  rw [normalText, Text.trim_eq_self_iff.mpr h]
  split
  · next hempty =>
      have hnil := List.isEmpty_iff.mp hempty
      rw [hne hnil, hnil]
  · rfl

theorem IsSettledText.normalText (h : IsSettledText t) (fallback : Text) :
    normalText fallback (.str t) = t :=
  normalText_of_isTrimmed h.trimmed fun hnil => absurd hnil h.ne_nil

theorem one_le_normalCount {n : Int} (hn : 1 ≤ n) (j : Json) : 1 ≤ normalCount n j := by
  cases j with
  | int m => exact le_max_right m 1
  | str t =>
      rw [normalCount]
      split
      · split
        · exact le_max_right _ 1
        · exact hn
      · exact hn
  | _ => exact hn

/-- Whether the names of a registry are found under themselves. -/
def NamesStay (registry : Registry) : Prop :=
  ∀ name ∈ registry.names, IsSettledText name ∧ name.lower = name

/-! ## All values -/

/-- Whether settings are such as validation gives them. -/
structure IsSettled (registry : Registry) (s : Settings) : Prop where
  inputPath : IsSettledText s.inputPath
  outputPath : IsSettledText s.outputPath
  pattern : IsSettledText s.pattern
  transport : s.transport ∈ registry.names
  maxWorkers : 1 ≤ s.maxWorkers
  logLevel : IsSettledText s.logLevel ∧ s.logLevel.upper = s.logLevel
  logFile : s.logFile.IsTrimmed
  names : (s.members.map Prod.fst).Nodup

theorem mem_names_normalTransport (h : fallback ∈ registry.names) (j : Json) :
    normalTransport registry fallback j ∈ registry.names := by
  have hfallback : registry.lists fallback = true := List.contains_iff_mem.mpr h
  exact List.contains_iff_mem.mp (lists_normalTransport hfallback j)

theorem isSettled_normal (hd : IsSettled registry d) (value : Text → Json)
    {extra : List (Text × Json)} (hextra : (fields ++ extra.map Prod.fst).Nodup) :
    IsSettled registry (normal registry d value extra) where
  inputPath := isSettledText_normalText hd.inputPath _
  outputPath := isSettledText_normalText hd.outputPath _
  pattern := isSettledText_normalText hd.pattern _
  transport := mem_names_normalTransport hd.transport _
  maxWorkers := one_le_normalCount hd.maxWorkers _
  logLevel := ⟨(isSettledText_normalText hd.logLevel.1 _).upper, Text.upper_upper _⟩
  logFile := isTrimmed_normalText ⟨fun _ hc => (by cases hc), fun _ hc => (by cases hc)⟩ _
  names := hextra

/-- The members that are no settings stand behind them under names of their own. -/
theorem nodup_fields_append {entries : List (Text × Json)} (h : (entries.map Prod.fst).Nodup) :
    (fields ++ (entries.filter fun m => !fields.contains m.1).map Prod.fst).Nodup := by
  refine List.nodup_append'.mpr ⟨nodup_fields, h.sublist (List.filter_sublist.map _), ?_⟩
  intro name hfield hmem
  obtain ⟨m, hm, rfl⟩ := List.mem_map.mp hmem
  have hunknown := (List.mem_filter.mp hm).2
  rw [List.contains_iff_mem.mpr hfield] at hunknown
  cases hunknown

/-- Members that are no settings come from the value alone. -/
theorem filter_assignAll_defaults (current : Text) (members : List (Text × Json)) :
    ((assignAll (defaults current).members members).filter fun m => !fields.contains m.1) =
      (assignAll [] members).filter fun m => !fields.contains m.1 := by
  rw [filter_assignAll (fun name => !fields.contains name),
    filter_assignAll (fun name => !fields.contains name)]
  rfl

theorem isSettled_defaults {fs : Files} (hcurrent : fs.currentPath.trim = fs.currentPath)
    (hregistry : defaultTransport ∈ registry.names) :
    IsSettled registry (defaults fs.currentPath) where
  inputPath := ⟨List.cons_ne_nil _ _, Text.trim_eq_self_iff.mp hcurrent⟩
  outputPath := by
    refine ⟨?_, Text.trim_eq_self_iff.mp (trim_defaultOutputPath fs)⟩
    have hname : defaultOutput ≠ [] := by decide
    show Path.join fs.currentPath defaultOutput ≠ []
    rw [Path.join]
    split
    · exact hname
    · split <;> exact List.append_ne_nil_of_right_ne_nil _ hname
  pattern := ⟨List.cons_ne_nil _ _, Text.trim_eq_self_iff.mp rfl⟩
  transport := hregistry
  maxWorkers := le_rfl
  logLevel := ⟨⟨List.cons_ne_nil _ _, Text.trim_eq_self_iff.mp rfl⟩, rfl⟩
  logFile := ⟨fun _ hc => (by cases hc), fun _ hc => (by cases hc)⟩
  names := nodup_members fs.currentPath

theorem eq_settled_of_validate (h : validate mode registry current config = .ok (s, warnings)) :
    s = settled registry current config := by
  cases config with
  | obj members => exact eq_normal_of_validate h
  | _ => exact eq_defaults_of_validate (fun members => by simp) h

theorem isSettled_settled {fs : Files} (hcurrent : fs.currentPath.trim = fs.currentPath)
    (hregistry : defaultTransport ∈ registry.names) (config : Json) :
    IsSettled registry (settled registry fs.currentPath config) := by
  have hdefaults := isSettled_defaults hcurrent hregistry
  cases config with
  | obj members =>
      exact isSettled_normal hdefaults _
        (nodup_fields_append (nodup_map_fst_assignAll (nodup_members fs.currentPath) members))
  | _ => exact hdefaults

/-! ## Settings validated again -/

/-- Settings that are put over the defaults replace all of them. -/
theorem valueOf_members (h : (s.members.map Prod.fst).Nodup) (current : Text) {field : Text}
    {j : Json} (hfield : lookup? field s.members = some j) : valueOf current s.members field = j := by
  rw [valueOf, lookup?_assignAll h, hfield]
  rfl

/-- Of members that are no settings, none is lost. -/
theorem filter_members (h : (s.members.map Prod.fst).Nodup) :
    (s.members.filter fun m => !fields.contains m.1) = s.extra := by
  have hkeys : s.members.map Prod.fst = fields ++ s.extra.map Prod.fst := by
    rw [members, List.map_append]
    rfl
  have hkept : (s.extra.filter fun m => !fields.contains m.1) = s.extra := by
    refine List.filter_eq_self.mpr fun m hm => ?_
    rw [hkeys] at h
    have hunknown : m.1 ∉ fields := fun hfield =>
      List.disjoint_of_nodup_append h hfield (List.mem_map_of_mem hm)
    simpa using hunknown
  calc (s.members.filter fun m => !fields.contains m.1)
      = [] ++ s.extra.filter fun m => !fields.contains m.1 := by
        rw [members, List.filter_append]
        rfl
    _ = s.extra := by rw [List.nil_append, hkept]

theorem normalTransport_of_mem (hregistry : NamesStay registry) (h : t ∈ registry.names)
    (fallback : Text) : normalTransport registry fallback (.str t) = t := by
  obtain ⟨hsettled, hlower⟩ := hregistry t h
  have hlists : registry.lists t = true := List.contains_iff_mem.mpr h
  rw [normalTransport, hsettled.normalText, Text.trim_eq_self_iff.mpr hsettled.trimmed, hlower]
  exact if_pos hlists

/-- The normal forms of settings as validation gives them are these settings. -/
theorem settled_members (hregistry : NamesStay registry) (h : IsSettled registry s)
    (current : Text) : settled registry current (.obj s.members) = s := by
  have hvalue {field : Text} {j : Json} (hfield : lookup? field s.members = some j) :
      valueOf current s.members field = j := valueOf_members h.names current hfield
  have hextra : (assignAll (defaults current).members s.members).filter
      (fun m => !fields.contains m.1) = s.extra := by
    have hall : assignAll [] s.members = s.members := assignAll_of_nodup h.names
    rw [filter_assignAll_defaults, hall, filter_members h.names]
  have hlevel := h.logLevel
  rw [settled, normal, hextra, hvalue rfl, hvalue rfl, hvalue rfl, hvalue rfl, hvalue rfl,
    hvalue rfl, hvalue rfl, h.inputPath.normalText, h.outputPath.normalText, h.pattern.normalText,
    normalTransport_of_mem hregistry h.transport, hlevel.1.normalText, hlevel.2,
    normalText_of_isTrimmed h.logFile fun _ => rfl, normalCount, max_eq_left h.maxWorkers]

/-- Settings as validation gives them are right. -/
theorem areRight_members (hregistry : NamesStay registry) (h : IsSettled registry s)
    (current : Text) : AreRight registry (defaults current) (valueOf current s.members) := by
  have hvalue {field : Text} {j : Json} (hfield : lookup? field s.members = some j) :
      valueOf current s.members field = j := valueOf_members h.names current hfield
  have htext {field t : Text} (hfield : lookup? field s.members = some (.str t)) :
      IsText (valueOf current s.members field) := by
    rw [hvalue hfield]
    trivial
  obtain ⟨htransport, hlower⟩ := hregistry s.transport h.transport
  exact {
    inputPath := htext rfl
    outputPath := htext rfl
    pattern := htext rfl
    transport := htext rfl
    logLevel := htext rfl
    logFile := htext rfl
    maxWorkers := by
      rw [hvalue rfl]
      exact h.maxWorkers
    registered := by
      rw [hvalue rfl, htransport.normalText, Text.trim_eq_self_iff.mpr htransport.trimmed, hlower]
      exact List.contains_iff_mem.mpr h.transport }

/-- Settings as validation gives them are given back by both modes. -/
theorem validate_of_isSettled (hregistry : NamesStay registry) (h : IsSettled registry s)
    (mode : ValidationMode) (current : Text) :
    validate mode registry current (.obj s.members) = .ok (s, []) := by
  have haccepts := (verdict registry current (.obj s.members)).accepts
    (areRight_members hregistry h current) mode
  rwa [settled_members hregistry h] at haccepts

/-! ## Members of validated settings -/

/-- Whether members include all settings, each of its kind: texts that are not empty but for the log
file, the name of a registered transport, and an integer of at least one. -/
structure HasSettings (registry : Registry) (members : List (Text × Json)) : Prop where
  texts : ∀ field ∈ ["input_path", "output_path", "pattern", "transport", "log_level"].map
    Text.ofString, ∃ t, t ≠ [] ∧ lookup? field members = some (.str t)
  logFile : ∃ t, lookup? "log_file" members = some (.str t)
  maxWorkers : ∃ n, 1 ≤ n ∧ lookup? "max_workers" members = some (.int n)
  transport : ∃ name ∈ registry.names, lookup? "transport" members = some (.str name)

theorem IsSettled.hasSettings (hregistry : NamesStay registry) (h : IsSettled registry s) :
    HasSettings registry s.members where
  texts := by
    have htransport := (hregistry s.transport h.transport).1
    simp only [List.map_cons, List.map_nil, List.forall_mem_cons]
    exact ⟨⟨_, h.inputPath.ne_nil, rfl⟩, ⟨_, h.outputPath.ne_nil, rfl⟩, ⟨_, h.pattern.ne_nil, rfl⟩,
      ⟨_, htransport.ne_nil, rfl⟩, ⟨_, h.logLevel.1.ne_nil, rfl⟩, List.forall_mem_nil _⟩
  logFile := ⟨_, rfl⟩
  maxWorkers := ⟨_, h.maxWorkers, rfl⟩
  transport := ⟨_, h.transport, rfl⟩

/-- What is no setting is kept with its value, the last one if its name is repeated. -/
theorem lookup?_members_settled (current : Text) (members : List (Text × Json)) {field : Text}
    (h : IsSettled registry (settled registry current (.obj members))) (hfield : field ∉ fields) :
    lookup? field (settled registry current (.obj members)).members =
      lookup? field (assignAll [] members) := by
  have hunknown : (!fields.contains field) = true := by simpa using hfield
  have hfilter (entries : List (Text × Json)) :
      lookup? field (entries.filter fun m => !fields.contains m.1) = lookup? field entries :=
    (lookup?_filter (fun name => !fields.contains name) field entries).trans (if_pos hunknown)
  rw [← hfilter, filter_members h.names, ← hfilter (assignAll [] members),
    ← filter_assignAll_defaults current]
  rfl

theorem namesStay_builtin : NamesStay Registry.builtin := by
  have hnames : Registry.builtin.names = [Text.ofString "httpx", Text.ofString "requests"] := rfl
  rw [NamesStay, hnames, List.forall_mem_cons, List.forall_mem_singleton]
  exact ⟨⟨⟨List.cons_ne_nil _ _, Text.trim_eq_self_iff.mp rfl⟩, rfl⟩,
    ⟨List.cons_ne_nil _ _, Text.trim_eq_self_iff.mp rfl⟩, rfl⟩

/-- **Validated settings are fixed.** Seen from a current directory whose path has no white space at
its ends, what a lenient validation with the built-in transports gives has all settings, each of its
kind, and whatever else was in the value. Validated again, in either mode, it comes back as it is and
without a warning. -/
theorem validate_members {fs : Files} (config : Json) {s : Settings}
    {warnings : List SettingsWarning} (hcurrent : fs.currentPath.trim = fs.currentPath)
    (h : validate .lenient Registry.builtin fs.currentPath config = .ok (s, warnings)) :
    HasSettings Registry.builtin s.members ∧
    (∀ members, config = .obj members → ∀ field ∉ fields,
      lookup? field s.members = lookup? field (assignAll [] members)) ∧
    ∀ mode, validate mode Registry.builtin fs.currentPath (.obj s.members) = .ok (s, []) := by
  have hdefault : defaultTransport ∈ Registry.builtin.names := List.mem_cons_self
  have hsettled := isSettled_settled hcurrent hdefault config
  rw [eq_settled_of_validate h]
  refine ⟨hsettled.hasSettings namesStay_builtin, ?_,
    fun mode => validate_of_isSettled namesStay_builtin hsettled mode _⟩
  rintro members rfl field hfield
  exact lookup?_members_settled fs.currentPath members hsettled hfield

/-- An object with something wrong under most names, and members of its own. -/
def looseConfig : Json := .obj
  [("level", .null), ("input_path", .str "\t"), ("pattern", .str " *.json\n"),
    ("transport", .str "FTP"), ("max_workers", .str " ٣ "), ("log_level", .str " große "),
    ("log_file", .bool true), ("level", .int 7)]

/-- A current directory. -/
def buildFiles : Files := ⟨.directory [(Text.ofString "build", .directory [])], [Text.ofString "build"]⟩

/-- What is made of the object in that directory. -/
def looseSettled : Settings :=
  { defaults buildFiles.currentPath with
    pattern := "*.json", maxWorkers := 3, logLevel := "GROSSE", extra := [("level", .int 7)] }

theorem validate_members_loose :
    buildFiles.currentPath.trim = buildFiles.currentPath ∧
    (∃ warnings, warnings.length = 3 ∧
      validate .lenient Registry.builtin buildFiles.currentPath looseConfig =
        .ok (looseSettled, warnings)) ∧
    HasSettings Registry.builtin looseSettled.members ∧
    lookup? "level" looseSettled.members = some (.int 7) ∧
    validate .strict Registry.builtin buildFiles.currentPath (.obj looseSettled.members) =
      .ok (looseSettled, []) := by
  have hcurrent : buildFiles.currentPath.trim = buildFiles.currentPath := rfl
  have hlenient : ∃ warnings, warnings.length = 3 ∧
      validate .lenient Registry.builtin buildFiles.currentPath looseConfig =
        .ok (looseSettled, warnings) := ⟨_, by rfl, rfl⟩
  obtain ⟨warnings, -, hvalidate⟩ := id hlenient
  obtain ⟨hsettings, hkept, hagain⟩ := validate_members looseConfig hcurrent hvalidate
  exact ⟨hcurrent, hlenient, hsettings, hkept _ rfl _ (by decide), hagain .strict⟩

end Settings

end CallBindings
