import CallBindings.Module.Evaluate
import CallBindings.Proofs.Distinct
import CallBindings.Proofs.Shape.TypeName

set_option autoImplicit false

/-! # Type parameters as they are read

Readers of a module take identifiers by their composed form. A name that is its own composed
form is read as it is written, and if all names of a module are, its parameters stay distinct.
Escaping looks at code points one by one, though, and composition joins neighbours: what is
composed in an escaped name are its runs. So a name is read as it is written exactly if its id
is no escaped one or has only composed runs, and two ids are read alike exactly if they have
the same escapes and runs with the same composed forms.
-/

namespace CallBindings

namespace Text

/-- Two escaped ids that differ at most in how their runs are composed. -/
def ReadAlike (a b : Text) : Prop :=
  a.isPlainTypeName = false ∧ b.isPlainTypeName = false ∧
    a.runs.map normalize = b.runs.map normalize ∧ a.escapes = b.escapes

/-! ## Composed forms of names -/

/-- Runs have no low line, and composing them brings none in. -/
theorem lowLine_not_mem_normalize {run : Text} (h : ∀ c ∈ run, c.isPlainInName = true) :
    CodePoint.ofChar '_' ∉ run.normalize := by
  intro hmem
  obtain ⟨c, hc, hd⟩ := lowLine_mem_normalize.mp hmem
  have hstable : normalize [CodePoint.ofChar 'a', c] = [CodePoint.ofChar 'a', c] := by
    have := h c hc
    simp only [CodePoint.isPlainInName, isStableIdentifier, Bool.and_eq_true,
      decide_eq_true_eq] at this
    exact this.2.2
  have hpair : CodePoint.ofChar '_' ∈ normalize [CodePoint.ofChar 'a', c] :=
    lowLine_mem_normalize.mpr ⟨c, by simp, hd⟩
  rw [hstable] at hpair
  rcases List.mem_cons.mp hpair with ha | hpair
  · exact absurd ha (by decide)
  · exact CodePoint.ne_lowLine_of_isPlainInName (h c hc) (List.mem_singleton.mp hpair).symm

theorem normalize_hex (n : Nat) : (hex n).normalize = hex n := by
  refine normalize_of_lt fun c hc => ?_
  have h := isSmallHex_of_mem_hex hc
  rw [CodePoint.isSmallHex_iff] at h
  omega

/-- Composition leaves the escapes alone and works on each run for itself. -/
theorem normalize_woven_escape (rs : List Text) (cs : Text) :
    normalize (woven escape rs cs) = woven escape (rs.map normalize) cs := by
  induction cs generalizing rs with
  | nil =>
      cases rs with
      | nil => rfl
      | cons r rs => rfl
  | cons c cs ih =>
      cases rs with
      | nil => rfl
      | cons r rs =>
          -- an escape begins and ends with a low line, and there normalizing takes a text apart
          have hshape : ∀ (r w : Text), r ++ escape c ++ w =
              r ++ CodePoint.ofChar '_' :: (hex c.val ++ CodePoint.ofChar '_' :: w) := by
            intro r w
            simp [escape]
          rw [woven, List.map_cons, woven, hshape, hshape, normalize_append_lowLine,
            normalize_append_lowLine, normalize_hex, ih]

theorem normalize_typeName_of_isPlain {id : Text} (h : id.isPlainTypeName = true) :
    id.typeName.normalize = id := by
  rw [typeName_of_isPlain h]
  simp only [isPlainTypeName, isStableIdentifier, Bool.and_eq_true, decide_eq_true_eq] at h
  exact h.1.1.1.2

theorem normalize_typeName_of_not_isPlain {id : Text} (h : ¬ id.isPlainTypeName = true) :
    id.typeName.normalize =
      CodePoint.ofChar '_' :: woven escape (id.runs.map normalize) id.escapes := by
  rw [typeName_of_not_isPlain h, flatMap_escapedInName, normalize_lowLine_cons,
    normalize_woven_escape]

theorem lowLine_not_mem_of_mem_map_normalize {id run : Text}
    (hr : run ∈ id.runs.map normalize) : CodePoint.ofChar '_' ∉ run := by
  obtain ⟨r, hmem, rfl⟩ := List.mem_map.mp hr
  exact lowLine_not_mem_normalize (isPlainInName_of_mem_runs hmem)

theorem length_map_normalize_runs (id : Text) :
    (id.runs.map normalize).length = id.escapes.length + 1 := by
  rw [List.length_map, length_runs]

theorem map_normalize_eq_self {rs : List Text} :
    rs.map normalize = rs ↔ ∀ r ∈ rs, r.normalize = r := by
  have h : rs.map normalize = rs.map id ↔ ∀ r ∈ rs, normalize r = id r := List.map_inj_left
  rwa [List.map_id] at h

/-- A name is read as it is written exactly if the runs of its id are composed. -/
theorem normalize_typeName_eq_self {id : Text} :
    id.typeName.normalize = id.typeName ↔
      id.isPlainTypeName = true ∨ ∀ run ∈ id.runs, run.normalize = run := by
  by_cases h : id.isPlainTypeName = true
  · rw [normalize_typeName_of_isPlain h, typeName_of_isPlain h]
    simp [h]
  · rw [normalize_typeName_of_not_isPlain h, typeName_of_not_isPlain h, flatMap_escapedInName,
      List.cons.injEq]
    constructor
    · rintro ⟨-, hw⟩
      have hruns := (woven_escape_inj (fun _ => lowLine_not_mem_of_mem_map_normalize)
        (fun _ => lowLine_not_mem_of_mem_runs) (length_map_normalize_runs id) (length_runs id)
        hw).1
      exact Or.inr (map_normalize_eq_self.mp hruns)
    · rintro (hp | hruns)
      · exact absurd hp h
      · rw [map_normalize_eq_self.mpr hruns]
        exact ⟨rfl, rfl⟩

/-- Names of different ids are read as one exactly if the ids are read alike. -/
theorem normalize_typeName_eq_iff {a b : Text} :
    a.typeName.normalize = b.typeName.normalize ↔ a = b ∨ ReadAlike a b := by
  -- a plain id is its own type name; any other type name begins with a low line, a plain id never
  by_cases ha : a.isPlainTypeName = true <;> by_cases hb : b.isPlainTypeName = true
  · rw [normalize_typeName_of_isPlain ha, normalize_typeName_of_isPlain hb]
    simp [ReadAlike, ha]
  · rw [normalize_typeName_of_isPlain ha, normalize_typeName_of_not_isPlain hb]
    have hne : a ≠ b := by
      rintro rfl
      exact hb ha
    simp only [ReadAlike, ha, hne, Bool.true_eq_false, false_and, or_self, iff_false]
    intro h
    exact head?_of_isPlain ha (by rw [h]; rfl)
  · rw [normalize_typeName_of_not_isPlain ha, normalize_typeName_of_isPlain hb]
    have hne : a ≠ b := by
      rintro rfl
      exact ha hb
    simp only [ReadAlike, hb, hne, Bool.true_eq_false, false_and, and_false, or_self, iff_false]
    intro h
    exact head?_of_isPlain hb (by rw [← h]; rfl)
  · rw [normalize_typeName_of_not_isPlain ha, normalize_typeName_of_not_isPlain hb,
      List.cons.injEq]
    have ha' : a.isPlainTypeName = false := by simpa using ha
    have hb' : b.isPlainTypeName = false := by simpa using hb
    constructor
    · rintro ⟨-, hw⟩
      exact Or.inr ⟨ha', hb', woven_escape_inj (fun _ => lowLine_not_mem_of_mem_map_normalize)
        (fun _ => lowLine_not_mem_of_mem_map_normalize) (length_map_normalize_runs a)
        (length_map_normalize_runs b) hw⟩
    · rintro (rfl | ⟨-, -, hr, he⟩)
      · exact ⟨rfl, rfl⟩
      · rw [hr, he]
        exact ⟨rfl, rfl⟩

end Text

namespace GeneratedModule

open Text

/-! ## Declarations of parameters -/

/-- A parameter whose name has no blank is declared by its line, and only by that line. -/
theorem parameter?_parameterLine {name : Text} (h : CodePoint.ofChar ' ' ∉ name) :
    parameter? (parameterLine name) = some name := by
  have hline : parameterLine name = name ++ ofString " = TypeVar(\"" ++ (name ++ "\")") := by
    show name ++ ofString " = TypeVar(\"" ++ name ++ ofString "\")" = _
    rw [List.append_assoc]
  have htake : (parameterLine name).takeWhile (· ≠ CodePoint.ofChar ' ') = name := by
    rw [hline, List.append_assoc]
    exact takeWhile_append_cons h _
  have hdrop : dropStart? (parameterLine name) (name ++ ofString " = TypeVar(\"") =
      some (name ++ "\")") := by
    rw [hline]
    exact dropStart?_append _ _
  simp only [parameter?, htake, hdrop]

theorem parameter?_entryLine (wrapper : Text) (c : Compiled) :
    parameter? (entryLine wrapper c) = none := rfl

theorem parameter?_factoryLine (c : Compiled) : parameter? (factoryLine c) = none := rfl

theorem filterMap_parameter?_map {α : Type} (line : α → Text) (as : List α)
    (h : ∀ a, parameter? (line a) = none) : (as.map line).filterMap parameter? = [] := by
  rw [List.filterMap_eq_nil_iff]
  intro t ht
  obtain ⟨a, -, rfl⟩ := List.mem_map.mp ht
  exact h a

theorem filterMap_parameter?_parameterLine {names : List Text}
    (h : ∀ name ∈ names, CodePoint.ofChar ' ' ∉ name) :
    (names.map parameterLine).filterMap parameter? = names := by
  induction names with
  | nil => rfl
  | cons name names ih =>
      rw [List.map_cons,
        List.filterMap_cons_some (parameter?_parameterLine (h name List.mem_cons_self)),
        ih fun n hn => h n (List.mem_cons_of_mem name hn)]

theorem filterMap_parameter?_mapLines (m : GeneratedModule) (name wrapper doc : Text)
    (hname : ∀ t : Text, parameter? ("class " ++ name ++ "(TypedDict" ++ t ++ "):") = none) :
    (m.mapLines name wrapper doc).filterMap parameter? = [] := by
  have hhead : ([[], "class " ++ name ++ "(TypedDict" ++ m.parameterList ", Generic" "" ++ "):",
      indent ++ "\"\"\"" ++ doc ++ "\"\"\"", []] : List Text).filterMap parameter? = [] := by
    rw [List.filterMap_cons_none rfl, List.filterMap_cons_none (hname _),
      List.filterMap_cons_none rfl, List.filterMap_cons_none rfl, List.filterMap_nil]
  have hentries : (if m.contracts.isEmpty then [indent ++ "pass"]
      else m.contracts.map (entryLine wrapper)).filterMap parameter? = [] := by
    split
    · rfl
    · exact filterMap_parameter?_map _ _ (parameter?_entryLine wrapper)
  rw [mapLines, List.filterMap_append, List.filterMap_append, hhead, hentries]
  rfl

theorem filterMap_parameter?_headerLines (m : GeneratedModule) :
    m.headerLines.filterMap parameter? = [] := by
  rw [headerLines]
  repeat rw [List.filterMap_cons_none rfl]
  rfl

theorem filterMap_parameter?_factoryLines (m : GeneratedModule) :
    m.factoryLines.filterMap parameter? = [] := by
  have hhead : ([[],
      "def create_bindings(options: DispatchOptions) -> Bindings" ++ m.parameterList "" "" ++ ":",
      indent ++ "return \x7b"] : List Text).filterMap parameter? = [] := by
    repeat rw [List.filterMap_cons_none rfl]
    rfl
  rw [factoryLines, List.filterMap_append, List.filterMap_append, hhead,
    filterMap_parameter?_map _ _ parameter?_factoryLine]
  rfl

theorem filterMap_parameter?_referenceLines {m : GeneratedModule}
    (h : ∀ name ∈ m.typeParameters, CodePoint.ofChar ' ' ∉ name) :
    m.referenceLines.filterMap parameter? = m.typeParameters := by
  have hblank : (if m.typeParameters.isEmpty then [] else [[]] : List Text).filterMap
      parameter? = [] := by
    split <;> rfl
  have htail : ([[], "class ModelReferences" ++ m.parameterList "(Generic" ")" ++ ":",
      indent ++
        "\"\"\"Concrete types supplied by the consumer, one per referenced model id.\"\"\"",
      []] : List Text).filterMap parameter? = [] := by
    repeat rw [List.filterMap_cons_none rfl]
    rfl
  rw [referenceLines, List.filterMap_append, List.filterMap_append,
    filterMap_parameter?_parameterLine h, hblank, htail, List.append_nil, List.append_nil]

/-- The parameters that are read from a module are the composed forms of its names. -/
theorem parameters_lines {m : GeneratedModule}
    (h : ∀ name ∈ m.typeParameters, CodePoint.ofChar ' ' ∉ name) :
    parameters m.lines = m.typeParameters.map normalize := by
  have hcontracts : ∀ t : Text,
      parameter? ("class " ++ Text.ofString "Contracts" ++ "(TypedDict" ++ t ++ "):") = none :=
    fun _ => rfl
  have hbindings : ∀ t : Text,
      parameter? ("class " ++ Text.ofString "Bindings" ++ "(TypedDict" ++ t ++ "):") = none :=
    fun _ => rfl
  rw [parameters, lines, List.filterMap_append, List.filterMap_append, List.filterMap_append,
    List.filterMap_append, filterMap_parameter?_headerLines,
    filterMap_parameter?_referenceLines h, filterMap_parameter?_mapLines m _ _ _ hcontracts,
    filterMap_parameter?_mapLines m _ _ _ hbindings, filterMap_parameter?_factoryLines]
  simp

/-- What an assembled module has as references and as parameters. -/
theorem assemble_ok {registry : Registry} {transport : Text} {generatedAt : Timestamp}
    {compiled : List Compiled} {m : GeneratedModule}
    (h : assemble registry transport generatedAt compiled = .ok m) :
    m.references.Nodup ∧ m.typeParameters = m.references.map typeName := by
  rw [assemble] at h
  split at h
  · cases h
    exact ⟨nodup_distinct _, rfl⟩
  · cases h

theorem blank_not_mem_typeName (id : Text) : CodePoint.ofChar ' ' ∉ id.typeName :=
  not_mem_of_isIdentifier (isIdentifier_typeName id) (CodePoint.inIdentifier_of_ascii (by decide))

theorem parameters_of_references {m : GeneratedModule}
    (hparams : m.typeParameters = m.references.map typeName) :
    parameters m.lines = m.references.map fun id => id.typeName.normalize := by
  have hblank : ∀ name ∈ m.typeParameters, CodePoint.ofChar ' ' ∉ name := by
    intro name hname
    rw [hparams] at hname
    obtain ⟨id, -, rfl⟩ := List.mem_map.mp hname
    exact blank_not_mem_typeName id
  rw [parameters_lines hblank, hparams, List.map_map]
  rfl

/-- Parameters that are named after different references are read as different ones exactly if
no two of the references are read alike. -/
theorem nodup_parameters_of_references {m : GeneratedModule} (hnodup : m.references.Nodup)
    (hparams : m.typeParameters = m.references.map typeName) :
    (parameters m.lines).Nodup ↔
      ∀ a ∈ m.references, ∀ b ∈ m.references, a ≠ b → ¬ ReadAlike a b := by
  rw [parameters_of_references hparams, nodup_map_iff hnodup]
  refine forall₂_congr fun a _ => forall₂_congr fun b _ => forall_congr' fun hab => ?_
  rw [ne_eq, normalize_typeName_eq_iff, or_iff_right hab]

/-- **When type parameters stay distinct.** A name is read as it is written exactly if its id
keeps its spelling or has composed runs only; names of different ids are read as one exactly
if the ids are read alike; and the parameters that are read from an assembled module, one for
each name, are pairwise different exactly if no two of its references are read alike. -/
theorem parameters_nodup_iff (registry : Registry) (transport : Text) (generatedAt : Timestamp)
    (compiled : List Compiled) (m : GeneratedModule) :
    (∀ id : Text, id.typeName.normalize = id.typeName ↔
      id.isPlainTypeName = true ∨ ∀ run ∈ id.runs, run.normalize = run) ∧
    (∀ a b : Text, a ≠ b → (a.typeName.normalize = b.typeName.normalize ↔ ReadAlike a b)) ∧
    (assemble registry transport generatedAt compiled = .ok m →
      parameters m.lines = m.typeParameters.map normalize ∧
      ((parameters m.lines).Nodup ↔
        ∀ a ∈ m.references, ∀ b ∈ m.references, a ≠ b → ¬ ReadAlike a b)) := by
  refine ⟨fun _ => normalize_typeName_eq_self, ?_, ?_⟩
  · intro a b hab
    rw [normalize_typeName_eq_iff]
    simp [hab]
  · intro hm
    obtain ⟨hnodup, hparams⟩ := assemble_ok hm
    refine ⟨?_, nodup_parameters_of_references hnodup hparams⟩
    rw [parameters_of_references hparams, hparams, List.map_map]
    rfl

/-- A contract that refers to two types, both spelled with a cedilla: as a mark of its own in
the first id, as part of a letter in the second. -/
def cedillas : Compiled :=
  ⟨"getUser", "Tuple[__2d_c\u0327, __2d_ç]", "bool", "Never", bindingText "/x" "GET",
    ["-c\u0327", "-ç"]⟩

/-- The module with that contract alone. -/
def cedillaModule : GeneratedModule :=
  ⟨[cedillas], ["-c\u0327", "-ç"], "httpx", ⟨2024, 1, 2, 3, 4, 5, 0, some 0⟩,
    ["__2d_c\u0327", "__2d_ç"]⟩

/-- The cedilla that is a mark of its own. -/
def cedilla : CodePoint := CodePoint.ofNat 0x327

theorem decompose_cedilla : Unicode.decompose 0x327 = [0x327] := by decide +kernel

theorem isPlainInName_cedilla : cedilla.isPlainInName = true := by
  have hform : Unicode.normalForm [0x61, 0x327] = [0x61, 0x327] := by
    rw [Unicode.normalForm_of_decompose
      (by simp [decompose_cedilla, Unicode.decompose_of_lt])]
    decide +kernel
  have hstable : normalize [CodePoint.ofChar 'a', cedilla] = [CodePoint.ofChar 'a', cedilla] := by
    rw [normalize_eq, show [CodePoint.ofChar 'a', cedilla].map (·.val) = [0x61, 0x327] from rfl,
      hform]
    rfl
  have hident : isIdentifier [CodePoint.ofChar 'a', cedilla] = true := by decide +kernel
  have hline : cedilla ≠ CodePoint.ofChar '_' := by decide
  simp [CodePoint.isPlainInName, isStableIdentifier, hstable, hident, hline]

theorem typeName_cedillas :
    cedillaModule.references.map typeName = cedillaModule.typeParameters := by
  have hfirst : ofString "-c\u0327" = [CodePoint.ofChar '-', CodePoint.ofChar 'c', cedilla] := rfl
  have hhead : [CodePoint.ofChar '-', CodePoint.ofChar 'c'].flatMap CodePoint.escapedInName =
      ofString "_2d_c" := by decide +kernel
  have hmark : cedilla.escapedInName = [cedilla] := by
    rw [CodePoint.escapedInName, if_pos isPlainInName_cedilla]
  have hname : (ofString "-c\u0327").typeName = ofString "__2d_c\u0327" := by
    rw [hfirst, typeName_of_not_isPlain (by decide +kernel),
      show [CodePoint.ofChar '-', CodePoint.ofChar 'c', cedilla] =
        [CodePoint.ofChar '-', CodePoint.ofChar 'c'] ++ [cedilla] from rfl,
      List.flatMap_append, hhead, List.flatMap_singleton, hmark]
    rfl
  have hname' : (ofString "-ç").typeName = ofString "__2d_ç" := by decide +kernel
  show [(ofString "-c\u0327").typeName, (ofString "-ç").typeName] = _
  rw [hname, hname']
  rfl

theorem normalize_cedillas :
    cedillaModule.typeParameters.map normalize = [ofString "__2d_ç", ofString "__2d_ç"] := by
  have hform : Unicode.normalForm [0x5F, 0x5F, 0x32, 0x64, 0x5F, 0x63, 0x327] =
      [0x5F, 0x5F, 0x32, 0x64, 0x5F, 0xE7] := by
    rw [Unicode.normalForm_of_decompose
      (by simp [decompose_cedilla, Unicode.decompose_of_lt])]
    decide +kernel
  have hread : (ofString "__2d_c\u0327").normalize = ofString "__2d_ç" := by
    rw [normalize_eq, show (ofString "__2d_c\u0327").map (·.val) =
      [0x5F, 0x5F, 0x32, 0x64, 0x5F, 0x63, 0x327] from rfl, hform]
    rfl
  have hread' : (ofString "__2d_ç").normalize = ofString "__2d_ç" := by decide +kernel
  show [(ofString "__2d_c\u0327").normalize, (ofString "__2d_ç").normalize] = _
  rw [hread, hread']

theorem assemble_cedillas :
    assemble Registry.builtin "httpx" ⟨2024, 1, 2, 3, 4, 5, 0, some 0⟩ [cedillas] =
      .ok cedillaModule := by
  have hlists : Registry.builtin.lists "httpx" = true := by decide
  have hrefs : distinct ([cedillas].flatMap (·.references)) = cedillaModule.references := by
    decide
  rw [assemble, if_pos hlists]
  simp only [hrefs, typeName_cedillas]
  rfl

theorem parameters_nodup_iff_cedillas :
    assemble Registry.builtin "httpx" ⟨2024, 1, 2, 3, 4, 5, 0, some 0⟩ [cedillas] =
      .ok cedillaModule ∧
    ((parameters cedillaModule.lines).Nodup ↔ ∀ a ∈ cedillaModule.references,
      ∀ b ∈ cedillaModule.references, a ≠ b → ¬ ReadAlike a b) :=
  ⟨assemble_cedillas, ((parameters_nodup_iff _ _ _ _ _).2.2 assemble_cedillas).2⟩

/-- Different references of an assembled module whose names are read as one: the first name is
not read as it is written, and the module declares one parameter twice. -/
theorem cedillas_read_alike :
    assemble Registry.builtin "httpx" ⟨2024, 1, 2, 3, 4, 5, 0, some 0⟩ [cedillas] =
      .ok cedillaModule ∧
    cedillaModule.references = [ofString "-c\u0327", ofString "-ç"] ∧
    (ofString "-c\u0327").typeName.normalize ≠ (ofString "-c\u0327").typeName ∧
    (ofString "-c\u0327").typeName.normalize = (ofString "-ç").typeName.normalize ∧
    ¬ (parameters cedillaModule.lines).Nodup := by
  have hnames : (ofString "-c\u0327").typeName = ofString "__2d_c\u0327" ∧
      (ofString "-ç").typeName = ofString "__2d_ç" := by
    simpa [cedillaModule] using typeName_cedillas
  have hread : (ofString "__2d_c\u0327").normalize = ofString "__2d_ç" ∧
      (ofString "__2d_ç").normalize = ofString "__2d_ç" := by
    simpa [cedillaModule] using normalize_cedillas
  have hparams : parameters cedillaModule.lines = [ofString "__2d_ç", ofString "__2d_ç"] := by
    rw [parameters_lines (by decide), normalize_cedillas]
  refine ⟨assemble_cedillas, rfl, ?_, ?_, ?_⟩
  · rw [hnames.1, hread.1]
    decide
  · rw [hnames.1, hnames.2, hread.1, hread.2]
  · rw [hparams]
    simp

end GeneratedModule

end CallBindings
