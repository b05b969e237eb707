import CallBindings.Proofs.Module.Layout
import CallBindings.Proofs.Module.Parameters

set_option autoImplicit false

/-! # The type parameters of a module

A module has one type parameter for each reference of its batch. The text of the module declares
each of them in one line and lists them in four more: the class of the references, the two record
classes, and the type that the factory returns. These four lines are found by how they begin, and
the names in them are those between brackets. The names that the types of contracts are written
with are all among them.
-/

namespace CallBindings

open Text

/-! ## Names between brackets -/

/-- The names between the first brackets of a line, none if there are no brackets. -/
def Text.bracketed (line : Text) : List Text :=
  match line.dropWhile (· ≠ CodePoint.ofChar '[') with
  | [] => []
  | _ :: rest =>
    (splitAt (CodePoint.ofChar ',') (rest.takeWhile (· ≠ CodePoint.ofChar ']'))).map
      (·.dropWhile (· = CodePoint.ofChar ' '))

theorem dropWhile_blank {name : Text} (h : CodePoint.ofChar ' ' ∉ name) :
    name.dropWhile (· = CodePoint.ofChar ' ') = name := by
  cases name with
  | nil => rfl
  | cons c t =>
      have hne : ¬ c = CodePoint.ofChar ' ' := fun hc => h (hc ▸ List.mem_cons_self)
      rw [List.dropWhile_cons_of_neg (by simpa using hne)]

theorem bracketed_of_not_mem {line : Text} (h : CodePoint.ofChar '[' ∉ line) :
    bracketed line = [] := by
  have hdrop : line.dropWhile (· ≠ CodePoint.ofChar '[') = [] := by
    rw [List.dropWhile_eq_nil_iff]
    intro c hc
    rw [decide_eq_true_eq]
    rintro rfl
    exact h hc
  rw [bracketed, hdrop]

/-- Names that are listed between brackets are read back. -/
theorem bracketed_append {names : List Text} (hne : names ≠ [])
    (hnames : ∀ n ∈ names, n.isIdentifier = true) {before : Text}
    (hbefore : CodePoint.ofChar '[' ∉ before) (after : Text) :
    bracketed (before ++ CodePoint.ofChar '[' ::
      (join (ofString ", ") names ++ CodePoint.ofChar ']' :: after)) = names := by
  obtain ⟨name, names, rfl⟩ := List.exists_cons_of_ne_nil hne
  have hcomma : ∀ n ∈ name :: names, CodePoint.ofChar ',' ∉ n := fun n hn =>
    not_mem_of_isIdentifier (hnames n hn) (CodePoint.inIdentifier_of_ascii (by decide))
  have hblank : ∀ n ∈ name :: names, CodePoint.ofChar ' ' ∉ n := fun n hn =>
    not_mem_of_isIdentifier (hnames n hn) (CodePoint.inIdentifier_of_ascii (by decide))
  have hclose : CodePoint.ofChar ']' ∉ join (ofString ", ") (name :: names) := by
    intro hmem
    rw [join_cons, List.mem_append, List.mem_flatMap] at hmem
    have hnot : ∀ n ∈ name :: names, CodePoint.ofChar ']' ∉ n := fun n hn =>
      not_mem_of_isIdentifier (hnames n hn) (CodePoint.inIdentifier_of_ascii (by decide))
    rcases hmem with hmem | ⟨n, hn, hmem⟩
    · exact hnot name List.mem_cons_self hmem
    · rcases List.mem_append.mp hmem with hmem | hmem
      · revert hmem
        decide
      · exact hnot n (List.mem_cons_of_mem name hn) hmem
  -- the parts between the commas, each but the first with its blank, which is dropped
  have hparts : (name :: names.map (CodePoint.ofChar ' ' :: ·)).map
      (·.dropWhile (· = CodePoint.ofChar ' ')) = name :: names := by
    have hdrop : ∀ n ∈ names, (CodePoint.ofChar ' ' :: n).dropWhile (· = CodePoint.ofChar ' ') = n := by
      intro n hn
      rw [List.dropWhile_cons_of_pos (by simp)]
      exact dropWhile_blank (hblank n (List.mem_cons_of_mem name hn))
    rw [List.map_cons, List.map_map, dropWhile_blank (hblank name List.mem_cons_self)]
    congr 1
    conv_rhs => rw [← List.map_id names]
    exact List.map_congr_left hdrop
  rw [bracketed, dropWhile_append_cons hbefore]
  simp only
  have hsplit : splitAt (CodePoint.ofChar ',') (join (ofString ", ") (name :: names)) =
      name :: names.map (CodePoint.ofChar ' ' :: ·) :=
    @splitAt_join (CodePoint.ofChar ',') [CodePoint.ofChar ' '] name names (by decide) hcomma
  rw [takeWhile_append_cons hclose, hsplit, hparts]

namespace GeneratedModule

variable {m : GeneratedModule} {transport : Text} {cs : List Contract}

/-! ## Lines that declare a parameter -/

/-- Whether a line declares a type parameter. -/
def isDeclaration (line : Text) : Bool := (parameter? line).isSome

theorem filter_isDeclaration_eq_nil {lines : List Text} (h : lines.filterMap parameter? = []) :
    lines.filter isDeclaration = [] := by
  rw [List.filterMap_eq_nil_iff] at h
  rw [List.filter_eq_nil_iff]
  intro line hline
  rw [isDeclaration, h line hline]
  exact Bool.false_ne_true

/-- The lines that declare a type parameter are those written for one. -/
theorem Gathers.filter_isDeclaration (h : m.Gathers transport cs) :
    (m.lines ++ [[]]).filter isDeclaration = m.typeParameters.map parameterLine := by
  have hparameters : (m.typeParameters.map parameterLine).filter isDeclaration =
      m.typeParameters.map parameterLine := by
    refine List.filter_eq_self.mpr (List.forall_mem_map.mpr fun name hname => ?_)
    have hblank : CodePoint.ofChar ' ' ∉ name :=
      not_mem_of_isIdentifier (h.isIdentifier hname) (CodePoint.inIdentifier_of_ascii (by decide))
    rw [isDeclaration, parameter?_parameterLine hblank]
    rfl
  have hseparator : (if m.typeParameters.isEmpty then [] else [[]] : List Text).filter
      isDeclaration = [] := by
    split <;> rfl
  have hreferences : m.referenceLines.filter isDeclaration = m.typeParameters.map parameterLine := by
    rw [referenceLines, List.filter_append, List.filter_append, hparameters, hseparator,
      List.append_nil]
    exact List.append_nil _
  have hcontracts := filter_isDeclaration_eq_nil (filterMap_parameter?_mapLines m
    (ofString "Contracts") (ofString "ContractTypes")
    (ofString "Request, success and exception types per contract.") fun _ => rfl)
  have hbindings := filter_isDeclaration_eq_nil (filterMap_parameter?_mapLines m
    (ofString "Bindings") (ofString "Binding")
    (ofString "Call bindings returned by create_bindings().") fun _ => rfl)
  rw [lines, List.filter_append, List.filter_append, List.filter_append, List.filter_append,
    List.filter_append, filter_isDeclaration_eq_nil (filterMap_parameter?_headerLines m),
    hreferences, hcontracts, hbindings,
    filter_isDeclaration_eq_nil (filterMap_parameter?_factoryLines m)]
  simp only [List.nil_append, List.append_nil]
  exact List.append_nil _

/-- Each type parameter is declared in one line. -/
theorem Gathers.count_parameterLine (h : m.Gathers transport cs) (hnodup : m.typeParameters.Nodup)
    {name : Text} (hname : name ∈ m.typeParameters) :
    (m.lines ++ [[]]).count (parameterLine name) = 1 := by
  have hread : ∀ n ∈ m.typeParameters, parameter? (parameterLine n) = some n := fun n hn =>
    parameter?_parameterLine (not_mem_of_isIdentifier (h.isIdentifier hn)
      (CodePoint.inIdentifier_of_ascii (by decide)))
  have hlines : (m.typeParameters.map parameterLine).Nodup := by
    refine hnodup.map_on fun a ha b hb hab => ?_
    have hsome : some a = some b := by rw [← hread a ha, ← hread b hb, hab]
    exact Option.some.inj hsome
  have hdeclares : isDeclaration (parameterLine name) = true := by
    rw [isDeclaration, hread name hname]
    rfl
  -- the line can only be found among the lines that declare a parameter, which do not repeat
  rw [← List.count_filter hdeclares, h.filter_isDeclaration]
  exact List.count_eq_one_of_mem hlines (List.mem_map_of_mem hname)

/-! ## Lines that list the parameters -/

/-- How the lines begin that list the type parameters. -/
def listHeadings : List Text :=
  [ofString "class ModelReferences", ofString "class Contracts(TypedDict",
    ofString "class Bindings(TypedDict",
    ofString "def create_bindings(options: DispatchOptions) -> Bindings"]

/-- Whether a line begins like one that lists the type parameters. -/
def isListing (line : Text) : Bool := listHeadings.any line.startsWith

/-- The lists of names in the lines that begin with `heading`. -/
def listsBehind (heading : Text) (lines : List Text) : List (List Text) :=
  (lines.filter (·.startsWith heading)).map bracketed

/-- The line that begins the class of the references. -/
def referencesLine (m : GeneratedModule) : Text :=
  ofString "class ModelReferences" ++
    (m.parameterList (ofString "(Generic") (ofString ")") ++ ofString ":")

/-- The line that begins the factory. -/
def factoryHeading (m : GeneratedModule) : Text :=
  ofString "def create_bindings(options: DispatchOptions) -> Bindings" ++
    (m.parameterList (ofString "") (ofString "") ++ ofString ":")

theorem classLine_eq (m : GeneratedModule) (name : Text) :
    m.classLine name = (ofString "class " ++ name ++ ofString "(TypedDict") ++
      (m.parameterList (ofString ", Generic") (ofString "") ++ ofString "):") := by
  rw [classLine, List.append_assoc]

theorem not_isListing_of_head {line : Text} (hc : line.head? ≠ some (CodePoint.ofChar 'c'))
    (hd : line.head? ≠ some (CodePoint.ofChar 'd')) : isListing line = false := by
  rw [isListing, List.any_eq_false]
  intro heading hmem
  have hhead : ∀ heading ∈ listHeadings, heading.head? = some (CodePoint.ofChar 'c') ∨
      heading.head? = some (CodePoint.ofChar 'd') := by decide
  rw [Bool.not_eq_true]
  rcases hhead heading hmem with h | h
  · exact not_startsWith_of_head_ne h hc
  · exact not_startsWith_of_head_ne h hd

theorem not_isListing_parameterLine {name : Text} (hname : name.isIdentifier = true) :
    isListing (parameterLine name) = false := by
  -- no heading goes on with an equals sign behind its first word
  have hheading : ∀ heading ∈ listHeadings, ∃ word rest : Text,
      heading = word ++ CodePoint.ofChar ' ' :: rest ∧ CodePoint.ofChar ' ' ∉ word ∧
        rest.head? ≠ some (CodePoint.ofChar '=') ∧ rest ≠ [] := by
    simp only [listHeadings, List.forall_mem_cons]
    exact ⟨⟨ofString "class", ofString "ModelReferences", rfl, by decide⟩,
      ⟨ofString "class", ofString "Contracts(TypedDict", rfl, by decide⟩,
      ⟨ofString "class", ofString "Bindings(TypedDict", rfl, by decide⟩,
      ⟨ofString "def", ofString "create_bindings(options: DispatchOptions) -> Bindings", rfl,
        by decide⟩, by simp⟩
  rw [isListing, List.any_eq_false]
  intro heading hmem
  obtain ⟨word, rest, rfl, hword, hrest, hne⟩ := hheading heading hmem
  rw [not_startsWith_parameterLine_of_blank hname hword hrest hne]
  exact Bool.false_ne_true

theorem filter_eq_nil_of_forall {p : Text → Bool} {lines : List Text}
    (h : ∀ line ∈ lines, p line = false) : lines.filter p = [] := by
  rw [List.filter_eq_nil_iff]
  intro line hline
  rw [h line hline]
  exact Bool.false_ne_true

theorem not_isListing_headerLines (m : GeneratedModule) :
    ∀ line ∈ m.headerLines, isListing line = false := by
  have hgenerated : isListing (ofString "# Generated by contractbind at " ++ m.generatedAt.iso ++
      ofString ". Do not edit.") = false :=
    not_isListing_of_head (by show some (CodePoint.ofChar '#') ≠ _; decide)
      (by show some (CodePoint.ofChar '#') ≠ _; decide)
  have htransport : isListing (ofString "TRANSPORT = " ++ m.transport.quote) = false :=
    not_isListing_of_head (by show some (CodePoint.ofChar 'T') ≠ _; decide)
      (by show some (CodePoint.ofChar 'T') ≠ _; decide)
  exact forall_mem_headerLines hgenerated (by decide) htransport

/-- A line that begins with blanks lists no parameters. -/
theorem not_isListing_indent (rest : Text) : isListing (indent ++ rest) = false :=
  not_isListing_of_head (by show some (CodePoint.ofChar ' ') ≠ _; decide)
    (by show some (CodePoint.ofChar ' ') ≠ _; decide)

theorem startsWith_append (start rest : Text) : startsWith (start ++ rest) start = true := by
  rw [startsWith, dropStart?_append]
  rfl

theorem isListing_append {heading : Text} (h : heading ∈ listHeadings) (rest : Text) :
    isListing (heading ++ rest) = true :=
  List.any_eq_true.mpr ⟨heading, h, startsWith_append heading rest⟩

theorem Gathers.filter_isListing_referenceLines (h : m.Gathers transport cs) :
    m.referenceLines.filter isListing = [m.referencesLine] := by
  have hparameters : (m.typeParameters.map parameterLine).filter isListing = [] :=
    filter_eq_nil_of_forall (List.forall_mem_map.mpr fun _ hname =>
      not_isListing_parameterLine (h.isIdentifier hname))
  have hseparator : (if m.typeParameters.isEmpty then [] else [[]] : List Text).filter
      isListing = [] := by
    split <;> rfl
  have hclass : isListing m.referencesLine = true := isListing_append (by decide) _
  have hlines : m.referenceLines = m.typeParameters.map parameterLine ++
      (if m.typeParameters.isEmpty then [] else [[]]) ++ [[], m.referencesLine,
        docLine (ofString "Concrete types supplied by the consumer, one per referenced model id."),
        []] := by
    rw [referenceLines, referencesLine, ← List.append_assoc]
    rfl
  rw [hlines, List.filter_append, List.filter_append, hparameters, hseparator,
    List.filter_cons_of_neg (by decide), List.filter_cons_of_pos hclass]
  rfl

theorem filter_isListing_mapLines (m : GeneratedModule) {name : Text} (wrapper doc : Text)
    (hname : ofString "class " ++ name ++ ofString "(TypedDict" ∈ listHeadings) :
    (m.mapLines name wrapper doc).filter isListing = [m.classLine name] := by
  have hclass : isListing (m.classLine name) = true := by
    rw [classLine_eq]
    exact isListing_append hname _
  have hdoc : ¬ isListing (docLine doc) = true := by
    rw [docLine, List.append_assoc, List.append_assoc, not_isListing_indent]
    exact Bool.false_ne_true
  have hentries : (m.recordLines wrapper).filter isListing = [] := by
    refine filter_eq_nil_of_forall (forall_mem_recordLines (by decide) fun k _ => ?_)
    rw [entryLine_eq, not_isListing_indent]
  rw [mapLines_eq, List.filter_cons_of_neg (by decide), List.filter_cons_of_pos hclass,
    List.filter_cons_of_neg hdoc, List.filter_cons_of_neg (by decide), List.filter_append, hentries]
  rfl

theorem filter_isListing_factoryLines (m : GeneratedModule) :
    m.factoryLines.filter isListing = [m.factoryHeading] := by
  have hheading : isListing m.factoryHeading = true := isListing_append (by decide) _
  have hentries : (m.contracts.map factoryLine).filter isListing = [] := by
    refine filter_eq_nil_of_forall (List.forall_mem_map.mpr fun k _ => ?_)
    rw [factoryLine, List.append_assoc, List.append_assoc, List.append_assoc, List.append_assoc,
      not_isListing_indent]
  have hlines : m.factoryLines =
      [[], m.factoryHeading, opening] ++ m.contracts.map factoryLine ++ [closing] := by
    rw [factoryLines, factoryHeading, ← List.append_assoc]
    rfl
  rw [hlines, List.filter_append, List.filter_append, hentries,
    List.filter_cons_of_neg (by decide), List.filter_cons_of_pos hheading]
  rfl

/-- The lines that list the type parameters, in their order. -/
theorem Gathers.filter_isListing (h : m.Gathers transport cs) :
    (m.lines ++ [[]]).filter isListing = [m.referencesLine, m.classLine (ofString "Contracts"),
      m.classLine (ofString "Bindings"), m.factoryHeading] := by
  have hcontracts := filter_isListing_mapLines m (ofString "ContractTypes")
    (ofString "Request, success and exception types per contract.")
    (by decide : ofString "class " ++ ofString "Contracts" ++ ofString "(TypedDict" ∈ listHeadings)
  have hbindings := filter_isListing_mapLines m (ofString "Binding")
    (ofString "Call bindings returned by create_bindings().")
    (by decide : ofString "class " ++ ofString "Bindings" ++ ofString "(TypedDict" ∈ listHeadings)
  rw [lines, List.filter_append, List.filter_append, List.filter_append, List.filter_append,
    List.filter_append, filter_eq_nil_of_forall (not_isListing_headerLines m),
    h.filter_isListing_referenceLines, hcontracts, hbindings, filter_isListing_factoryLines]
  rfl

theorem filter_startsWith {heading : Text} (h : heading ∈ listHeadings) (lines : List Text) :
    lines.filter (·.startsWith heading) = (lines.filter isListing).filter (·.startsWith heading) := by
  rw [List.filter_filter]
  refine List.filter_congr fun line _ => ?_
  cases hline : line.startsWith heading with
  | false => rfl
  | true => exact (List.any_eq_true.mpr ⟨heading, h, hline⟩ : isListing line = true).symm

/-- The names that are listed behind a heading are the type parameters, or there is no list. -/
theorem Gathers.bracketed_parameterList (h : m.Gathers transport cs) {heading before : Text}
    (hheading : CodePoint.ofChar '[' ∉ heading) (hbefore : CodePoint.ofChar '[' ∉ before)
    (after : Text) {tail : Text} (htail : CodePoint.ofChar '[' ∉ tail) :
    bracketed (heading ++ (m.parameterList before after ++ tail)) = m.typeParameters := by
  rw [parameterList]
  split
  · next hempty =>
      rw [List.isEmpty_iff.mp hempty]
      exact bracketed_of_not_mem fun hmem => (List.mem_append.mp hmem).elim hheading htail
  · next hne =>
      have hshape : heading ++ (before ++ ofString "[" ++ join (ofString ", ") m.typeParameters ++
          ofString "]" ++ after ++ tail) = (heading ++ before) ++ CodePoint.ofChar '[' ::
            (join (ofString ", ") m.typeParameters ++ CodePoint.ofChar ']' :: (after ++ tail)) := by
        simp only [List.append_assoc]
        rfl
      rw [hshape]
      exact bracketed_append (fun hnil => hne (List.isEmpty_iff.mpr hnil))
        (fun _ hname => h.isIdentifier hname)
        (fun hmem => (List.mem_append.mp hmem).elim hheading hbefore) _

theorem prefix_of_startsWith {t start : Text} (h : t.startsWith start = true) : start <+: t := by
  obtain ⟨rest, hrest⟩ := Option.isSome_iff_exists.mp h
  exact ⟨rest, (dropStart?_eq_some_iff.mp hrest).symm⟩

/-- A line begins with one of the headings only. -/
theorem startsWith_heading {a b : Text} (ha : a ∈ listHeadings) (hb : b ∈ listHeadings)
    (rest : Text) : (a ++ rest).startsWith b = decide (a = b) := by
  have hapart : ∀ a ∈ listHeadings, ∀ b ∈ listHeadings, a <+: b → a = b := by decide
  by_cases hab : a = b
  · rw [hab, startsWith_append, decide_eq_true rfl]
  · rw [decide_eq_false hab, Bool.eq_false_iff]
    intro hstart
    -- two headings at the start of one line: the shorter would begin the longer
    rcases List.prefix_or_prefix_of_prefix (List.prefix_append a rest)
      (prefix_of_startsWith hstart) with h | h
    · exact hab (hapart a ha b hb h)
    · exact hab (hapart b hb a ha h).symm

/-- The headings of the lines that list the type parameters, with what follows them. -/
def listings (m : GeneratedModule) : List (Text × Text) :=
  [(ofString "class ModelReferences",
      m.parameterList (ofString "(Generic") (ofString ")") ++ ofString ":"),
    (ofString "class Contracts(TypedDict",
      m.parameterList (ofString ", Generic") (ofString "") ++ ofString "):"),
    (ofString "class Bindings(TypedDict",
      m.parameterList (ofString ", Generic") (ofString "") ++ ofString "):"),
    (ofString "def create_bindings(options: DispatchOptions) -> Bindings",
      m.parameterList (ofString "") (ofString "") ++ ofString ":")]

theorem Gathers.bracketed_listings (h : m.Gathers transport cs) :
    ∀ l ∈ m.listings, bracketed (l.1 ++ l.2) = m.typeParameters := by
  simp only [listings, List.forall_mem_cons]
  exact ⟨h.bracketed_parameterList (by decide) (by decide) _ (by decide),
    h.bracketed_parameterList (by decide) (by decide) _ (by decide),
    h.bracketed_parameterList (by decide) (by decide) _ (by decide),
    h.bracketed_parameterList (by decide) (by decide) _ (by decide), by simp⟩

/-- Four lines list the type parameters, one for each of the headings. -/
theorem Gathers.listsBehind (h : m.Gathers transport cs) {heading : Text}
    (hheading : heading ∈ listHeadings) :
    listsBehind heading (m.lines ++ [[]]) = [m.typeParameters] := by
  have hlines : (m.lines ++ [[]]).filter isListing = m.listings.map fun l => l.1 ++ l.2 := by
    rw [h.filter_isListing, classLine_eq, classLine_eq]
    rfl
  have hmem : ∀ l ∈ m.listings, l.1 ∈ listHeadings := by
    simp only [listings, List.forall_mem_cons]
    exact ⟨by decide, by decide, by decide, by decide, by simp⟩
  -- of the four lines, which are listings, one alone begins with the heading
  have hone : ∃ rest, m.listings.filter (fun l => decide (l.1 = heading)) = [(heading, rest)] := by
    simp only [listHeadings, List.mem_cons, List.not_mem_nil, or_false] at hheading
    rcases hheading with rfl | rfl | rfl | rfl <;> exact ⟨_, rfl⟩
  obtain ⟨rest, hone⟩ := hone
  have hsame : ∀ l ∈ m.listings, ((·.startsWith heading) ∘ fun l : Text × Text => l.1 ++ l.2) l =
      decide (l.1 = heading) := fun l hl => startsWith_heading (hmem l hl) hheading l.2
  have hin : (heading, rest) ∈ m.listings := by
    refine List.mem_of_mem_filter (p := fun l => decide (l.1 = heading)) ?_
    rw [hone]
    exact List.mem_cons_self
  rw [GeneratedModule.listsBehind, filter_startsWith hheading, hlines, List.filter_map,
    List.filter_congr hsame, hone, List.map_singleton, List.map_singleton,
    h.bracketed_listings _ hin]

/-! ## The module as a whole -/

/-- What a module declares of the references of its contracts. -/
structure DeclaresReferences (m : GeneratedModule) (cs : List Contract) : Prop where
  /-- The contracts of the module are what those of the batch compile to, in their order. -/
  compiled : List.Forall₂ (fun c k => c.compile = .ok k) cs m.contracts
  /-- Each brings the references of its own bodies. -/
  each : List.Forall₂ (fun c k => Shape.referencesOf c.bodies = .ok k.references) cs m.contracts
  /-- The references of the module are those of its contracts without repeats, -/
  merged : m.references = distinct (m.contracts.flatMap (·.references))
  /-- which are those of all bodies of all contracts, in their order. -/
  collected : Shape.referencesOf (cs.flatMap (·.bodies)) = .ok m.references
  nodup : m.references.Nodup
  /-- The type parameters are the names of the references, and different as texts. -/
  named : m.typeParameters = m.references.map typeName
  parametersNodup : m.typeParameters.Nodup
  /-- The lines of the text that declare a type parameter are those of the parameters, -/
  declarations : (m.render.splitAt '\n').filter isDeclaration = m.typeParameters.map parameterLine
  /-- one for each. -/
  once : ∀ name ∈ m.typeParameters, (m.render.splitAt '\n').count (parameterLine name) = 1
  /-- One line for each of the four headings lists the parameters, or nothing if there are none. -/
  listed : ∀ heading ∈ listHeadings, listsBehind heading (m.render.splitAt '\n') = [m.typeParameters]
  /-- The types of the contracts are written with no names but those of the parameters. -/
  types : ∀ k ∈ m.contracts, ∀ t ∈ [k.request, k.success, k.exceptions],
    WellScoped m.typeParameters t

/-- **The type parameters of a module are the references of its batch,** wherever the text of the
module has them. -/
theorem declaresReferences_of_assemble (registry : Registry) (transport : Text) (workers : ℤ)
    (generatedAt : Timestamp) (cs : List Contract) (ks : List Compiled)
    (hbatch : (Compiled.batch workers cs).2 = .ok ks) (hlists : registry.lists transport = true) :
    ∃ m, assemble registry transport generatedAt ks = .ok m ∧ m.DeclaresReferences cs := by
  have hyields := Compiled.yields_of_batch hbatch
  obtain ⟨m, hm, hgathers⟩ := exists_assemble generatedAt hbatch hlists
  have hlines := hgathers.splitAt_render
  obtain rfl := eq_of_assemble hm
  have hnodup : ((distinct (ks.flatMap (·.references))).map typeName).Nodup :=
    (nodup_distinct _).map fun _ _ => typeName_injective
  refine ⟨_, hm, ?_⟩
  exact {
    compiled := (Compiled.batch_eq_ok.mp hbatch).1
    each := hyields.imp fun _ _ h => h.references
    merged := rfl
    collected := Compiled.referencesOf_bodies hyields
    nodup := nodup_distinct _
    named := rfl
    parametersNodup := hnodup
    declarations := by rw [hlines, hgathers.filter_isDeclaration]
    once := fun name hname => by rw [hlines, hgathers.count_parameterLine hnodup hname]
    listed := fun heading hheading => by rw [hlines, hgathers.listsBehind hheading]
    types := by
      intro k hk t ht
      obtain ⟨c, -, hck⟩ := exists_of_forall₂ hyields hk
      refine (hck.wellScoped t ht).mono (List.map_subset _ fun id hid => ?_)
      exact mem_distinct.mpr (List.mem_flatMap.mpr ⟨k, hk, hid⟩) }

/-- A contract that refers to two types, to one of them twice. -/
def orderContract : Contract :=
  ⟨"order", "/orders", "POST", .reference "user-id",
    [⟨200, .array (.reference "Item")⟩, ⟨404, .union [.reference "user-id", .boolean]⟩]⟩

/-- A contract that shares one of its references with the first. -/
def refundContract : Contract :=
  ⟨"refund", "/refunds", "POST", .reference "Item", [⟨200, .reference "receipt"⟩]⟩

theorem batch_orders : ∃ ks, (Compiled.batch 1 [orderContract, refundContract]).2 = .ok ks := by
  refine Compiled.exists_batch 1 ?_ (by decide)
  simp only [List.forall_mem_cons]
  refine ⟨?_, ?_, by simp⟩
  · have hid : orderContract.id.isContractId = true := by decide +kernel
    exact ⟨_, by rw [Contract.compile, hid]; rfl⟩
  · have hid : refundContract.id.isContractId = true := by decide +kernel
    exact ⟨_, by rw [Contract.compile, hid]; rfl⟩

theorem declaresReferences_of_assemble_orders : ∃ ks m,
    (Compiled.batch 1 [orderContract, refundContract]).2 = .ok ks ∧
    Registry.builtin.lists "httpx" = true ∧
    assemble Registry.builtin "httpx" ⟨2024, 1, 2, 3, 4, 5, 0, some 0⟩ ks = .ok m ∧
    m.DeclaresReferences [orderContract, refundContract] ∧
    m.references = [ofString "user-id", ofString "Item", ofString "receipt"] := by
  obtain ⟨ks, hks⟩ := batch_orders
  have hlists : Registry.builtin.lists "httpx" = true := by decide
  obtain ⟨m, hm, hdeclares⟩ := declaresReferences_of_assemble Registry.builtin "httpx" 1
    ⟨2024, 1, 2, 3, 4, 5, 0, some 0⟩ [orderContract, refundContract] ks hks hlists
  have hreferences : Shape.referencesOf ([orderContract, refundContract].flatMap (·.bodies)) =
      .ok [ofString "user-id", ofString "Item", ofString "receipt"] := rfl
  have hcollected := hdeclares.collected
  rw [hreferences] at hcollected
  exact ⟨ks, m, hks, hlists, hm, hdeclares, (Except.ok.inj hcollected).symm⟩

end GeneratedModule

end CallBindings
