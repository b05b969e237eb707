import CallBindings.Proofs.Contract.Joined
import CallBindings.Proofs.Module.Reading

set_option autoImplicit false

/-! # The layout of a module's text

The text of a module is laid out by the numbers of its contracts and references alone, whatever
texts its contracts hold. So a contract stays in its three lines: one in each of the record classes,
and one in the factory. The blocks of these lines are found again in the text, the record classes by
how they begin and end, the factory by the lines around its entries, and the literals in the factory
are the texts of the contracts when they are read as JSON.
-/

namespace CallBindings

open Text

namespace GeneratedModule

variable {m : GeneratedModule} {transport : Text} {cs : List Contract}

/-! ## The number of lines -/

theorem length_referenceLines (m : GeneratedModule) : m.referenceLines.length =
    m.typeParameters.length + (if m.typeParameters.isEmpty then 0 else 1) + 4 := by
  rw [referenceLines, List.length_append, List.length_append, List.length_map]
  split <;> rfl

theorem length_recordLines (m : GeneratedModule) (wrapper : Text) :
    (m.recordLines wrapper).length = max m.contracts.length 1 := by
  rw [recordLines]
  split
  · rename_i hempty
    rw [List.isEmpty_iff.mp hempty]
    rfl
  · rename_i hempty
    have := List.length_pos_iff.mpr fun h => hempty (List.isEmpty_iff.mpr h)
    rw [List.length_map]
    omega

theorem length_mapLines (m : GeneratedModule) (name wrapper doc : Text) :
    (m.mapLines name wrapper doc).length = max m.contracts.length 1 + 5 := by
  simp only [mapLines_eq, List.length_cons, List.length_append, length_recordLines,
    List.length_nil]

theorem length_factoryLines (m : GeneratedModule) :
    m.factoryLines.length = m.contracts.length + 4 := by
  rw [factoryLines, List.length_append, List.length_append, List.length_map]
  show 3 + m.contracts.length + 1 = _
  omega

theorem length_lines (m : GeneratedModule) : m.lines.length =
    29 + m.typeParameters.length + (if m.typeParameters.isEmpty then 0 else 1) +
      2 * max m.contracts.length 1 + m.contracts.length := by
  have hheader : m.headerLines.length = 11 := rfl
  simp only [lines, List.length_append, hheader, length_referenceLines, length_mapLines,
    length_factoryLines]
  omega

/-- The text of a module has as many line feeds as lines. -/
theorem Gathers.countOf_render (h : m.Gathers transport cs) :
    countOf '\n' m.render = 29 + m.references.length +
      (if m.references.length = 0 then 0 else 1) + 2 * max cs.length 1 + cs.length := by
  have hempty : m.typeParameters.isEmpty = true ↔ m.references.length = 0 := by
    rw [h.parameters, List.isEmpty_iff, List.map_eq_nil_iff, List.length_eq_zero_iff]
  rw [render, countOf_flatMap h.inLine_lines, length_lines, h.contracts.length_eq]
  simp only [hempty]
  rw [h.parameters, List.length_map]

/-! ## Record classes -/

/-- The lines of the entries of a record class that begins with `heading`: those behind its first
three lines, up to an empty one. -/
def recordBlock (heading : Text) (lines : List Text) : List Text :=
  ((lines.dropWhile fun line => !line.startsWith heading).drop 3).takeWhile (· ≠ [])

/-- How the record classes begin. -/
def recordHeadings : List Text := [ofString "class Contracts(", ofString "class Bindings("]

theorem not_startsWith_of_head_ne {line heading : Text} {c : CodePoint}
    (hc : heading.head? = some c) (h : line.head? ≠ some c) : line.startsWith heading = false := by
  cases heading with
  | nil => cases hc
  | cons d heading =>
      cases hc
      cases line with
      | nil => rfl
      | cons b line =>
          have hne : ¬ c = b := by
            rintro rfl
            exact h rfl
          rw [startsWith, dropStart?, if_neg hne]
          rfl

theorem head_recordHeadings : ∀ heading ∈ recordHeadings,
    heading.head? = some (CodePoint.ofChar 'c') := by
  decide

theorem not_startsWith_headerLines (m : GeneratedModule) {heading : Text}
    (hh : heading ∈ recordHeadings) :
    ∀ line ∈ m.headerLines, line.startsWith heading = false := by
  have hhead : ∀ line ∈ m.headerLines, line.head? ≠ some (CodePoint.ofChar 'c') := by
    have hgenerated : (ofString "# Generated by contractbind at " ++ m.generatedAt.iso ++
        ofString ". Do not edit.").head? ≠ some (CodePoint.ofChar 'c') := by
      show some (CodePoint.ofChar '#') ≠ _
      decide
    have htransport : (ofString "TRANSPORT = " ++ m.transport.quote).head? ≠
        some (CodePoint.ofChar 'c') := by
      show some (CodePoint.ofChar 'T') ≠ _
      decide
    exact forall_mem_headerLines hgenerated (by decide) htransport
  exact fun line hline => not_startsWith_of_head_ne (head_recordHeadings heading hh)
    (hhead line hline)

/-- What stands behind the first blank tells the declaration of a type parameter from a line of
another kind. -/
theorem not_startsWith_parameterLine_of_blank {name word rest : Text}
    (hname : name.isIdentifier = true) (hword : CodePoint.ofChar ' ' ∉ word)
    (hrest : rest.head? ≠ some (CodePoint.ofChar '=')) (hne : rest ≠ []) :
    (parameterLine name).startsWith (word ++ CodePoint.ofChar ' ' :: rest) = false := by
  have hblank : CodePoint.ofChar ' ' ∉ name :=
    not_mem_of_isIdentifier hname (CodePoint.inIdentifier_of_ascii (by decide))
  rw [startsWith, Option.isSome_eq_false_iff, Option.isNone_iff_eq_none,
    Option.eq_none_iff_forall_ne_some]
  intro after hafter
  have heq := dropStart?_eq_some_iff.mp hafter
  have hline : parameterLine name = name ++ CodePoint.ofChar ' ' ::
      (ofString "= TypeVar(\"" ++ (name ++ ofString "\")")) := by
    rw [parameterLine]
    simp only [List.append_assoc]
    rfl
  -- behind the blank stands an equals sign in the one and something else in the other
  rw [hline, List.append_assoc, List.cons_append] at heq
  obtain ⟨-, hbehind⟩ := append_cons_inj hblank hword heq
  cases rest with
  | nil => exact hne rfl
  | cons c rest => exact hrest (by rw [← (List.cons.inj hbehind).1]; rfl)

theorem not_startsWith_parameterLine {name heading : Text} (hname : name.isIdentifier = true)
    (hh : heading ∈ recordHeadings) : (parameterLine name).startsWith heading = false := by
  have hclass : ∀ rest : Text, rest.head? ≠ some (CodePoint.ofChar '=') → rest ≠ [] →
      (parameterLine name).startsWith (ofString "class" ++ CodePoint.ofChar ' ' :: rest) = false :=
    fun _ => not_startsWith_parameterLine_of_blank hname (by decide)
  simp only [recordHeadings, List.mem_cons, List.not_mem_nil, or_false] at hh
  rcases hh with rfl | rfl
  · exact hclass (ofString "Contracts(") (by decide) (by decide)
  · exact hclass (ofString "Bindings(") (by decide) (by decide)

theorem Gathers.not_startsWith_referenceLines (h : m.Gathers transport cs) {heading : Text}
    (hh : heading ∈ recordHeadings) :
    ∀ line ∈ m.referenceLines, line.startsWith heading = false := by
  have hother : ∀ line : Text, line.head? ≠ some (CodePoint.ofChar 'c') →
      line.startsWith heading = false :=
    fun line => not_startsWith_of_head_ne (head_recordHeadings heading hh)
  have hclass : (ofString "class ModelReferences" ++
      m.parameterList (ofString "(Generic") (ofString ")") ++ ofString ":").startsWith heading =
        false := by
    simp only [recordHeadings, List.mem_cons, List.not_mem_nil, or_false] at hh
    rcases hh with rfl | rfl <;> rfl
  exact forall_mem_referenceLines (hother _ (by decide))
    (fun name hname => not_startsWith_parameterLine (h.isIdentifier hname) hh) hclass
    (hother _ (by decide))

/-- No line but the first of a record class begins like one. -/
theorem not_startsWith_recordLines (m : GeneratedModule) (wrapper : Text) {heading : Text}
    (hh : heading ∈ recordHeadings) :
    ∀ line ∈ m.recordLines wrapper, line.startsWith heading = false := by
  have hhead : ∀ line ∈ m.recordLines wrapper, line.head? ≠ some (CodePoint.ofChar 'c') := by
    refine forall_mem_recordLines (by decide) fun k _ => ?_
    rw [entryLine_eq]
    show some (CodePoint.ofChar ' ') ≠ _
    decide
  exact fun line hline => not_startsWith_of_head_ne (head_recordHeadings heading hh)
    (hhead line hline)

theorem nil_not_mem_recordLines (m : GeneratedModule) (wrapper : Text) :
    [] ∉ m.recordLines wrapper := by
  have hne : ∀ line ∈ m.recordLines wrapper, line ≠ [] := by
    refine forall_mem_recordLines (by decide) fun k _ => ?_
    rw [entryLine_eq]
    exact List.cons_ne_nil _ _
  exact fun hmem => hne [] hmem rfl

theorem startsWith_classLine (m : GeneratedModule) (name : Text) :
    (m.classLine name).startsWith (ofString "class " ++ name ++ ofString "(") = true := by
  have hline : m.classLine name = (ofString "class " ++ name ++ ofString "(") ++
      (ofString "TypedDict" ++ (m.parameterList (ofString ", Generic") (ofString "") ++
        ofString "):")) := by
    rw [classLine]
    simp only [List.append_assoc]
    rfl
  rw [hline, startsWith, dropStart?_append]
  rfl

/-- The block of a record class, wherever it stands. -/
theorem recordBlock_append_mapLines {before rest : List Text} {heading name : Text}
    (hheading : heading = ofString "class " ++ name ++ ofString "(")
    (hh : heading ∈ recordHeadings) (wrapper doc : Text)
    (hbefore : ∀ line ∈ before, line.startsWith heading = false) :
    recordBlock heading (before ++ (m.mapLines name wrapper doc ++ rest)) =
      m.recordLines wrapper := by
  have hskip : ∀ line ∈ before ++ [[]], (!line.startsWith heading) = true := by
    intro line hline
    rw [Bool.not_eq_true']
    rcases List.mem_append.mp hline with hline | hline
    · exact hbefore line hline
    · rw [List.mem_singleton.mp hline]
      exact not_startsWith_of_head_ne (head_recordHeadings _ hh) (by decide)
  have hclass : ¬ (!(m.classLine name).startsWith heading) = true := by
    rw [hheading, startsWith_classLine]
    decide
  have hlines : before ++ (m.mapLines name wrapper doc ++ rest) = (before ++ [[]]) ++
      m.classLine name :: docLine doc :: [] :: (m.recordLines wrapper ++ [] :: rest) := by
    rw [mapLines_eq]
    simp only [List.cons_append, List.append_assoc, List.nil_append]
  rw [recordBlock, hlines, List.dropWhile_append_of_pos hskip, List.dropWhile_cons, if_neg hclass]
  -- no entry is empty, so the block ends where the class does
  exact takeWhile_append_cons (m.nil_not_mem_recordLines wrapper) rest

/-- No line of the first record class begins like the second. -/
theorem not_startsWith_mapLines (m : GeneratedModule) (doc : Text) :
    ∀ line ∈ m.mapLines (ofString "Contracts") (ofString "ContractTypes") doc,
      line.startsWith (ofString "class Bindings(") = false := by
  have hh : ofString "class Bindings(" ∈ recordHeadings := by decide
  exact forall_mem_mapLines rfl rfl rfl (not_startsWith_recordLines m _ hh)

/-- The first record class has one line for each contract. -/
theorem Gathers.recordBlock_contracts (h : m.Gathers transport cs) :
    recordBlock (ofString "class Contracts(") (m.lines ++ [[]]) =
      m.recordLines (ofString "ContractTypes") := by
  have hh : ofString "class Contracts(" ∈ recordHeadings := by decide
  have hname : ofString "class Contracts(" =
    ofString "class " ++ ofString "Contracts" ++ ofString "(" := rfl
  rw [lines]
  simp only [List.append_assoc]
  rw [← List.append_assoc]
  exact recordBlock_append_mapLines hname hh _ _ (List.forall_mem_append.mpr
    ⟨not_startsWith_headerLines m hh, h.not_startsWith_referenceLines hh⟩)

/-- The second record class has one line for each contract. -/
theorem Gathers.recordBlock_bindings (h : m.Gathers transport cs) :
    recordBlock (ofString "class Bindings(") (m.lines ++ [[]]) =
      m.recordLines (ofString "Binding") := by
  have hh : ofString "class Bindings(" ∈ recordHeadings := by decide
  have hname : ofString "class Bindings(" =
    ofString "class " ++ ofString "Bindings" ++ ofString "(" := rfl
  rw [lines, List.append_assoc _ m.factoryLines, List.append_assoc _ _ (m.factoryLines ++ [[]])]
  exact recordBlock_append_mapLines hname hh _ _ (List.forall_mem_append.mpr
    ⟨List.forall_mem_append.mpr
      ⟨not_startsWith_headerLines m hh, h.not_startsWith_referenceLines hh⟩,
      not_startsWith_mapLines m _⟩)

/-! ## The factory read as JSON -/

/-- The string that stands behind `before`, read as JSON, and what follows it. -/
def jsonAfter? (before line : Text) : Option (Text × Text) :=
  match line.dropStart? (before ++ ofString "\"") with
  | some rest => (Json.readString line rest).toOption
  | none => none

/-- What stands in a line of the factory if its strings are read as JSON: id, URL and method. -/
def jsonEntry? (line : Text) : Option (Text × Text × Text) := do
  let (id, rest) ← jsonAfter? (indent ++ indent) line
  let (url, rest) ← jsonAfter? (ofString ": bind(") rest
  let (method, rest) ← jsonAfter? (ofString ", ") rest
  if rest = ofString ", options, transport=TRANSPORT)," then some (id, url, method) else none

/-- What stands in the lines of the factory, given the lines of a module. -/
def jsonEntries? (lines : List Text) : Option (List (Text × Text × Text)) :=
  (factoryBlock lines).mapM jsonEntry?

theorem jsonAfter?_quote (before t rest : Text) :
    jsonAfter? before (before ++ (t.quote ++ rest)) = some (t.joined, rest) := by
  have hquote : before ++ (t.quote ++ rest) = (before ++ ofString "\"") ++
      (t.flatMap quoteCodePoint ++ CodePoint.ofChar '"' :: rest) := by
    rw [quote]
    simp only [List.append_assoc]
    rfl
  rw [jsonAfter?, hquote, dropStart?_append]
  simp only [Json.readString_quote]
  rfl

theorem jsonEntry?_factoryLine {c : Contract} {k : Compiled} (h : c.CompilesTo k) :
    jsonEntry? (factoryLine k) = some (c.id, c.url.joined, c.method.joined) := by
  -- an id is an identifier, which has no halves to join
  have hid : c.id.joined = c.id :=
    joined_eq_self_iff.mpr (isJoined_of_isIdentifier (h.id ▸ h.isIdentifier))
  unfold jsonEntry?
  rw [factoryLine_eq h, jsonAfter?_quote, hid]
  show (jsonAfter? (ofString ": bind(") _ >>= _) = _
  rw [jsonAfter?_quote]
  show (jsonAfter? (ofString ", ") _ >>= _) = _
  rw [jsonAfter?_quote]
  rfl

theorem mapM_jsonEntry? {ks : List Compiled} (h : List.Forall₂ Contract.CompilesTo cs ks) :
    (ks.map factoryLine).mapM jsonEntry? =
      some (cs.map fun c => (c.id, c.url.joined, c.method.joined)) := by
  induction h with
  | nil => rfl
  | cons hck _ ih =>
      rw [List.map_cons, List.mapM_cons, jsonEntry?_factoryLine hck, ih]
      rfl

/-- The strings in the factory of a module, read as JSON. -/
theorem Gathers.jsonEntries?_render (h : m.Gathers transport cs) :
    jsonEntries? (m.render.splitAt '\n') =
      some (cs.map fun c => (c.id, c.url.joined, c.method.joined)) := by
  rw [h.splitAt_render, jsonEntries?, factoryBlock_lines, mapM_jsonEntry? h.contracts]

/-! ## The whole text -/

/-- What stands as it is in the lines of a contract is woven from its id and its references. -/
theorem woven_partsOf {c : Contract} {success : Response} (hc : c.Sound)
    (hs : c.success? = some success) :
    ∀ t ∈ partsOf (c.written success),
      Woven (c.id :: (c.written success).references.map typeName) t := by
  have htypes : ∀ t ∈ [(c.written success).request, (c.written success).success,
      (c.written success).exceptions],
      Woven (c.id :: (c.written success).references.map typeName) t := by
    refine fun t ht => (Contract.woven_types hc hs t ht).mono ?_
    refine List.subset_cons_of_subset _ (List.map_subset _ fun id hid => ?_)
    exact mem_distinct.mpr hid
  simp only [List.forall_mem_cons] at htypes
  obtain ⟨hrequest, hsuccess, hexceptions, -⟩ := htypes
  simp only [partsOf, List.forall_mem_cons]
  exact ⟨.name List.mem_cons_self, hrequest, hsuccess, hexceptions,
    .printable (isPrintable_bindingText _ _), by simp⟩

/-- How the text of a module of some contracts is laid out. -/
structure LaidOut (m : GeneratedModule) (cs : List Contract) : Prop where
  /-- The contracts of the module are what those of the batch compile to, in their order. -/
  compiled : List.Forall₂ (fun c k => c.compile = .ok k) cs m.contracts
  /-- The references of the module are those of all bodies, each once. -/
  references : Shape.referencesOf (cs.flatMap (·.bodies)) = .ok m.references
  /-- The numbers of contracts and references give the number of line feeds. -/
  lineFeeds : countOf '\n' m.render = 29 + m.references.length +
    (if m.references.length = 0 then 0 else 1) + 2 * max cs.length 1 + cs.length
  /-- Between ids and names of references there is nothing but printable ASCII. -/
  woven : ∀ line ∈ m.render.splitAt '\n',
    Woven (cs.map (·.id) ++ m.references.map typeName) line
  /-- So what lies beyond ASCII stands in an id or the name of a reference. -/
  beyondAscii : ∀ x ∈ m.render, 0x80 ≤ x.val →
    ∃ name ∈ cs.map (·.id) ++ m.references.map typeName, x ∈ name
  /-- One line for each contract stands in the first record class, -/
  contracts : recordBlock (ofString "class Contracts(") (m.render.splitAt '\n') =
    m.recordLines (ofString "ContractTypes")
  /-- one in the second, -/
  bindings : recordBlock (ofString "class Bindings(") (m.render.splitAt '\n') =
    m.recordLines (ofString "Binding")
  /-- and one in the factory. -/
  factory : factoryBlock (m.render.splitAt '\n') = m.contracts.map factoryLine
  /-- The strings in the factory, read as JSON, are the ids, URLs and methods with the halves of
  pairs joined, -/
  entries : jsonEntries? (m.render.splitAt '\n') =
    some (cs.map fun c => (c.id, c.url.joined, c.method.joined))
  /-- which are the ids, URLs and methods themselves exactly if there is nothing to join. -/
  entries_eq_iff : jsonEntries? (m.render.splitAt '\n') =
    some (cs.map fun c => (c.id, c.url, c.method)) ↔ ∀ c ∈ cs, c.IsJoined

/-- What stands as it is in a module of sound contracts is woven from ids and the names of
references. -/
theorem woven_parts {registry : Registry} {workers : ℤ} {generatedAt : Timestamp}
    (hsound : ∀ c ∈ cs, c.Sound)
    (hm : (generate registry transport workers generatedAt cs).2 = .ok m) :
    ∀ t ∈ m.parts, Woven (cs.map (·.id) ++ m.references.map typeName) t := by
  obtain ⟨ks, hks, hassemble⟩ := exists_of_generate hm
  have hwritten := Compiled.written_of_batch hsound hks
  obtain rfl := eq_of_assemble hassemble
  intro t ht
  rcases List.mem_append.mp ht with ht | ht
  · exact .name (List.mem_append_right _ ht)
  · obtain ⟨k, hk, ht⟩ := List.mem_flatMap.mp ht
    obtain ⟨c, hcs, hc, success, hs, rfl⟩ := exists_of_forall₂ hwritten hk
    refine (woven_partsOf hc hs t ht).mono (List.cons_subset.mpr ⟨?_, ?_⟩)
    · exact List.mem_append_left _ (List.mem_map_of_mem hcs)
    · refine List.subset_append_of_subset_right _ (List.map_subset _ fun id hid => ?_)
      exact mem_distinct.mpr (List.mem_flatMap.mpr ⟨_, hk, hid⟩)

/-- What lies beyond ASCII in a text stands in the names that its lines are woven from. -/
theorem exists_name_of_mem_render {names : List Text} (h : ∀ line ∈ m.lines, Woven names line)
    {x : CodePoint} (hx : x ∈ m.render) (hlarge : 0x80 ≤ x.val) : ∃ name ∈ names, x ∈ name := by
  obtain ⟨line, hline, hx⟩ := List.mem_flatMap.mp hx
  rcases List.mem_append.mp hx with hx | hx
  · refine ((h line hline).mem_name hx).resolve_left fun hprintable => ?_
    simp only [CodePoint.isPrintable, Bool.and_eq_true, decide_eq_true_eq] at hprintable
    omega
  · rw [List.mem_singleton.mp hx] at hlarge
    exact absurd hlarge (by decide)

/-- The lines of a module of sound contracts are woven from ids and the names of references. -/
theorem woven_lines_of_generate {registry : Registry} {workers : ℤ} {generatedAt : Timestamp}
    (hsound : ∀ c ∈ cs, c.Sound)
    (hm : (generate registry transport workers generatedAt cs).2 = .ok m) :
    ∀ line ∈ m.lines, Woven (cs.map (·.id) ++ m.references.map typeName) line :=
  fun line hline => (woven_lines m line hline).trans (woven_parts hsound hm)

/-- The text of a module of sound contracts can be encoded, whatever texts the contracts hold. -/
theorem isScalar_render {registry : Registry} {workers : ℤ} {generatedAt : Timestamp}
    (hsound : ∀ c ∈ cs, c.Sound)
    (hm : (generate registry transport workers generatedAt cs).2 = .ok m) :
    m.render.isScalar = true := by
  have hgathers := gathers_of_generate hsound hm
  have hnames : ∀ name ∈ cs.map (·.id) ++ m.references.map typeName,
      name.isIdentifier = true := by
    refine List.forall_mem_append.mpr ⟨?_, List.forall_mem_map.mpr fun id _ =>
      isIdentifier_typeName id⟩
    rw [← Compiled.map_id_of_forall₂ hgathers.contracts Contract.CompilesTo.id]
    refine List.forall_mem_map.mpr fun k hk => ?_
    obtain ⟨c, -, hck⟩ := hgathers.compilesTo hk
    exact hck.isIdentifier
  rw [isScalar, List.all_eq_true]
  intro x hx
  rw [Bool.not_eq_true', ← Bool.not_eq_true, isSurrogate_iff]
  intro hsurrogate
  -- what is not printable was woven in from a name, and names hold no halves
  obtain ⟨name, hname, hx⟩ := exists_name_of_mem_render (woven_lines_of_generate hsound hm) hx
    (by omega)
  have hnot := isSurrogate_of_inIdentifier (inIdentifier_of_isIdentifier (hnames name hname) x hx)
  rw [← Bool.not_eq_true, isSurrogate_iff] at hnot
  exact hnot hsurrogate

theorem map_joined_eq_iff : (cs.map fun c => (c.id, c.url.joined, c.method.joined)) =
    (cs.map fun c => (c.id, c.url, c.method)) ↔ ∀ c ∈ cs, c.IsJoined := by
  have hone : ∀ c : Contract, (c.id, c.url.joined, c.method.joined) = (c.id, c.url, c.method) ↔
      c.IsJoined := by
    intro c
    rw [Prod.mk.injEq, Prod.mk.injEq, joined_eq_self_iff, joined_eq_self_iff]
    exact ⟨fun h => ⟨h.2.1, h.2.2⟩, fun h => ⟨rfl, h.url, h.method⟩⟩
  rw [List.map_inj_left]
  simp only [hone]

/-- **The text of a module of contracts that were read from descriptors is laid out.** The strings
in the factory, read as JSON, are their ids, URLs and methods with the halves of pairs joined. If
the contracts were read from texts without surrogates, there is nothing to join. -/
theorem laidOut_of_generate (registry : Registry) (transport : Text) (workers : ℤ)
    (generatedAt : Timestamp) (cs : List Contract) (m : GeneratedModule)
    (hread : ∀ c ∈ cs, ∃ source j, Contract.ofJson source j = .ok c)
    (hm : (generate registry transport workers generatedAt cs).2 = .ok m) :
    m.LaidOut cs ∧
      ((∀ c ∈ cs, ∃ text source j, text.isScalar = true ∧ Json.read text = .ok j ∧
          Contract.ofJson source j = .ok c) →
        jsonEntries? (m.render.splitAt '\n') =
          some (cs.map fun c => (c.id, c.url, c.method))) := by
  have hsound : ∀ c ∈ cs, c.Sound := by
    intro c hc
    obtain ⟨source, j, hj⟩ := hread c hc
    exact Contract.sound_of_ofJson hj
  have hgathers := gathers_of_generate hsound hm
  have hlines := hgathers.splitAt_render
  have hentries := hgathers.jsonEntries?_render
  have hiff : jsonEntries? (m.render.splitAt '\n') =
      some (cs.map fun c => (c.id, c.url, c.method)) ↔ ∀ c ∈ cs, c.IsJoined := by
    rw [hentries, Option.some.injEq, map_joined_eq_iff]
  have hwoven := woven_lines_of_generate hsound hm
  obtain ⟨ks, hks, hassemble⟩ := exists_of_generate hm
  have hreferences := Compiled.referencesOf_bodies (Compiled.yields_of_batch hks)
  obtain rfl := eq_of_assemble hassemble
  have hlayout : GeneratedModule.LaidOut _ cs := {
    compiled := (Compiled.batch_eq_ok.mp hks).1
    references := hreferences
    lineFeeds := hgathers.countOf_render
    woven := by
      rw [hlines]
      exact List.forall_mem_append.mpr
        ⟨hwoven, List.forall_mem_singleton.mpr (.printable (by decide))⟩
    beyondAscii := fun _ => exists_name_of_mem_render hwoven
    contracts := by rw [hlines, hgathers.recordBlock_contracts]
    bindings := by rw [hlines, hgathers.recordBlock_bindings]
    factory := by rw [hlines, factoryBlock_lines]
    entries := hentries
    entries_eq_iff := hiff }
  refine ⟨hlayout, fun htext => hiff.mpr fun c hc => ?_⟩
  obtain ⟨text, source, j, hscalar, hj, hcontract⟩ := htext c hc
  exact Contract.isJoined_of_read hscalar hj hcontract

/-- The text of a contract whose URL holds a quotation mark, a line feed and a code point that is
escaped in two halves. -/
def quotedText : Text :=
  "\x7b\"id\": \"größe\", \"url\": \"/\\\"\\n\\ud83d\\ude00\", \"method\": \"get \", " ++
    ofString "\"requestBody\": \x7b\"type\": \"reference\", \"id\": \"a b\"\x7d, " ++
    ofString "\"responses\": [\x7b\"code\": 200, \"body\": \x7b\"type\": \"boolean\"\x7d\x7d]\x7d"

/-- The descriptor in that text. -/
def quotedDescriptor : Json := .obj
  [("id", .str "größe"), ("url", .str "/\"\n😀"), ("method", .str "get "),
    ("requestBody", .obj [("type", .str "reference"), ("id", .str "a b")]),
    ("responses", .arr [.obj [("code", .int 200), ("body", .obj [("type", .str "boolean")])]])]

/-- The contract of that descriptor. -/
def quotedContract : Contract :=
  ⟨"größe", "/\"\n😀", "GET", .reference "a b", [⟨200, .boolean⟩]⟩

theorem read_quoted : Json.read quotedText = .ok quotedDescriptor := by decide +kernel

theorem ofJson_quoted : Contract.ofJson none quotedDescriptor = .ok quotedContract := rfl

theorem laidOut_of_generate_quoted :
    (∀ c ∈ [quotedContract], ∃ source j, Contract.ofJson source j = .ok c) ∧
    ∃ m, (generate Registry.builtin "httpx" 1 ⟨2024, 1, 2, 3, 4, 5, 0, some 0⟩
        [quotedContract]).2 = .ok m ∧ m.LaidOut [quotedContract] ∧
      jsonEntries? (m.render.splitAt '\n') =
        some [(quotedContract.id, quotedContract.url, quotedContract.method)] := by
  have hread : ∀ c ∈ [quotedContract], ∃ source j, Contract.ofJson source j = .ok c :=
    List.forall_mem_singleton.mpr ⟨none, quotedDescriptor, ofJson_quoted⟩
  have hsound : ∀ c ∈ [quotedContract], c.Sound :=
    List.forall_mem_singleton.mpr (Contract.sound_of_ofJson ofJson_quoted)
  have hlists : Registry.builtin.lists "httpx" = true := by decide
  obtain ⟨m, hm, -⟩ := generate_of_sound 1 ⟨2024, 1, 2, 3, 4, 5, 0, some 0⟩ hlists hsound
    (by decide) (by decide)
  obtain ⟨hlaid, hexact⟩ := laidOut_of_generate Registry.builtin "httpx" 1
    ⟨2024, 1, 2, 3, 4, 5, 0, some 0⟩ [quotedContract] m hread hm
  refine ⟨hread, m, hm, hlaid, hexact (List.forall_mem_singleton.mpr ?_)⟩
  exact ⟨quotedText, none, quotedDescriptor, by decide +kernel, read_quoted, ofJson_quoted⟩

/-- The text of a contract whose URL holds the two halves of a pair side by side, the first as it
is and the second as an escape. -/
def splitText : Text :=
  "\x7b\"id\": \"getUser\", \"method\": \"GET\", \"url\": \"/" ++
    CodePoint.ofNat 0xD83D :: "\\ude00\", \"requestBody\": \x7b\"type\": \"boolean\"\x7d, " ++
    ofString "\"responses\": [\x7b\"code\": 200, \"body\": \x7b\"type\": \"boolean\"\x7d\x7d]\x7d"

/-- A URL that holds the two halves. -/
def splitUrl : Text := ['/', CodePoint.ofNat 0xD83D, CodePoint.ofNat 0xDE00]

/-- The descriptor in that text. -/
def splitDescriptor : Json := .obj
  [("id", .str "getUser"), ("method", .str "GET"), ("url", .str splitUrl),
    ("requestBody", .obj [("type", .str "boolean")]),
    ("responses", .arr [.obj [("code", .int 200), ("body", .obj [("type", .str "boolean")])]])]

/-- The contract of that descriptor. -/
def splitContract : Contract := ⟨"getUser", splitUrl, "GET", .boolean, [⟨200, .boolean⟩]⟩

/-- Halves of a pair that stand apart in a URL are read from the factory as one code point. -/
theorem entries_split :
    Json.read splitText = .ok splitDescriptor ∧
    Contract.ofJson none splitDescriptor = .ok splitContract ∧
    ∃ m, (generate Registry.builtin "httpx" 1 ⟨2024, 1, 2, 3, 4, 5, 0, some 0⟩
        [splitContract]).2 = .ok m ∧
      jsonEntries? (m.render.splitAt '\n') =
        some [(ofString "getUser", ofString "/😀", ofString "GET")] ∧
      jsonEntries? (m.render.splitAt '\n') ≠
        some [(splitContract.id, splitContract.url, splitContract.method)] := by
  have hcontract : Contract.ofJson none splitDescriptor = .ok splitContract := rfl
  have hsound : ∀ c ∈ [splitContract], c.Sound :=
    List.forall_mem_singleton.mpr (Contract.sound_of_ofJson hcontract)
  have hlists : Registry.builtin.lists "httpx" = true := by decide
  obtain ⟨m, hm, hgathers⟩ := generate_of_sound 1 ⟨2024, 1, 2, 3, 4, 5, 0, some 0⟩ hlists hsound
    (by decide) (by decide)
  have hentries : jsonEntries? (m.render.splitAt '\n') =
      some [(ofString "getUser", ofString "/😀", ofString "GET")] := by
    rw [hgathers.jsonEntries?_render]
    decide
  refine ⟨by decide +kernel, hcontract, m, hm, hentries, ?_⟩
  rw [hentries]
  decide

end GeneratedModule

end CallBindings
