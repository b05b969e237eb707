import CallBindings.Proofs.Module.Agreement
import CallBindings.Proofs.Module.Lines
import CallBindings.Proofs.Text.Split

set_option autoImplicit false

/-! # What is read from the lines of a module

What is read from a line depends on what the line was written for. A factory line gives the entry
of its contract back, each text in the form in which quoting leaves it. The lines in front of the
factory are told from the line that opens it by a number sign, a colon or an equals sign, none of
which it has. A contract is declared by its line in the first record class and by no other line.
-/

namespace CallBindings

open Text

namespace GeneratedModule

variable {m : GeneratedModule} {transport : Text} {cs : List Contract}

/-! ## Entries -/

theorem literalAfter?_quote (before t rest : Text) :
    literalAfter? before (before ++ (t.quote ++ rest)) = some (t.halves, rest) := by
  rw [literalAfter?, dropStart?_append]
  exact Literal.read?_quote t rest

/-- A line of the factory with its literals told apart. -/
theorem factoryLine_eq {c : Contract} {k : Compiled} (h : c.CompilesTo k) :
    factoryLine k = (indent ++ indent) ++ (c.id.quote ++ (ofString ": bind(" ++
      (c.url.quote ++ (ofString ", " ++
        (c.method.quote ++ ofString ", options, transport=TRANSPORT),"))))) := by
  rw [factoryLine, h.binding, h.id, bindingText]
  simp only [List.append_assoc]
  rfl

theorem readEntry?_factoryLine {c : Contract} {k : Compiled} (h : c.CompilesTo k) :
    readEntry? (factoryLine k) = some (entryOf c).halves := by
  unfold readEntry?
  rw [factoryLine_eq h, literalAfter?_quote]
  show (literalAfter? (ofString ": bind(") _ >>= _) = _
  rw [literalAfter?_quote]
  show (literalAfter? (ofString ", ") _ >>= _) = _
  rw [literalAfter?_quote]
  rfl

theorem readEntries?_factoryLines {ks : List Compiled}
    (h : List.Forall₂ Contract.CompilesTo cs ks) :
    readEntries? (ks.map factoryLine) = some (cs.map fun c => (entryOf c).halves) := by
  induction h with
  | nil => rfl
  | cons hck _ ih =>
      rw [List.map_cons, readEntries?, readEntry?_factoryLine hck, ih]
      rfl

/-- The line that opens the entries of the factory. -/
def opening : Text := indent ++ ofString "return \x7b"

/-- The line that closes the entries of the factory. -/
def closing : Text := indent ++ ofString "\x7d"

/-- The lines in front of the one that opens the entries. -/
def preamble (m : GeneratedModule) : List Text :=
  m.headerLines ++ m.referenceLines ++
    m.mapLines "Contracts" "ContractTypes" "Request, success and exception types per contract." ++
    m.mapLines "Bindings" "Binding" "Call bindings returned by create_bindings()." ++
    [[], "def create_bindings(options: DispatchOptions) -> Bindings" ++ m.parameterList "" "" ++
      ofString ":"]

theorem lines_eq (m : GeneratedModule) :
    m.lines = m.preamble ++ opening :: (m.contracts.map factoryLine ++ [closing]) := by
  rw [lines, preamble, factoryLines]
  simp only [List.append_assoc, List.cons_append, List.nil_append]
  rfl

theorem ne_opening {line : Text} {c : CodePoint} (hc : c ∈ line) (hmark : c ∈ ofString "#:=") :
    line ≠ opening := by
  rintro rfl
  have hout : ∀ d ∈ opening, d ∉ ofString "#:=" := by decide
  exact hout c hc hmark

theorem entryLine_eq (wrapper : Text) (k : Compiled) :
    entryLine wrapper k = indent ++ (k.id ++ (ofString ": " ++ (wrapper ++ (ofString "[" ++
      (k.request ++ (ofString ", " ++ (k.success ++ (ofString ", " ++
        (k.exceptions ++ ofString "]"))))))))) := by
  rw [entryLine]
  simp only [List.append_assoc]

theorem ne_opening_of_mem_headerLines : ∀ line ∈ m.headerLines, line ≠ opening := by
  have hgenerated : ofString "# Generated by contractbind at " ++ m.generatedAt.iso ++
      ofString ". Do not edit." ≠ opening :=
    ne_opening (c := CodePoint.ofChar '#') (List.mem_append_left _ (List.mem_append_left _
      (by decide))) (by decide)
  have htransport : ofString "TRANSPORT = " ++ m.transport.quote ≠ opening :=
    ne_opening (c := CodePoint.ofChar '=') (List.mem_append_left _ (by decide)) (by decide)
  exact forall_mem_headerLines hgenerated (by decide) htransport

theorem ne_opening_of_mem_referenceLines : ∀ line ∈ m.referenceLines, line ≠ opening := by
  refine forall_mem_referenceLines (by decide) (fun name _ => ?_) ?_ (by decide)
  · exact ne_opening (c := CodePoint.ofChar '=') (List.mem_append_left _ (List.mem_append_left _
      (List.mem_append_right _ (by decide)))) (by decide)
  · exact ne_opening (c := CodePoint.ofChar ':') (List.mem_append_right _ (by decide)) (by decide)

theorem ne_opening_of_mem_mapLines {name wrapper doc : Text} (hdoc : docLine doc ≠ opening) :
    ∀ line ∈ m.mapLines name wrapper doc, line ≠ opening := by
  have hclass : m.classLine name ≠ opening :=
    ne_opening (c := CodePoint.ofChar ':') (List.mem_append_right _ (by decide)) (by decide)
  refine forall_mem_mapLines (by decide) hclass hdoc
    (forall_mem_recordLines (by decide) fun k _ => ?_)
  refine ne_opening (c := CodePoint.ofChar ':') ?_ (by decide)
  rw [entryLine_eq]
  exact List.mem_append_right _ (List.mem_append_right _ (List.mem_append_left _ (by decide)))

theorem opening_not_mem_preamble : opening ∉ m.preamble := by
  have h : ∀ line ∈ m.preamble, line ≠ opening := by
    rw [preamble]
    refine List.forall_mem_append.mpr ⟨List.forall_mem_append.mpr ⟨List.forall_mem_append.mpr
      ⟨List.forall_mem_append.mpr ⟨ne_opening_of_mem_headerLines,
        ne_opening_of_mem_referenceLines⟩, ne_opening_of_mem_mapLines (by decide)⟩,
        ne_opening_of_mem_mapLines (by decide)⟩, ?_⟩
    simp only [List.forall_mem_cons]
    exact ⟨by decide, ne_opening (c := CodePoint.ofChar ':')
      (List.mem_append_right _ (by decide)) (by decide), by decide⟩
  exact fun hmem => h opening hmem rfl

theorem closing_not_mem_factoryLines (ks : List Compiled) : closing ∉ ks.map factoryLine := by
  intro hmem
  obtain ⟨k, -, hk⟩ := List.mem_map.mp hmem
  have hcolon : CodePoint.ofChar ':' ∈ factoryLine k :=
    List.mem_append_left _ (List.mem_append_left _ (List.mem_append_right _ (by decide)))
  rw [hk] at hcolon
  revert hcolon
  decide

/-- The lines between the one that opens the entries of the factory and the one that closes
them. -/
def factoryBlock (lines : List Text) : List Text :=
  ((lines.dropWhile (· ≠ opening)).drop 1).takeWhile (· ≠ closing)

theorem factoryBlock_lines (m : GeneratedModule) :
    factoryBlock (m.lines ++ [[]]) = m.contracts.map factoryLine := by
  rw [factoryBlock, lines_eq, List.append_assoc, List.cons_append,
    dropWhile_append_cons opening_not_mem_preamble, List.drop_one, List.tail_cons,
    List.append_assoc, List.singleton_append,
    takeWhile_append_cons (closing_not_mem_factoryLines _)]

/-- The entries of the factory are those of the contracts of the module. -/
theorem Gathers.entries? (h : m.Gathers transport cs) :
    entries? (m.lines ++ [[]]) = some (cs.map fun c => (entryOf c).halves) := by
  rw [GeneratedModule.entries?]
  show readEntries? (factoryBlock (m.lines ++ [[]])) = _
  rw [factoryBlock_lines, readEntries?_factoryLines h.contracts]

/-! ## The transport -/

theorem transport?_cons (line : Text) (lines : List Text) : transport? (line :: lines) =
    ((literalAfter? (ofString "TRANSPORT = ") line).map (·.1)).or (transport? lines) := by
  rw [GeneratedModule.transport?, List.findSome?_cons]
  cases literalAfter? (ofString "TRANSPORT = ") line <;> rfl

theorem transport?_cons_of_none {line : Text}
    (h : literalAfter? (ofString "TRANSPORT = ") line = none) (lines : List Text) :
    transport? (line :: lines) = transport? lines := by
  rw [transport?_cons, h]
  rfl

/-- The transport of a module is found in its header. -/
theorem transport?_headerLines (m : GeneratedModule) (lines : List Text) :
    transport? (m.headerLines ++ lines) = some m.transport.halves := by
  have hread : literalAfter? (ofString "TRANSPORT = ") (ofString "TRANSPORT = " ++
      m.transport.quote) = some (m.transport.halves, []) := by
    have h := literalAfter?_quote (ofString "TRANSPORT = ") m.transport []
    rwa [List.append_nil] at h
  rw [headerLines]
  simp only [List.cons_append, List.nil_append]
  iterate 9 rw [transport?_cons_of_none rfl]
  rw [transport?_cons]
  show ((literalAfter? (ofString "TRANSPORT = ") (ofString "TRANSPORT = " ++
    m.transport.quote)).map (·.1)).or _ = _
  rw [hread]
  rfl

theorem Gathers.transport? (h : m.Gathers transport cs) :
    transport? (m.lines ++ [[]]) = some transport.halves := by
  rw [lines]
  simp only [List.append_assoc]
  rw [transport?_headerLines, h.transport]

/-! ## Declared contracts -/

/-- A text in front of a colon is declared exactly if the types of a contract follow. -/
theorem declared?_colon {w : Text} (hw : CodePoint.ofChar ':' ∉ w) (rest : Text) :
    declared? (indent ++ (w ++ (ofString ": " ++ rest))) =
      (dropStart? rest (ofString "ContractTypes[")).map fun _ => w := by
  have htake : (w ++ (ofString ": " ++ rest)).takeWhile (· ≠ CodePoint.ofChar ':') = w :=
    takeWhile_append_cons hw _
  have hdrop : dropStart? (w ++ (ofString ": " ++ rest)) (w ++ ofString ": ContractTypes[") =
      dropStart? rest (ofString "ContractTypes[") := by
    rw [dropStart?_append_append]
    exact dropStart?_append_append (ofString ": ") rest (ofString "ContractTypes[")
  rw [declared?, dropStart?_append]
  show (dropStart? (w ++ (ofString ": " ++ rest))
    ((w ++ (ofString ": " ++ rest)).takeWhile (· ≠ CodePoint.ofChar ':') ++
      ofString ": ContractTypes[") >>= fun _ =>
    some ((w ++ (ofString ": " ++ rest)).takeWhile (· ≠ CodePoint.ofChar ':'))) = _
  rw [htake, hdrop]
  cases dropStart? rest (ofString "ContractTypes[") <;> rfl

theorem colon_not_mem_id {c : Contract} {k : Compiled} (h : c.CompilesTo k) :
    CodePoint.ofChar ':' ∉ k.id :=
  not_mem_of_isIdentifier h.isIdentifier (CodePoint.inIdentifier_of_ascii (by decide))

theorem declared?_entryLine {c : Contract} {k : Compiled} (h : c.CompilesTo k) (wrapper : Text)  :
    declared? (entryLine wrapper k) = (dropStart? (wrapper ++ (ofString "[" ++
      (k.request ++ (ofString ", " ++ (k.success ++ (ofString ", " ++
        (k.exceptions ++ ofString "]")))))))
      (ofString "ContractTypes[")).map fun _ => k.id := by
  rw [entryLine_eq, declared?_colon (colon_not_mem_id h)]

theorem declared?_factoryLine {c : Contract} {k : Compiled} (h : c.CompilesTo k) :
    declared? (factoryLine k) = none := by
  have hcolon : CodePoint.ofChar ':' ∉ indent ++ k.id.quote := by
    intro hmem
    rcases List.mem_append.mp hmem with hmem | hmem
    · revert hmem
      decide
    · exact colon_not_mem_id h (mem_of_mem_quote hmem (by decide))
  have hline : factoryLine k = indent ++ ((indent ++ k.id.quote) ++ (ofString ": " ++
      (k.binding ++ ofString ","))) := by
    rw [factoryLine]
    simp only [List.append_assoc]
  rw [hline, declared?_colon hcolon, h.binding]
  rfl

theorem declared?_parameterLine {name : Text} (h : name.isIdentifier = true) :
    declared? (parameterLine name) = none := by
  have hblank : CodePoint.ofChar ' ' ∉ name :=
    not_mem_of_isIdentifier h (CodePoint.inIdentifier_of_ascii (by decide))
  have hdrop : dropStart? (parameterLine name) indent = none := by
    cases name with
    | nil => rfl
    | cons c t => exact if_neg (List.ne_of_not_mem_cons hblank)
  rw [declared?, hdrop]
  rfl

theorem declared?_headerLines (m : GeneratedModule) :
    ∀ line ∈ m.headerLines, declared? line = none :=
  forall_mem_headerLines rfl (by decide) rfl

theorem Gathers.declared?_referenceLines (h : m.Gathers transport cs) :
    ∀ line ∈ m.referenceLines, declared? line = none :=
  forall_mem_referenceLines rfl
    (fun _ hname => declared?_parameterLine (h.isIdentifier hname)) rfl rfl

theorem Gathers.declared?_factoryLines (h : m.Gathers transport cs) :
    ∀ line ∈ m.factoryLines, declared? line = none := by
  refine forall_mem_factoryLines rfl rfl rfl (fun k hk => ?_) rfl
  obtain ⟨c, -, hck⟩ := h.compilesTo hk
  exact declared?_factoryLine hck

/-- The lines of a record class declare what its entries declare. -/
theorem filterMap_declared?_mapLines {name wrapper doc : Text}
    (hdoc : declared? (docLine doc) = none) :
    (m.mapLines name wrapper doc).filterMap declared? =
      m.contracts.filterMap fun k => declared? (entryLine wrapper k) := by
  have hentries : (m.recordLines wrapper).filterMap declared? =
      m.contracts.filterMap fun k => declared? (entryLine wrapper k) := by
    rw [recordLines]
    split
    · rename_i hempty
      rw [List.isEmpty_iff.mp hempty]
      rfl
    · rw [List.filterMap_map]
      rfl
  have hclass : declared? (m.classLine name) = none := rfl
  have hblank : declared? [] = none := rfl
  rw [mapLines_eq, List.filterMap_cons_none hblank, List.filterMap_cons_none hclass,
    List.filterMap_cons_none hdoc, List.filterMap_cons_none hblank, List.filterMap_append, hentries,
    List.filterMap_cons_none hblank, List.filterMap_nil, List.append_nil]

/-- A module declares its contracts, in their order. -/
theorem Gathers.filterMap_declared? (h : m.Gathers transport cs) :
    m.lines.filterMap declared? = m.contracts.map (·.id) := by
  have hcontracts : m.contracts.filterMap (fun k => declared? (entryLine "ContractTypes" k)) =
      m.contracts.map (·.id) := by
    have hone : ∀ k ∈ m.contracts, declared? (entryLine "ContractTypes" k) = some k.id := by
      intro k hk
      obtain ⟨c, -, hck⟩ := h.compilesTo hk
      rw [declared?_entryLine hck]
      show Option.map _ (dropStart? (ofString "ContractTypes[" ++ _) _) = _
      rw [dropStart?_append]
      rfl
    rw [List.filterMap_congr hone]
    exact congrFun List.filterMap_eq_map' m.contracts
  have hbindings : m.contracts.filterMap (fun k => declared? (entryLine "Binding" k)) = [] := by
    rw [List.filterMap_eq_nil_iff]
    intro k hk
    obtain ⟨c, -, hck⟩ := h.compilesTo hk
    rw [declared?_entryLine hck]
    rfl
  rw [lines, List.filterMap_append, List.filterMap_append, List.filterMap_append,
    List.filterMap_append, List.filterMap_eq_nil_iff.mpr (declared?_headerLines m),
    List.filterMap_eq_nil_iff.mpr h.declared?_referenceLines,
    List.filterMap_eq_nil_iff.mpr h.declared?_factoryLines,
    filterMap_declared?_mapLines (by decide), filterMap_declared?_mapLines (by decide),
    hcontracts, hbindings]
  simp

/-! ## The module as a whole -/

theorem unreadable?_eq_none_iff {lines : List Text} : unreadable? lines = none ↔
    (∀ line ∈ lines, Nesting.ofLine line ≤ nestingLimit) ∧
      ∀ name ∈ lines.filterMap declared?, name.normalize ≠ unassignableName := by
  have hnested : (lines.findIdx? fun line => nestingLimit < Nesting.ofLine line) = none ↔
      ∀ line ∈ lines, Nesting.ofLine line ≤ nestingLimit := by
    simp [List.findIdx?_eq_none_iff]
  have hassigned : (lines.findIdx? fun line =>
      (declared? line).any fun name => name.normalize = unassignableName) = none ↔
      ∀ name ∈ lines.filterMap declared?, name.normalize ≠ unassignableName := by
    simp only [List.findIdx?_eq_none_iff, List.mem_filterMap, forall_exists_index, and_imp]
    constructor
    · intro h name line hline hname heq
      have hone := h line hline
      rw [hname] at hone
      simp [heq] at hone
    · intro h line hline
      cases hname : declared? line with
      | none => rfl
      | some name => simp [h name line hline hname]
  -- the nesting is looked at before the names, and the cases split in this order
  rw [unreadable?]
  split
  · rename_i i hi
    refine ⟨fun h => absurd h (by simp), ?_⟩
    rintro ⟨h, -⟩
    rw [hnested.mpr h] at hi
    cases hi
  · rename_i hi
    split
    · rename_i j hj
      refine ⟨fun h => absurd h (by simp), ?_⟩
      rintro ⟨-, h⟩
      rw [hassigned.mpr h] at hj
      cases hj
    · rename_i hj
      exact ⟨fun _ => ⟨hnested.mp hi, hassigned.mp hj⟩, fun _ => rfl⟩

theorem ne_bind_of_unreadable? {lines : List Text} {e : RunError}
    (h : unreadable? lines = some e) : ∀ b, e ≠ .bind b := by
  rw [unreadable?] at h
  split at h
  · cases h
    simp
  · split at h
    · cases h
      simp
    · cases h

end GeneratedModule

end CallBindings
