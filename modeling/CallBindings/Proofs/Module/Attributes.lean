import CallBindings.Proofs.Module.Declared

set_option autoImplicit false

/-! # The entries of the record classes

A record class has a line for each contract, with the id of the contract as the name of an entry.
Its readers take that name by its composed form, and of the lines with one name only the last
counts. The factory has the id of the contract as a key between quotes. So ids are compared as they
are spelled when contracts are compiled, by their composed forms in the record classes, and as
quoting leaves them in the factory; the three agree on ids that keep their spelling in both.
-/

namespace CallBindings

open Text

namespace GeneratedModule

variable {m : GeneratedModule} {transport : Text} {cs : List Contract}

/-! ## Entries of a class -/

/-- How the record classes begin, and what the types of their entries begin with. -/
def recordClasses : List (Text × Text) :=
  [(ofString "class Contracts(", ofString "ContractTypes"),
    (ofString "class Bindings(", ofString "Binding")]

/-- The entry that a line of a class declares, as its readers take it: name and type. -/
def field? (line : Text) : Option (Text × Text) :=
  match line.dropStart? indent with
  | none => none
  | some rest =>
    if CodePoint.ofChar ':' ∈ rest then
      some (normalize (rest.takeWhile (· ≠ CodePoint.ofChar ':')),
        (rest.dropWhile (· ≠ CodePoint.ofChar ':')).drop 2)
    else none

/-- The entries that the lines of a record class declare one after another. -/
def fields (heading : Text) (lines : List Text) : List (Text × Text) :=
  (recordBlock heading lines).filterMap field?

/-- The entries that a record class has. -/
def record (heading : Text) (lines : List Text) : List (Text × Text) :=
  assignAll [] (fields heading lines)

/-- The type in the line of a contract in a record class. -/
def fieldType (wrapper : Text) (k : Compiled) : Text :=
  wrapper ++ ofString "[" ++ k.request ++ ofString ", " ++ k.success ++ ofString ", " ++
    k.exceptions ++ ofString "]"

theorem field?_entryLine {c : Contract} {k : Compiled} (h : c.CompilesTo k) (wrapper : Text) :
    field? (entryLine wrapper k) = some (c.id.normalize, fieldType wrapper k) := by
  have hline : entryLine wrapper k = indent ++ (k.id ++ CodePoint.ofChar ':' ::
      (CodePoint.ofChar ' ' :: fieldType wrapper k)) := by
    rw [entryLine, fieldType]
    simp only [List.append_assoc]
    rfl
  have hcolon := colon_not_mem_id h
  rw [field?, hline, dropStart?_append]
  simp only
  rw [if_pos (List.mem_append_right _ List.mem_cons_self), takeWhile_append_cons hcolon,
    dropWhile_append_cons hcolon, h.id]
  rfl

theorem filterMap_field?_entryLines {ks : List Compiled} (wrapper : Text)
    (h : List.Forall₂ Contract.CompilesTo cs ks) :
    (ks.map (entryLine wrapper)).filterMap field? =
      ks.map fun k => (k.id.normalize, fieldType wrapper k) := by
  induction h with
  | nil => rfl
  | cons hck _ ih =>
      rw [List.map_cons, List.filterMap_cons_some (field?_entryLine hck wrapper), ih, List.map_cons,
        hck.id]

/-- The lines of a record class declare one entry for each contract. -/
theorem Gathers.filterMap_recordLines (h : m.Gathers transport cs) (wrapper : Text) :
    (m.recordLines wrapper).filterMap field? =
      m.contracts.map fun k => (k.id.normalize, fieldType wrapper k) := by
  rw [recordLines]
  split
  · rename_i hempty
    rw [List.isEmpty_iff.mp hempty]
    rfl
  · exact filterMap_field?_entryLines wrapper h.contracts

theorem Gathers.fields (h : m.Gathers transport cs) :
    ∀ cls ∈ recordClasses, fields cls.1 (m.lines ++ [[]]) =
      m.contracts.map fun k => (k.id.normalize, fieldType cls.2 k) := by
  simp only [recordClasses, List.forall_mem_cons, GeneratedModule.fields]
  refine ⟨?_, ?_, by simp⟩
  · rw [h.recordBlock_contracts, h.filterMap_recordLines]
  · rw [h.recordBlock_bindings, h.filterMap_recordLines]

theorem Gathers.map_fst_fields (h : m.Gathers transport cs) {cls : Text × Text}
    (hcls : cls ∈ recordClasses) :
    (GeneratedModule.fields cls.1 (m.lines ++ [[]])).map Prod.fst = cs.map (·.id.normalize) := by
  have hids := Compiled.map_id_of_forall₂ h.contracts Contract.CompilesTo.id
  rw [h.fields cls hcls, List.map_map]
  calc m.contracts.map (Prod.fst ∘ fun k => (k.id.normalize, fieldType cls.2 k))
      = (m.contracts.map (·.id)).map normalize := by
        rw [List.map_map]
        rfl
    _ = cs.map (·.id.normalize) := by
        rw [hids, List.map_map]
        rfl

/-- The entries of a class have the names of its lines without repeats. -/
theorem map_fst_record (heading : Text) (lines : List Text) :
    (record heading lines).map Prod.fst = distinct ((fields heading lines).map Prod.fst) := by
  have hnone : (([] : List (Text × Text)).map Prod.fst).Nodup := List.nodup_nil
  exact map_fst_assignAll hnone (fields heading lines)

/-- A class has an entry for each of its lines exactly if their names are different. -/
theorem record_eq_fields_iff (heading : Text) (lines : List Text) :
    record heading lines = fields heading lines ↔ ((fields heading lines).map Prod.fst).Nodup := by
  constructor
  · intro h
    rw [← h, map_fst_record]
    exact nodup_distinct _
  · intro h
    exact assignAll_of_nodup (by simpa using h)

/-! ## Keys of the factory -/

/-- The keys of the factory of a module, given by its lines. -/
def keys? (lines : List Text) : Option (List Text) := (entries? lines).map (·.map (·.key))

theorem Gathers.keys? (h : m.Gathers transport cs) :
    keys? (m.lines ++ [[]]) = some (cs.map (·.id.halves)) := by
  rw [GeneratedModule.keys?, h.entries?, Option.map_some, List.map_map]
  rfl

/-- Quoting keeps different ids apart. -/
theorem nodup_halves {ids : List Text} (hids : ids.Nodup)
    (hident : ∀ id ∈ ids, id.isIdentifier = true) : (ids.map halves).Nodup :=
  hids.map_on fun a ha b hb => halves_injective (isScalar_of_isIdentifier (hident a ha))
    (isScalar_of_isIdentifier (hident b hb))

/-! ## The three of them -/

/-- What a module has the ids of its contracts for. -/
structure NamesEntries (m : GeneratedModule) (cs : List Contract) : Prop where
  /-- The ids differ in their spelling. -/
  idsNodup : (cs.map (·.id)).Nodup
  /-- The lines of each record class have the types of the contracts, in their order, -/
  fields : ∀ cls ∈ recordClasses, fields cls.1 (m.render.splitAt '\n') =
    m.contracts.map fun k => (k.id.normalize, fieldType cls.2 k)
  /-- named by the composed forms of the ids. -/
  names : ∀ cls ∈ recordClasses,
    (GeneratedModule.fields cls.1 (m.render.splitAt '\n')).map Prod.fst = cs.map (·.id.normalize)
  /-- A class has an entry for each contract exactly if no two ids have one composed form. -/
  record_iff : ∀ cls ∈ recordClasses,
    record cls.1 (m.render.splitAt '\n') = GeneratedModule.fields cls.1 (m.render.splitAt '\n') ↔
      ∀ a ∈ cs, ∀ b ∈ cs, a.id ≠ b.id → a.id.normalize ≠ b.id.normalize
  /-- The factory has the ids as they come through quoting for keys, -/
  keys : keys? (m.render.splitAt '\n') = some (cs.map (·.id.halves))
  /-- all of them different. -/
  keysNodup : (cs.map (·.id.halves)).Nodup
  /-- The names in the record classes are the ids exactly if each id keeps its spelling, -/
  names_eq_ids_iff : (∀ cls ∈ recordClasses,
    (GeneratedModule.fields cls.1 (m.render.splitAt '\n')).map Prod.fst = cs.map (·.id)) ↔
      ∀ c ∈ cs, c.id.isStableIdentifier = true
  /-- and the keys of the factory are the ids exactly if no id has anything beyond `0xFFFF`. -/
  keys_eq_ids_iff : keys? (m.render.splitAt '\n') = some (cs.map (·.id)) ↔
    ∀ c ∈ cs, c.id.isBasic = true
  /-- If each id keeps its spelling, a class has one entry for each contract, under its id. -/
  entries : (∀ c ∈ cs, c.id.isStableIdentifier = true) → ∀ cls ∈ recordClasses,
    record cls.1 (m.render.splitAt '\n') = m.contracts.map fun k => (k.id, fieldType cls.2 k)

/-- An identifier keeps its spelling exactly if it is composed. -/
theorem isStableIdentifier_iff {id : Text} (h : id.isIdentifier = true) :
    id.isStableIdentifier = true ↔ id.normalize = id := by
  rw [isStableIdentifier, h, Bool.true_and, decide_eq_true_eq]

theorem Gathers.isIdentifier_id (h : m.Gathers transport cs) :
    ∀ id ∈ cs.map (·.id), id.isIdentifier = true := by
  intro id hid
  rw [← Compiled.map_id_of_forall₂ h.contracts Contract.CompilesTo.id] at hid
  obtain ⟨k, hk, rfl⟩ := List.mem_map.mp hid
  obtain ⟨c, -, hck⟩ := h.compilesTo hk
  exact hck.isIdentifier

/-- The composed forms of the ids are the ids exactly if each id keeps its spelling. -/
theorem Gathers.map_normalize_eq_iff (h : m.Gathers transport cs) :
    cs.map (·.id.normalize) = cs.map (·.id) ↔ ∀ c ∈ cs, c.id.isStableIdentifier = true := by
  rw [List.map_inj_left]
  exact forall₂_congr fun c hc =>
    (isStableIdentifier_iff (h.isIdentifier_id c.id (List.mem_map_of_mem hc))).symm

/-- A class has an entry for each contract exactly if the composed forms of the ids differ. -/
theorem Gathers.record_eq_fields_iff (h : m.Gathers transport cs) {cls : Text × Text}
    (hcls : cls ∈ recordClasses) :
    record cls.1 (m.lines ++ [[]]) = GeneratedModule.fields cls.1 (m.lines ++ [[]]) ↔
      (cs.map (·.id.normalize)).Nodup := by
  rw [GeneratedModule.record_eq_fields_iff, h.map_fst_fields hcls]

theorem Gathers.namesEntries (h : m.Gathers transport cs) (hids : (cs.map (·.id)).Nodup) :
    m.NamesEntries cs := by
  have hlines := h.splitAt_render
  have hnormalize : cs.map (·.id.normalize) = (cs.map (·.id)).map normalize := by
    rw [List.map_map]
    rfl
  have hhalves : cs.map (·.id.halves) = (cs.map (·.id)).map halves := by
    rw [List.map_map]
    rfl
  exact {
    idsNodup := hids
    fields := fun cls hcls => by rw [hlines, h.fields cls hcls]
    names := fun cls hcls => by rw [hlines, h.map_fst_fields hcls]
    record_iff := fun cls hcls => by
      rw [hlines, h.record_eq_fields_iff hcls, hnormalize, nodup_map_iff hids]
      simp only [List.forall_mem_map]
    keys := by rw [hlines, h.keys?]
    keysNodup := hhalves ▸ nodup_halves hids h.isIdentifier_id
    names_eq_ids_iff := by
      rw [← h.map_normalize_eq_iff, hlines]
      constructor
      · intro hall
        have hfirst : (ofString "class Contracts(", ofString "ContractTypes") ∈ recordClasses :=
          List.mem_cons_self
        rw [← h.map_fst_fields hfirst]
        exact hall _ hfirst
      · intro heq cls hcls
        rw [h.map_fst_fields hcls, heq]
    keys_eq_ids_iff := by
      rw [hlines, h.keys?, Option.some.injEq, List.map_inj_left]
      simp only [halves_eq_self_iff]
    entries := by
      intro hall cls hcls
      -- then composing changes no name, so that no two lines have the same one
      have hsame : ∀ k ∈ m.contracts, k.id.normalize = k.id := by
        intro k hk
        obtain ⟨c, hc, hck⟩ := h.compilesTo hk
        rw [hck.id]
        exact (isStableIdentifier_iff (hck.id ▸ hck.isIdentifier)).mp (hall c hc)
      have hnodup : (cs.map (·.id.normalize)).Nodup := by
        rwa [h.map_normalize_eq_iff.mpr hall]
      rw [hlines, (h.record_eq_fields_iff hcls).mpr hnodup, h.fields cls hcls]
      exact List.map_congr_left fun k hk => by rw [hsame k hk] }

/-- **What the ids of a batch are in its module.** The lines of both record classes are named by
their composed forms and the keys of the factory are what quoting leaves of them. So the classes
have one entry for each contract exactly if the composed forms differ, and names and keys are the
ids exactly if each id is its own composed form and has no code point beyond `0xFFFF`. -/
theorem namesEntries_of_assemble (registry : Registry) (transport : Text) (workers : ℤ)
    (generatedAt : Timestamp) (cs : List Contract) (ks : List Compiled)
    (hbatch : (Compiled.batch workers cs).2 = .ok ks) (hlists : registry.lists transport = true) :
    ∃ m, assemble registry transport generatedAt ks = .ok m ∧ m.NamesEntries cs := by
  obtain ⟨m, hm, hgathers⟩ := exists_assemble generatedAt hbatch hlists
  have hids := (Compiled.batch_eq_ok.mp hbatch).2
  rw [Compiled.map_id_of_forall₂ (Compiled.yields_of_batch hbatch) Contract.Yields.id] at hids
  exact ⟨m, hm, hgathers.namesEntries hids⟩

theorem namesEntries_of_assemble_orders : ∃ ks m,
    (Compiled.batch 1 [orderContract, refundContract]).2 = .ok ks ∧
    Registry.builtin.lists "httpx" = true ∧
    assemble Registry.builtin "httpx" ⟨2024, 1, 2, 3, 4, 5, 0, some 0⟩ ks = .ok m ∧
    m.NamesEntries [orderContract, refundContract] := by
  obtain ⟨ks, hks⟩ := batch_orders
  have hlists : Registry.builtin.lists "httpx" = true := by decide
  obtain ⟨m, hm, hnames⟩ := namesEntries_of_assemble Registry.builtin "httpx" 1
    ⟨2024, 1, 2, 3, 4, 5, 0, some 0⟩ [orderContract, refundContract] ks hks hlists
  exact ⟨ks, m, hks, hlists, hm, hnames⟩

/-! ## Ids with one composed form -/

/-- A contract with the given id, for ids that are spelled differently. -/
def spelledContract (id : Text) : Contract := ⟨id, "/x", "GET", .boolean, [⟨200, .boolean⟩]⟩

theorem normalize_ligature : (ofString "ﬁ").normalize = ofString "fi" := by decide +kernel

/-- A batch of both spellings is accepted. Its record classes have one entry, which is not named by
the first id, while the factory has both ids as keys. -/
theorem fields_ligature : ∃ ks m,
    (Compiled.batch 1 [spelledContract "ﬁ", spelledContract "fi"]).2 = .ok ks ∧
    assemble Registry.builtin "httpx" ⟨2024, 1, 2, 3, 4, 5, 0, some 0⟩ ks = .ok m ∧
    keys? (m.render.splitAt '\n') = some [ofString "ﬁ", ofString "fi"] ∧
    ∀ cls ∈ recordClasses,
      (fields cls.1 (m.render.splitAt '\n')).map Prod.fst = [ofString "fi", ofString "fi"] ∧
      (record cls.1 (m.render.splitAt '\n')).map Prod.fst = [ofString "fi"] := by
  have hids : ([spelledContract "ﬁ", spelledContract "fi"].map (·.id)).Nodup := by decide
  have hcompile : ∀ c ∈ [spelledContract "ﬁ", spelledContract "fi"], ∃ k, c.compile = .ok k := by
    simp only [List.forall_mem_cons]
    refine ⟨?_, ?_, by simp⟩
    · have hid : (spelledContract "ﬁ").id.isContractId = true := by decide +kernel
      exact ⟨_, by rw [Contract.compile, hid]; rfl⟩
    · have hid : (spelledContract "fi").id.isContractId = true := by decide +kernel
      exact ⟨_, by rw [Contract.compile, hid]; rfl⟩
  obtain ⟨ks, hbatch⟩ := Compiled.exists_batch 1 hcompile hids
  have hlists : Registry.builtin.lists "httpx" = true := by decide
  obtain ⟨m, hm, hgathers⟩ := exists_assemble ⟨2024, 1, 2, 3, 4, 5, 0, some 0⟩ hbatch hlists
  have hnames := hgathers.namesEntries hids
  have hletters : (ofString "fi").normalize = ofString "fi" := by decide +kernel
  have hfields : ∀ cls ∈ recordClasses, (fields cls.1 (m.render.splitAt '\n')).map Prod.fst =
      [ofString "fi", ofString "fi"] := by
    intro cls hcls
    rw [hnames.names cls hcls]
    show [(ofString "ﬁ").normalize, (ofString "fi").normalize] = _
    rw [normalize_ligature, hletters]
  refine ⟨ks, m, hbatch, hm, hnames.keys_eq_ids_iff.mpr (by decide), fun cls hcls =>
    ⟨hfields cls hcls, ?_⟩⟩
  rw [map_fst_record, hfields cls hcls]
  decide

end GeneratedModule

end CallBindings
