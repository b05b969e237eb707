import CallBindings.Proofs.Shape.Grammar

set_option autoImplicit false

/-! # Where a descriptor is at fault

What a descriptor with a tag needs is written down as a table. A value is gone through as the table
lists its parts, and a part that is a descriptor itself is gone through before the next one. The
error of reading is that of the first offence on this way; which error an offence is depends on
what was offended against and on nothing else.
-/

namespace CallBindings.Shape

/-! ## What descriptors need -/

/-- What a part of a descriptor has to be. -/
inductive Need where
  /-- A list of literals, unless it is absent or null. -/
  | literals (allowed : Json → Bool)
  /-- A text, unless it is absent or null. -/
  | text
  /-- A descriptor. -/
  | shape
  /-- A list of descriptors. -/
  | shapes
  /-- A list of fields. -/
  | fields
  /-- A text that is not empty. -/
  | id
  /-- One of the special kinds. -/
  | kind

/-- For each tag the parts of a descriptor with that tag, in the order in which they are read. -/
def needs : List (Text × List (Text × Need)) :=
  [("boolean", []),
    ("number", [("enum", .literals isNumberLiteral)]),
    ("string", [("enum", .literals isStringLiteral), ("format", .text)]),
    ("array", [("element", .shape)]),
    ("tuple", [("elements", .shapes)]),
    ("dictionary", [("fields", .fields)]),
    ("map", [("key", .shape), ("value", .shape)]),
    ("union", [("variants", .shapes)]),
    ("reference", [("id", .id)]),
    ("special", [("kind", .kind)])]

/-- What can be wrong about a value that should be a descriptor. -/
inductive Offence where
  /-- The tag is missing, is no text or is unknown. -/
  | tag (found : Option Json)
  /-- The kind of a special descriptor is none of the special ones. -/
  | kind (found : Json)
  /-- The structure is not that of a descriptor with the tag. -/
  | structure (fault : DescriptorFault)

/-- The error of an offence in a descriptor from `source`. -/
def Offence.error (source : Option Text) : Offence → GenerationError
  | .tag none => .unsupportedVariant Json.null.shown
  | .tag (some (.str t)) => .unsupportedVariant t
  | .tag (some j) => .unsupportedVariant j.shown
  | .kind j => .unsupportedVariant ("special:" ++ j.plain)
  | .structure fault => .invalidDescriptor fault source

/-! ## The way through a descriptor -/

/-- The way through a part that should be a descriptor. -/
def shapeSteps (owner part : Text) : Option Json → List (Step Offence Json)
  | none => [.fault (.structure (.missingPart owner part))]
  | some j => [.visit j]

/-- The name of a field, if it has one. -/
def fieldName? : Json → Option Text
  | .obj entry =>
    match lookup? "name" entry with
    | some (.str name) => some name
    | _ => none
  | _ => none

/-- The way through a field that comes after the fields in `before`: it has to be an object with a
name, one that none of them has, and with a descriptor. -/
def fieldSteps (before : List Json) : Json → List (Step Offence Json)
  | .obj entry =>
    match lookup? "name" entry with
    | some (.str name) =>
      (if name ∈ before.filterMap fieldName? then [.fault (.structure (.fieldRepeated name))]
        else []) ++
        shapeSteps "dictionary field" "model" (lookup? "model" entry)
    | _ => [.fault (.structure (.fieldUnnamed before.length))]
  | _ => [.fault (.structure (.fieldNotObject before.length))]

/-- The way through a list of fields that come after the fields in `before`. -/
def fieldsSteps (before : List Json) : List Json → List (Step Offence Json)
  | [] => []
  | field :: rest => fieldSteps before field ++ fieldsSteps (before ++ [field]) rest

/-- The way through a part of a descriptor, given what it needs to be and what it is. -/
def Need.steps (owner part : Text) : Need → Option Json → List (Step Offence Json)
  | .literals _, none => []
  | .literals _, some .null => []
  | .literals allowed, some (.arr items) =>
    (items.filter fun j => !allowed j).map fun j => .fault (.structure (.badChoice j owner))
  | .literals _, some _ => [.fault (.structure (.choicesNotList owner))]
  | .text, none => []
  | .text, some .null => []
  | .text, some (.str _) => []
  | .text, some _ => [.fault (.structure .formatNotText)]
  | .shape, found => shapeSteps owner part found
  | .shapes, some (.arr items) => items.map .visit
  | .fields, some (.arr items) => fieldsSteps [] items
  | .id, some (.str (_ :: _)) => []
  | .id, some _ => [.fault (.structure .badReference)]
  | .kind, some (.str t) => if t ∈ specialKinds then [] else [.fault (.kind (.str t))]
  | .kind, some j => [.fault (.kind j)]
  | _, none => [.fault (.structure (.missingPart owner part))]
  | _, some _ => [.fault (.structure (.partNotList owner part))]

/-- The way through a value that should be a descriptor. -/
def steps : Json → List (Step Offence Json)
  | .obj members =>
    match lookup? "type" members with
    | some (.str tag) =>
      match lookup? tag needs with
      | some parts => parts.flatMap fun p => p.2.steps tag p.1 (lookup? p.1 members)
      | none => [.fault (.tag (some (.str tag)))]
    | found => [.fault (.tag found)]
  | j => [.fault (.structure (.shapeNotObject j.kind))]

/-! ## One part at a time -/

section Parts

variable {source : Option Text} {owner part : Text} {members : List (Text × Json)}

/-- Reading a value goes through it step by step. -/
def IsReadInSteps (source : Option Text) (j : Json) : Prop :=
  Reports steps (Offence.error source) (steps j) (ofJson source j)

theorem reports_readChoices (allowed : Json → Bool) :
    Reports steps (Offence.error source)
      ((Need.literals allowed).steps owner "enum" (lookup? "enum" members))
      (readChoices allowed owner source members) := by
  unfold readChoices
  cases lookup? "enum" members with
  | none => exact faultless_nil
  | some j =>
      cases j with
      | null => exact faultless_nil
      | arr items =>
          rw [Need.steps]
          cases hfind : items.find? fun j => !allowed j with
          | none =>
              have hnone : (items.filter fun j => !allowed j) = [] :=
                List.filter_eq_nil_iff.mpr (List.find?_eq_none.mp hfind)
              simp only [hfind, hnone]
              exact faultless_nil
          | some bad =>
              -- the first bad literal is the head of all bad ones
              have hhead : (items.filter fun j => !allowed j).head? = some bad := by
                rw [List.head?_filter, hfind]
              obtain ⟨more, hmore⟩ := List.head?_eq_some_iff.mp hhead
              simp only [hfind, hmore]
              exact reports_fault _
      | _ => exact reports_fault _

theorem reports_readFormat :
    Reports steps (Offence.error source) (Need.text.steps owner "format" (lookup? "format" members))
      (readFormat source members) := by
  unfold readFormat
  cases lookup? "format" members with
  | none => exact faultless_nil
  | some j =>
      cases j with
      | null => exact faultless_nil
      | str t => exact faultless_nil
      | _ => exact reports_fault _

theorem reports_readReference :
    Reports steps (Offence.error source) (Need.id.steps "reference" "id" (lookup? "id" members))
      (readReference source members) := by
  unfold readReference
  cases lookup? "id" members with
  | none => exact reports_fault _
  | some j =>
      cases j with
      | str id =>
          cases id with
          | nil => exact reports_fault _
          | cons c id => exact faultless_nil
      | _ => exact reports_fault _

theorem reports_readSpecial :
    Reports steps (Offence.error source) (Need.kind.steps "special" "kind" (lookup? "kind" members))
      (readSpecial source members) := by
  unfold readSpecial
  cases lookup? "kind" members with
  | none => exact reports_fault _
  | some j =>
      cases j with
      | str kind =>
          rw [Need.steps]
          by_cases hkind : kind ∈ specialKinds
          · simp only [List.contains_iff_mem, if_pos hkind]
            exact faultless_nil
          · simp only [List.contains_iff_mem, if_neg hkind]
            exact reports_fault (Offence.kind (.str kind))
      | _ => exact reports_fault (Offence.kind _)

theorem reports_ofPart (h : ∀ j, lookup? part members = some j → IsReadInSteps source j) :
    Reports steps (Offence.error source) (Need.shape.steps owner part (lookup? part members))
      (ofPart source owner part members) := by
  rw [ofPart_eq]
  cases hpart : lookup? part members with
  | none => exact reports_fault _
  | some j => exact (h j hpart).visit

theorem reports_ofItems {items : List Json} (h : ∀ j ∈ items, IsReadInSteps source j) :
    Reports steps (Offence.error source) (items.map .visit) (ofItems source items) := by
  induction items with
  | nil => exact faultless_nil
  | cons j items ih =>
      have hitems := ih fun k hk => h k (List.mem_cons_of_mem j hk)
      rw [ofItems]
      exact (h j List.mem_cons_self).visit.bind fun s _ => hitems.map (s :: ·)

theorem reports_ofListPart
    (h : ∀ items, lookup? part members = some (.arr items) → ∀ j ∈ items, IsReadInSteps source j) :
    Reports steps (Offence.error source) (Need.shapes.steps owner part (lookup? part members))
      (ofListPart source owner part members) := by
  rw [ofListPart_eq]
  cases hpart : lookup? part members with
  | none => exact reports_fault _
  | some j =>
      cases j with
      | arr items => exact reports_ofItems (h items hpart)
      | _ => exact reports_fault _

/-- The names of the fields before are those that reading has seen. -/
theorem reports_ofFields {items before : List Json} {seen : List Text}
    (h : ∀ entry, Json.obj entry ∈ items →
      ∀ j, lookup? "model" entry = some j → IsReadInSteps source j)
    (hseen : ∀ name, name ∈ seen ↔ name ∈ before.filterMap fieldName?) :
    Reports steps (Offence.error source) (fieldsSteps before items)
      (ofFields source before.length seen items) := by
  induction items generalizing before seen with
  | nil => exact faultless_nil
  | cons item items ih =>
      have hlater := fun entry hentry => h entry (List.mem_cons_of_mem item hentry)
      rw [fieldsSteps]
      cases item with
      | obj entry =>
          rw [ofFields, fieldSteps]
          cases hname : lookup? "name" entry with
          | none => exact reports_fault _
          | some j =>
              cases j with
              | str name =>
                  by_cases hmem : name ∈ before.filterMap fieldName?
                  · simp only [List.contains_iff_mem, hseen, if_pos hmem]
                    exact reports_fault _
                  · simp only [List.contains_iff_mem, hseen, if_neg hmem, List.nil_append]
                    -- with this field before them the others go on in the same way
                    have hnext : ∀ other, other ∈ name :: seen ↔
                        other ∈ (before ++ [Json.obj entry]).filterMap fieldName? := by
                      intro other
                      have hfield : fieldName? (.obj entry) = some name := by
                        simp only [fieldName?, hname]
                      rw [List.filterMap_append, List.filterMap_cons, hfield, List.mem_append,
                        List.mem_cons, hseen, List.filterMap_nil, List.mem_singleton, or_comm]
                    have hrest := ih hlater hnext
                    rw [List.length_append, List.length_singleton] at hrest
                    exact (reports_ofPart (h entry List.mem_cons_self)).bind fun s _ =>
                      hrest.map _
              | _ => exact reports_fault _
      | _ => exact reports_fault _

theorem reports_ofFieldsPart
    (h : ∀ items, lookup? "fields" members = some (.arr items) →
      ∀ entry, Json.obj entry ∈ items →
        ∀ j, lookup? "model" entry = some j → IsReadInSteps source j) :
    Reports steps (Offence.error source)
      (Need.fields.steps "dictionary" "fields" (lookup? "fields" members))
      (ofFieldsPart source members) := by
  rw [ofFieldsPart_eq]
  cases hpart : lookup? "fields" members with
  | none => exact reports_fault _
  | some j =>
      cases j with
      | arr items =>
          have hnone : ∀ name, name ∈ ([] : List Text) ↔
              name ∈ ([] : List Json).filterMap fieldName? := by simp
          exact reports_ofFields (h items hpart) hnone
      | _ => exact reports_fault _

end Parts

/-! ## Whole descriptors -/

section Tagged

variable {source : Option Text} {members : List (Text × Json)}

/-- The way through an object with a tag, part by part. -/
theorem steps_of_hasTag {tag : Text} (htag : HasTag members tag)
    {parts : List (Text × Need)} (hparts : lookup? tag needs = some parts) :
    steps (.obj members) = parts.flatMap fun p => p.2.steps tag p.1 (lookup? p.1 members) := by
  have h : lookup? (Text.ofString "type") members = some (.str tag) := htag
  simp only [steps, h, hparts]

theorem lookup?_needs_of_not_mem {tag : Text} (htag : tag ∉ tags) : lookup? tag needs = none :=
  lookup?_eq_none_of_not_mem htag

/-- An object with a known tag is read as the table lists its parts. -/
theorem isReadInSteps_of_hasTag
    (hparts : OfParts (IsReadInSteps source) members) {tag : Text} (htag : HasTag members tag)
    (hmem : tag ∈ tags) : IsReadInSteps source (.obj members) := by
  simp only [tags, List.map_cons, List.map_nil, List.mem_cons, List.not_mem_nil, or_false] at hmem
  unfold IsReadInSteps
  -- one case for each tag: the parts in the table are read one behind the other
  rcases hmem with rfl | rfl | rfl | rfl | rfl | rfl | rfl | rfl | rfl | rfl
  · rw [ofJson_boolean htag, steps_of_hasTag htag rfl]
    exact faultless_nil
  · rw [ofJson_number htag, steps_of_hasTag htag rfl, List.flatMap_singleton]
    exact (reports_readChoices _).map _
  · rw [ofJson_string htag, steps_of_hasTag htag rfl, List.flatMap_cons, List.flatMap_singleton]
    exact (reports_readChoices _).bind fun _ _ => reports_readFormat.map _
  · rw [ofJson_array htag, steps_of_hasTag htag rfl, List.flatMap_singleton]
    exact (reports_ofPart (hparts.part _)).map _
  · rw [ofJson_tuple htag, steps_of_hasTag htag rfl, List.flatMap_singleton]
    exact (reports_ofListPart (hparts.item _)).map _
  · rw [ofJson_dictionary htag, steps_of_hasTag htag rfl, List.flatMap_singleton]
    exact (reports_ofFieldsPart (hparts.field _)).map _
  · rw [ofJson_map htag, steps_of_hasTag htag rfl, List.flatMap_cons, List.flatMap_singleton]
    exact (reports_ofPart (hparts.part _)).bind fun _ _ => (reports_ofPart (hparts.part _)).map _
  · rw [ofJson_union htag, steps_of_hasTag htag rfl, List.flatMap_singleton]
    exact (reports_ofListPart (hparts.item _)).map _
  · rw [ofJson_reference htag, steps_of_hasTag htag rfl, List.flatMap_singleton]
    exact reports_readReference
  · rw [ofJson_special htag, steps_of_hasTag htag rfl, List.flatMap_singleton]
    exact reports_readSpecial

/-- An object without a known tag is an offence itself. -/
theorem isReadInSteps_of_not_mem_tags
    (hmem : ∀ tag, HasTag members tag → tag ∉ tags) : IsReadInSteps source (.obj members) := by
  unfold IsReadInSteps
  cases htype : lookup? "type" members with
  | none =>
      rw [ofJson, steps, htype]
      exact reports_fault (Offence.tag none)
  | some j =>
      cases j with
      | str tag =>
          rw [ofJson_of_not_mem_tags htype (hmem tag htype), steps, htype]
          simp only [lookup?_needs_of_not_mem (hmem tag htype)]
          exact reports_fault (Offence.tag (some (.str tag)))
      | _ =>
          rw [ofJson, steps, htype]
          exact reports_fault (Offence.tag (some _))

end Tagged

/-- **Reading goes through a value step by step**, so its error is that of the first offence. -/
theorem isReadInSteps (source : Option Text) (j : Json) : IsReadInSteps source j := by
  induction j using parts_induction with
  | obj members hparts =>
      by_cases hmem : ∃ tag, HasTag members tag ∧ tag ∈ tags
      · obtain ⟨tag, htag, hmem⟩ := hmem
        exact isReadInSteps_of_hasTag hparts htag hmem
      · exact isReadInSteps_of_not_mem_tags fun tag htag h => hmem ⟨tag, htag, h⟩
  | other j hj =>
      cases j with
      | obj members => exact absurd rfl (hj members)
      | _ => exact reports_fault (Offence.structure _)

/-! ## What matters about a descriptor -/

/-- The keys of the parts of descriptors with a tag. -/
def keys (tag : Text) : List Text := ((lookup? tag needs).getD []).map Prod.fst

/-- Two objects with the same tag and the same parts that go with it are read alike. -/
theorem ofJson_congr {source : Option Text} {tag : Text} {members members' : List (Text × Json)}
    (htag : HasTag members tag) (htag' : HasTag members' tag)
    (hkeys : ∀ part ∈ keys tag, lookup? part members' = lookup? part members) :
    ofJson source (.obj members') = ofJson source (.obj members) := by
  by_cases hmem : tag ∈ tags
  · simp only [tags, List.map_cons, List.map_nil, List.mem_cons, List.not_mem_nil, or_false]
      at hmem
    -- all that is looked up for a tag are the keys in the table
    rcases hmem with rfl | rfl | rfl | rfl | rfl | rfl | rfl | rfl | rfl | rfl
    · rw [ofJson_boolean htag, ofJson_boolean htag']
    · have henum := hkeys "enum" (.head _)
      rw [ofJson_number htag, ofJson_number htag', readChoices, readChoices, henum]
    · have henum := hkeys "enum" (.head _)
      have hformat := hkeys "format" (.tail _ (.head _))
      rw [ofJson_string htag, ofJson_string htag', readChoices, readChoices, readFormat, readFormat,
        henum, hformat]
    · rw [ofJson_array htag, ofJson_array htag', ofPart_eq, ofPart_eq, hkeys _ (.head _)]
    · rw [ofJson_tuple htag, ofJson_tuple htag', ofListPart_eq, ofListPart_eq, hkeys _ (.head _)]
    · rw [ofJson_dictionary htag, ofJson_dictionary htag', ofFieldsPart_eq, ofFieldsPart_eq,
        hkeys _ (.head _)]
    · have hkey := hkeys "key" (.head _)
      have hvalue := hkeys "value" (.tail _ (.head _))
      rw [ofJson_map htag, ofJson_map htag']
      simp only [ofPart_eq, hkey, hvalue]
    · rw [ofJson_union htag, ofJson_union htag', ofListPart_eq, ofListPart_eq, hkeys _ (.head _)]
    · rw [ofJson_reference htag, ofJson_reference htag', readReference, readReference,
        hkeys "id" (.head _)]
    · rw [ofJson_special htag, ofJson_special htag', readSpecial, readSpecial,
        hkeys "kind" (.head _)]
  · rw [ofJson_of_not_mem_tags htag hmem, ofJson_of_not_mem_tags htag' hmem]

/-- **What reading a descriptor comes to.** A value is read as a shape exactly if it describes the
shape by the grammar. It is refused exactly if something offends against the grammar, with the
error of the first offence on the way through it. Other members of a descriptor than its tag and
the parts that go with it make no difference. -/
theorem ofJson_outcome (source : Option Text) (j : Json) :
    (∀ s, ofJson source j = .ok s ↔ Describes j s) ∧
    (∀ e, ofJson source j = .error e ↔ ∃ o, FirstFault steps (steps j) o ∧ e = o.error source) ∧
    ∀ (tag : Text) (members members' : List (Text × Json)),
      HasTag members tag → HasTag members' tag →
      (∀ part ∈ keys tag, lookup? part members' = lookup? part members) →
        ofJson source (.obj members') = ofJson source (.obj members) := by
  refine ⟨isReadRight j, fun e => (isReadInSteps source j).error_iff, ?_⟩
  intro tag members members' htag htag' hkeys
  exact ofJson_congr htag htag' hkeys

end CallBindings.Shape
