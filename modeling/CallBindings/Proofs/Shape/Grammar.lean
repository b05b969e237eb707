import CallBindings.Proofs.FirstFault
import CallBindings.Proofs.Json.Members
import CallBindings.Shape.Descriptor
import Mathlib.Data.List.Forall2
import Mathlib.Data.List.Nodup

set_option autoImplicit false

/-! # The grammar of descriptors

Which shape a JSON value describes, as a relation that has one case for each tag and says nothing
of the order in which the value is looked through. Reading a descriptor is compared with it tag by
tag: first come the equations that say how the descriptors with a tag are read, then soundness,
along the nesting of the value, and completeness, case by case.
-/

namespace CallBindings

/-- Every member of the second of two lists that correspond has its counterpart in the first. -/
theorem exists_of_forall₂ {α β : Type} {R : α → β → Prop} {as : List α} {bs : List β}
    (h : List.Forall₂ R as bs) {b : β} (hb : b ∈ bs) : ∃ a ∈ as, R a b := by
  induction h with
  | nil => cases hb
  | cons hab _ ih =>
      rcases List.mem_cons.mp hb with rfl | hb
      · exact ⟨_, List.mem_cons_self, hab⟩
      · obtain ⟨a, ha, hab⟩ := ih hb
        exact ⟨a, List.mem_cons_of_mem _ ha, hab⟩

namespace Shape

/-! ## Descriptors -/

/-- An integer or a floating point number; truth values are neither. -/
def IsNumber (j : Json) : Prop := (∃ n, j = .int n) ∨ ∃ x, j = .float x

/-- A text. -/
def IsText (j : Json) : Prop := ∃ t, j = .str t

/-- The literals a descriptor lists: none if the list is absent or null. -/
inductive DescribesChoices (IsLiteral : Json → Prop) (members : List (Text × Json)) :
    Option (List Json) → Prop
  | absent : lookup? "enum" members = none → DescribesChoices IsLiteral members none
  | null : lookup? "enum" members = some .null → DescribesChoices IsLiteral members none
  | list {items : List Json} : lookup? "enum" members = some (.arr items) →
      (∀ j ∈ items, IsLiteral j) → DescribesChoices IsLiteral members (some items)

/-- The format a descriptor gives: none if it is absent or null. -/
inductive DescribesFormat (members : List (Text × Json)) : Option Text → Prop
  | absent : lookup? "format" members = none → DescribesFormat members none
  | null : lookup? "format" members = some .null → DescribesFormat members none
  | text {t : Text} : lookup? "format" members = some (.str t) → DescribesFormat members (some t)

/-- Whether an object has a tag. -/
def HasTag (members : List (Text × Json)) (tag : Text) : Prop :=
  lookup? "type" members = some (.str tag)

mutual

/-- The shape a JSON value describes. -/
inductive Describes : Json → Shape → Prop
  | boolean {members : List (Text × Json)} :
      HasTag members "boolean" → Describes (.obj members) .boolean
  | number {members : List (Text × Json)} {choices : Option (List Json)} :
      HasTag members "number" → DescribesChoices IsNumber members choices →
      Describes (.obj members) (.number choices)
  | string {members : List (Text × Json)} {choices : Option (List Json)} {format : Option Text} :
      HasTag members "string" → DescribesChoices IsText members choices →
      DescribesFormat members format → Describes (.obj members) (.string choices format)
  | array {members : List (Text × Json)} {j : Json} {s : Shape} :
      HasTag members "array" → lookup? "element" members = some j → Describes j s →
      Describes (.obj members) (.array s)
  | tuple {members : List (Text × Json)} {items : List Json} {ss : List Shape} :
      HasTag members "tuple" → lookup? "elements" members = some (.arr items) →
      List.Forall₂ Describes items ss → Describes (.obj members) (.tuple ss)
  | dictionary {members : List (Text × Json)} {items : List Json} {fields : List (Field Shape)} :
      HasTag members "dictionary" → lookup? "fields" members = some (.arr items) →
      List.Forall₂ DescribesField items fields → (fields.map (·.name)).Nodup →
      Describes (.obj members) (.dictionary fields)
  | map {members : List (Text × Json)} {j k : Json} {s t : Shape} :
      HasTag members "map" → lookup? "key" members = some j → lookup? "value" members = some k →
      Describes j s → Describes k t → Describes (.obj members) (.map s t)
  | union {members : List (Text × Json)} {items : List Json} {ss : List Shape} :
      HasTag members "union" → lookup? "variants" members = some (.arr items) →
      List.Forall₂ Describes items ss → Describes (.obj members) (.union ss)
  | reference {members : List (Text × Json)} {id : Text} :
      HasTag members "reference" → lookup? "id" members = some (.str id) → id ≠ [] →
      Describes (.obj members) (.reference id)
  | special {members : List (Text × Json)} {kind : Text} :
      HasTag members "special" → lookup? "kind" members = some (.str kind) →
      kind ∈ specialKinds → Describes (.obj members) (.special kind)

/-- The field of a record a JSON value describes. It is optional if the value of that member
counts as true. -/
inductive DescribesField : Json → Field Shape → Prop
  | intro {entry : List (Text × Json)} {name : Text} {j : Json} {s : Shape} :
      lookup? "name" entry = some (.str name) → lookup? "model" entry = some j →
      Describes j s →
      DescribesField (.obj entry)
        ⟨name, s, ((lookup? "optional" entry).map Json.truthy).getD false⟩

end

/-- The tags of descriptors. -/
def tags : List Text :=
  ["boolean", "number", "string", "array", "tuple", "dictionary", "map", "union", "reference",
    "special"].map Text.ofString

/-! ## Induction over descriptors

The parts of a value are smaller than it is, be they members of it, items of a list that is a
member, or members of such items. -/

/-- What holds of all values that may be read as parts of an object. -/
structure OfParts (P : Json → Prop) (members : List (Text × Json)) : Prop where
  part : ∀ part j, lookup? part members = some j → P j
  item : ∀ part items, lookup? part members = some (.arr items) → ∀ j ∈ items, P j
  field : ∀ part items, lookup? part members = some (.arr items) →
    ∀ entry, Json.obj entry ∈ items → ∀ j, lookup? "model" entry = some j → P j

theorem parts_induction {P : Json → Prop}
    (obj : ∀ members, OfParts P members → P (.obj members))
    (other : ∀ j, (∀ members, j ≠ .obj members) → P j) (j : Json) : P j := by
  induction j using (measure (sizeOf (α := Json))).wf.induction with
  | _ j ih =>
    by_cases hobj : ∃ members, j = .obj members
    · obtain ⟨members, rfl⟩ := hobj
      exact obj members
        { part := fun part j hj => ih j (Json.sizeOf_lt_of_lookup? hj)
          item := fun part items hitems j hj => ih j
            (lt_trans (Json.sizeOf_lt_of_mem hj) (Json.sizeOf_lt_of_lookup? hitems))
          field := fun part items hitems entry hentry j hj => ih j
            (lt_trans (Json.sizeOf_lt_of_lookup? hj)
              (lt_trans (Json.sizeOf_lt_of_mem hentry) (Json.sizeOf_lt_of_lookup? hitems))) }
    · exact other j fun members hmembers => hobj ⟨members, hmembers⟩

/-! ## How parts are read

Reading goes through the members of an object to find a part, and finds the first one with that
key. -/

section Parts

variable (source : Option Text) (owner part : Text) (members : List (Text × Json))

theorem ofPart_eq :
    ofPart source owner part members =
      match lookup? part members with
      | none => .error (.invalidDescriptor (.missingPart owner part) source)
      | some j => ofJson source j := by
  induction members with
  | nil => rfl
  | cons entry members ih =>
      obtain ⟨k, v⟩ := entry
      rw [ofPart, lookup?]
      by_cases hkey : k = part
      · rw [if_pos hkey, if_pos hkey]
      · rw [if_neg hkey, if_neg hkey, ih]

theorem ofListPart_eq :
    ofListPart source owner part members =
      match lookup? part members with
      | none => .error (.invalidDescriptor (.missingPart owner part) source)
      | some (.arr items) => ofItems source items
      | some _ => .error (.invalidDescriptor (.partNotList owner part) source) := by
  induction members with
  | nil => rfl
  | cons entry members ih =>
      obtain ⟨k, v⟩ := entry
      by_cases hkey : k = part
      · cases v <;> simp [ofListPart, lookup?, hkey]
      · cases v <;> simp [ofListPart, lookup?, hkey, ih]

theorem ofFieldsPart_eq :
    ofFieldsPart source members =
      match lookup? "fields" members with
      | none => .error (.invalidDescriptor (.missingPart "dictionary" "fields") source)
      | some (.arr items) => ofFields source 0 [] items
      | some _ => .error (.invalidDescriptor (.partNotList "dictionary" "fields") source) := by
  induction members with
  | nil => rfl
  | cons entry members ih =>
      obtain ⟨k, v⟩ := entry
      by_cases hkey : k = "fields"
      · cases v <;> simp [ofFieldsPart, lookup?, hkey]
      · cases v <;> simp [ofFieldsPart, lookup?, hkey, ih]

end Parts

/-! ## How the descriptors with a tag are read -/

section Tags

variable {source : Option Text} {members : List (Text × Json)}

theorem ofJson_boolean (h : HasTag members "boolean") :
    ofJson source (.obj members) = .ok .boolean := by
  rw [ofJson, h]
  rfl

theorem ofJson_number (h : HasTag members "number") :
    ofJson source (.obj members) =
      (readChoices isNumberLiteral "number" source members).map .number := by
  rw [ofJson, h]
  rfl

theorem ofJson_string (h : HasTag members "string") :
    ofJson source (.obj members) =
      readChoices isStringLiteral "string" source members >>= fun choices =>
        (readFormat source members).map (.string choices) := by
  rw [ofJson, h]
  rfl

theorem ofJson_array (h : HasTag members "array") :
    ofJson source (.obj members) = (ofPart source "array" "element" members).map .array := by
  rw [ofJson, h]
  rfl

theorem ofJson_tuple (h : HasTag members "tuple") :
    ofJson source (.obj members) = (ofListPart source "tuple" "elements" members).map .tuple := by
  rw [ofJson, h]
  rfl

theorem ofJson_dictionary (h : HasTag members "dictionary") :
    ofJson source (.obj members) = (ofFieldsPart source members).map .dictionary := by
  rw [ofJson, h]
  rfl

theorem ofJson_map (h : HasTag members "map") :
    ofJson source (.obj members) =
      ofPart source "map" "key" members >>= fun key =>
        (ofPart source "map" "value" members).map (.map key) := by
  rw [ofJson, h]
  rfl

theorem ofJson_union (h : HasTag members "union") :
    ofJson source (.obj members) = (ofListPart source "union" "variants" members).map .union := by
  rw [ofJson, h]
  rfl

theorem ofJson_reference (h : HasTag members "reference") :
    ofJson source (.obj members) = readReference source members := by
  rw [ofJson, h]
  rfl

theorem ofJson_special (h : HasTag members "special") :
    ofJson source (.obj members) = readSpecial source members := by
  rw [ofJson, h]
  rfl

theorem ofJson_of_not_mem_tags {tag : Text} (h : HasTag members tag) (htag : tag ∉ tags) :
    ofJson source (.obj members) = .error (.unsupportedVariant tag) := by
  simp only [tags, List.map_cons, List.map_nil, List.mem_cons, List.not_mem_nil, or_false,
    not_or] at htag
  obtain ⟨h1, h2, h3, h4, h5, h6, h7, h8, h9, h10⟩ := htag
  rw [ofJson, h]
  simp only [h1, h2, h3, h4, h5, h6, h7, h8, h9, h10, if_false]

/-- A value that is read is an object with one of the tags. -/
theorem hasTag_of_ofJson {j : Json} {s : Shape} (h : ofJson source j = .ok s) :
    ∃ members tag, j = .obj members ∧ HasTag members tag ∧ tag ∈ tags := by
  cases j with
  | obj members =>
      cases htype : lookup? "type" members with
      | none => rw [ofJson, htype] at h; cases h
      | some j =>
          cases j with
          | str tag =>
              refine ⟨members, tag, rfl, htype, ?_⟩
              by_contra htag
              rw [ofJson_of_not_mem_tags htype htag] at h
              cases h
          | _ => rw [ofJson, htype] at h; cases h
  | _ => cases h

end Tags

/-! ## Literals, formats, ids and kinds -/

section Leaves

variable {source : Option Text} {members : List (Text × Json)}

theorem isNumberLiteral_iff (j : Json) : isNumberLiteral j = true ↔ IsNumber j := by
  cases j <;> simp [isNumberLiteral, IsNumber]

theorem isStringLiteral_iff (j : Json) : isStringLiteral j = true ↔ IsText j := by
  cases j <;> simp [isStringLiteral, IsText]

theorem readChoices_eq_ok {allowed : Json → Bool} {IsLiteral : Json → Prop} {owner : Text}
    (hallowed : ∀ j, allowed j = true ↔ IsLiteral j) {choices : Option (List Json)} :
    readChoices allowed owner source members = .ok choices ↔
      DescribesChoices IsLiteral members choices := by
  constructor
  · intro h
    unfold readChoices at h
    split at h
    · cases h
      exact .absent ‹_›
    · cases h
      exact .null ‹_›
    · split at h
      · cases h
      · next hlist _ hnone =>
          cases h
          refine .list hlist fun j hj => (hallowed j).mp ?_
          simpa using List.find?_eq_none.mp hnone j hj
    · cases h
  · intro h
    cases h with
    | absent h => rw [readChoices, h]
    | null h => rw [readChoices, h]
    | @list items h hitems =>
        have hnone : (items.find? fun j => !allowed j) = none := by
          rw [List.find?_eq_none]
          intro j hj
          simp [(hallowed j).mpr (hitems j hj)]
        rw [readChoices, h]
        simp only [hnone]

theorem readFormat_eq_ok {format : Option Text} :
    readFormat source members = .ok format ↔ DescribesFormat members format := by
  constructor
  · intro h
    unfold readFormat at h
    split at h
    · cases h
      exact .absent ‹_›
    · cases h
      exact .null ‹_›
    · cases h
      exact .text ‹_›
    · cases h
  · intro h
    cases h with
    | absent h => rw [readFormat, h]
    | null h => rw [readFormat, h]
    | text h => rw [readFormat, h]

theorem readReference_eq_ok {s : Shape} :
    readReference source members = .ok s ↔
      ∃ id, lookup? "id" members = some (.str id) ∧ id ≠ [] ∧ s = .reference id := by
  constructor
  · intro h
    unfold readReference at h
    split at h
    · cases h
    · cases h
      exact ⟨_, ‹_›, by simp, rfl⟩
    · cases h
  · rintro ⟨id, h, hid, rfl⟩
    cases id with
    | nil => exact absurd rfl hid
    | cons c id => rw [readReference, h]

theorem readSpecial_eq_ok {s : Shape} :
    readSpecial source members = .ok s ↔
      ∃ kind, lookup? "kind" members = some (.str kind) ∧ kind ∈ specialKinds ∧
        s = .special kind := by
  constructor
  · intro h
    unfold readSpecial at h
    split at h
    · cases h
    · split at h
      · next hkind =>
          cases h
          exact ⟨_, ‹_›, List.contains_iff_mem.mp hkind, rfl⟩
      · cases h
    · cases h
  · rintro ⟨kind, h, hkind, rfl⟩
    rw [readSpecial, h]
    simp [hkind]

end Leaves

/-! ## What is read is what is described -/

section Nesting

variable {source : Option Text}

/-- Reading a value gives exactly the shapes it describes. -/
def IsReadRight (source : Option Text) (j : Json) : Prop :=
  ∀ s, ofJson source j = .ok s ↔ Describes j s

theorem ofPart_eq_ok {owner part : Text} {members : List (Text × Json)}
    (h : ∀ j, lookup? part members = some j → IsReadRight source j) {s : Shape} :
    ofPart source owner part members = .ok s ↔
      ∃ j, lookup? part members = some j ∧ Describes j s := by
  rw [ofPart_eq]
  cases hpart : lookup? part members with
  | none => simp
  | some j => simp [h j hpart s]

theorem ofItems_eq_ok {items : List Json} (h : ∀ j ∈ items, IsReadRight source j)
    {ss : List Shape} : ofItems source items = .ok ss ↔ List.Forall₂ Describes items ss := by
  induction items generalizing ss with
  | nil => simp [ofItems, eq_comm, List.forall₂_nil_left_iff]
  | cons j items ih =>
      have hj := h j List.mem_cons_self
      have hitems : ∀ ss, ofItems source items = .ok ss ↔ List.Forall₂ Describes items ss :=
        fun ss => ih fun k hk => h k (List.mem_cons_of_mem j hk)
      rw [ofItems, bind_eq_ok, List.forall₂_cons_left_iff]
      constructor
      · rintro ⟨s, hs, hrest⟩
        obtain ⟨more, hmore, hcons⟩ := bind_eq_ok.mp hrest
        cases hcons
        exact ⟨s, more, (hj s).mp hs, (hitems more).mp hmore, rfl⟩
      · rintro ⟨s, more, hs, hmore, rfl⟩
        exact ⟨s, (hj s).mpr hs, bind_eq_ok.mpr ⟨more, (hitems more).mpr hmore, rfl⟩⟩

theorem ofListPart_eq_ok {owner part : Text} {members : List (Text × Json)}
    (h : ∀ items, lookup? part members = some (.arr items) → ∀ j ∈ items, IsReadRight source j)
    {ss : List Shape} :
    ofListPart source owner part members = .ok ss ↔
      ∃ items, lookup? part members = some (.arr items) ∧ List.Forall₂ Describes items ss := by
  rw [ofListPart_eq]
  cases hpart : lookup? part members with
  | none => simp
  | some j =>
      cases j with
      | arr items => simp [ofItems_eq_ok (h items hpart)]
      | _ => simp

/-- Fields are read if the first one is, with a name of its own, and then the others. -/
theorem ofFields_cons_eq_ok {item : Json} {items : List Json} {index : ℕ} {seen : List Text}
    {fields : List (Field Shape)} :
    ofFields source index seen (item :: items) = .ok fields ↔
      ∃ entry name s more, item = .obj entry ∧ lookup? "name" entry = some (.str name) ∧
        name ∉ seen ∧ ofPart source "dictionary field" "model" entry = .ok s ∧
        ofFields source (index + 1) (name :: seen) items = .ok more ∧
        fields = ⟨name, s, ((lookup? "optional" entry).map Json.truthy).getD false⟩ :: more := by
  constructor
  · intro h
    cases item with
    | obj entry =>
        rw [ofFields] at h
        split at h
        · next name hname =>
            split at h
            · cases h
            · next hfresh =>
                obtain ⟨s, hs, h⟩ := bind_eq_ok.mp h
                obtain ⟨more, hmore, h⟩ := bind_eq_ok.mp h
                cases h
                exact ⟨entry, name, s, more, rfl, hname, by simpa using hfresh, hs, hmore, rfl⟩
        · cases h
    | _ => cases h
  · rintro ⟨entry, name, s, more, rfl, hname, hfresh, hs, hmore, rfl⟩
    rw [ofFields, hname]
    simp only [List.contains_iff_mem, hfresh, if_false]
    rw [hs]
    simp only [hmore]
    rfl

/-- By induction on the fields that are left; the names that were seen are those that the ones
before have taken. -/
theorem ofFields_eq_ok {items : List Json}
    (h : ∀ entry, Json.obj entry ∈ items →
      ∀ j, lookup? "model" entry = some j → IsReadRight source j)
    {index : ℕ} {seen : List Text} {fields : List (Field Shape)} :
    ofFields source index seen items = .ok fields ↔
      List.Forall₂ DescribesField items fields ∧ (fields.map (·.name)).Nodup ∧
        ∀ f ∈ fields, f.name ∉ seen := by
  induction items generalizing index seen fields with
  | nil =>
      rw [ofFields, List.forall₂_nil_left_iff]
      constructor
      · intro hnil
        cases hnil
        simp
      · rintro ⟨rfl, -, -⟩
        rfl
  | cons item items ih =>
      have hitems : ∀ index seen fields, ofFields source index seen items = .ok fields ↔
          List.Forall₂ DescribesField items fields ∧ (fields.map (·.name)).Nodup ∧
            ∀ f ∈ fields, f.name ∉ seen :=
        fun index seen fields => ih fun entry hentry => h entry (List.mem_cons_of_mem item hentry)
      rw [ofFields_cons_eq_ok]
      constructor
      · rintro ⟨entry, name, s, more, rfl, hname, hfresh, hs, hmore, rfl⟩
        obtain ⟨j, hmodel, hj⟩ := (ofPart_eq_ok (h entry List.mem_cons_self)).mp hs
        obtain ⟨hrest, hnodup, hlater⟩ := (hitems _ _ _).mp hmore
        refine ⟨.cons (.intro hname hmodel hj) hrest, ?_, ?_⟩
        · rw [List.map_cons, List.nodup_cons]
          refine ⟨fun hmem => ?_, hnodup⟩
          -- a later field of that name would have been refused
          obtain ⟨f, hf, hfname⟩ := List.mem_map.mp hmem
          exact hlater f hf (hfname ▸ List.mem_cons_self)
        · rw [List.forall_mem_cons]
          exact ⟨hfresh, fun f hf hmem => hlater f hf (List.mem_cons_of_mem name hmem)⟩
      · rintro ⟨hdescribes, hnodup, hseen⟩
        obtain ⟨f, more, hfield, hmore, rfl⟩ := List.forall₂_cons_left_iff.mp hdescribes
        rw [List.map_cons, List.nodup_cons] at hnodup
        rw [List.forall_mem_cons] at hseen
        cases hfield with
        | @intro entry name j s hname hmodel hj =>
            have hpart : ofPart source "dictionary field" "model" entry = .ok s :=
              (ofPart_eq_ok (h entry List.mem_cons_self)).mpr ⟨j, hmodel, hj⟩
            have hrest : ofFields source (index + 1) (name :: seen) items = .ok more := by
              refine (hitems _ _ _).mpr ⟨hmore, hnodup.2, fun f hf hmem => ?_⟩
              rcases List.mem_cons.mp hmem with hsame | hmem
              · exact hnodup.1 (List.mem_map.mpr ⟨f, hf, hsame⟩)
              · exact hseen.2 f hf hmem
            exact ⟨entry, name, s, more, rfl, hname, hseen.1, hpart, hrest, rfl⟩

theorem ofFieldsPart_eq_ok {members : List (Text × Json)}
    (h : ∀ items, lookup? "fields" members = some (.arr items) →
      ∀ entry, Json.obj entry ∈ items →
        ∀ j, lookup? "model" entry = some j → IsReadRight source j)
    {fields : List (Field Shape)} :
    ofFieldsPart source members = .ok fields ↔
      ∃ items, lookup? "fields" members = some (.arr items) ∧
        List.Forall₂ DescribesField items fields ∧ (fields.map (·.name)).Nodup := by
  rw [ofFieldsPart_eq]
  cases hpart : lookup? "fields" members with
  | none => simp
  | some j =>
      cases j with
      | arr items => simp [ofFields_eq_ok (h items hpart)]
      | _ => simp

section Tagged

variable {members : List (Text × Json)} (hparts : OfParts (IsReadRight source) members)
include hparts

/-- What is read of an object with a tag is described by it. -/
theorem describes_of_ofJson {tag : Text} (htag : HasTag members tag) (hmem : tag ∈ tags)
    {s : Shape} (h : ofJson source (.obj members) = .ok s) : Describes (.obj members) s := by
  simp only [tags, List.map_cons, List.map_nil, List.mem_cons, List.not_mem_nil, or_false] at hmem
  -- one case for each tag, in the order of the list of tags
  rcases hmem with rfl | rfl | rfl | rfl | rfl | rfl | rfl | rfl | rfl | rfl
  · rw [ofJson_boolean htag] at h
    cases h
    exact .boolean htag
  · rw [ofJson_number htag] at h
    obtain ⟨choices, hchoices, rfl⟩ := map_eq_ok.mp h
    exact .number htag ((readChoices_eq_ok isNumberLiteral_iff).mp hchoices)
  · rw [ofJson_string htag] at h
    obtain ⟨choices, hchoices, h⟩ := bind_eq_ok.mp h
    obtain ⟨format, hformat, rfl⟩ := map_eq_ok.mp h
    exact .string htag ((readChoices_eq_ok isStringLiteral_iff).mp hchoices)
      (readFormat_eq_ok.mp hformat)
  · rw [ofJson_array htag] at h
    obtain ⟨element, helement, rfl⟩ := map_eq_ok.mp h
    obtain ⟨j, hj, hdescribes⟩ := (ofPart_eq_ok (hparts.part _)).mp helement
    exact .array htag hj hdescribes
  · rw [ofJson_tuple htag] at h
    obtain ⟨elements, helements, rfl⟩ := map_eq_ok.mp h
    obtain ⟨items, hitems, hdescribe⟩ := (ofListPart_eq_ok (hparts.item _)).mp helements
    exact .tuple htag hitems hdescribe
  · rw [ofJson_dictionary htag] at h
    obtain ⟨fields, hread, rfl⟩ := map_eq_ok.mp h
    obtain ⟨items, hitems, hdescribe, hnodup⟩ := (ofFieldsPart_eq_ok (hparts.field _)).mp hread
    exact .dictionary htag hitems hdescribe hnodup
  · rw [ofJson_map htag] at h
    obtain ⟨key, hkey, h⟩ := bind_eq_ok.mp h
    obtain ⟨value, hvalue, rfl⟩ := map_eq_ok.mp h
    obtain ⟨j, hj, hdescribesKey⟩ := (ofPart_eq_ok (hparts.part _)).mp hkey
    obtain ⟨k, hk, hdescribesValue⟩ := (ofPart_eq_ok (hparts.part _)).mp hvalue
    exact .map htag hj hk hdescribesKey hdescribesValue
  · rw [ofJson_union htag] at h
    obtain ⟨variants, hvariants, rfl⟩ := map_eq_ok.mp h
    obtain ⟨items, hitems, hdescribe⟩ := (ofListPart_eq_ok (hparts.item _)).mp hvariants
    exact .union htag hitems hdescribe
  · rw [ofJson_reference htag] at h
    obtain ⟨id, hid, hne, rfl⟩ := readReference_eq_ok.mp h
    exact .reference htag hid hne
  · rw [ofJson_special htag] at h
    obtain ⟨kind, hkind, hspecial, rfl⟩ := readSpecial_eq_ok.mp h
    exact .special htag hkind hspecial

/-- Every shape an object describes is read from it. -/
theorem ofJson_of_describes {s : Shape} (h : Describes (.obj members) s) :
    ofJson source (.obj members) = .ok s := by
  cases h with
  | boolean htag => exact ofJson_boolean htag
  | number htag hchoices =>
      rw [ofJson_number htag, (readChoices_eq_ok isNumberLiteral_iff).mpr hchoices]
      rfl
  | string htag hchoices hformat =>
      rw [ofJson_string htag, (readChoices_eq_ok isStringLiteral_iff).mpr hchoices]
      exact map_eq_ok.mpr ⟨_, readFormat_eq_ok.mpr hformat, rfl⟩
  | array htag hj hdescribes =>
      rw [ofJson_array htag]
      exact map_eq_ok.mpr ⟨_, (ofPart_eq_ok (hparts.part _)).mpr ⟨_, hj, hdescribes⟩, rfl⟩
  | tuple htag hitems hdescribe =>
      rw [ofJson_tuple htag]
      exact map_eq_ok.mpr ⟨_, (ofListPart_eq_ok (hparts.item _)).mpr ⟨_, hitems, hdescribe⟩, rfl⟩
  | dictionary htag hitems hdescribe hnodup =>
      rw [ofJson_dictionary htag]
      exact map_eq_ok.mpr
        ⟨_, (ofFieldsPart_eq_ok (hparts.field _)).mpr ⟨_, hitems, hdescribe, hnodup⟩, rfl⟩
  | map htag hj hk hdescribesKey hdescribesValue =>
      rw [ofJson_map htag]
      refine bind_eq_ok.mpr ⟨_, (ofPart_eq_ok (hparts.part _)).mpr ⟨_, hj, hdescribesKey⟩, ?_⟩
      exact map_eq_ok.mpr ⟨_, (ofPart_eq_ok (hparts.part _)).mpr ⟨_, hk, hdescribesValue⟩, rfl⟩
  | union htag hitems hdescribe =>
      rw [ofJson_union htag]
      exact map_eq_ok.mpr ⟨_, (ofListPart_eq_ok (hparts.item _)).mpr ⟨_, hitems, hdescribe⟩, rfl⟩
  | reference htag hid hne =>
      rw [ofJson_reference htag]
      exact readReference_eq_ok.mpr ⟨_, hid, hne, rfl⟩
  | special htag hkind hspecial =>
      rw [ofJson_special htag]
      exact readSpecial_eq_ok.mpr ⟨_, hkind, hspecial, rfl⟩

end Tagged

/-- **Reading accepts exactly the grammar.** -/
theorem isReadRight (j : Json) : IsReadRight source j := by
  induction j using parts_induction with
  | obj members hparts =>
      intro s
      constructor
      · intro h
        obtain ⟨_, tag, hmembers, htag, hmem⟩ := hasTag_of_ofJson h
        cases hmembers
        exact describes_of_ofJson hparts htag hmem h
      · exact ofJson_of_describes hparts
  | other j hj =>
      intro s
      constructor
      · intro h
        obtain ⟨members, -, hmembers, -⟩ := hasTag_of_ofJson h
        exact absurd hmembers (hj members)
      · intro h
        cases h <;> exact absurd rfl (hj _)

end Nesting

end Shape

end CallBindings
