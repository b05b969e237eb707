import CallBindings.Proofs.Shape.Words

set_option autoImplicit false

/-! # The names in a type expression

Where a name can stand in a type expression, the type expression of a shape has the name of one of
the references of that shape, and nothing else. This holds of every shape that has a type
expression, whether or not it was read from a descriptor: an enumeration may then hold values that
are neither numbers nor strings.
-/

namespace CallBindings

open Text

/-! ## Type expressions over some names -/

/-- The type expressions that hold no names and no brackets but empty ones. -/
def plainTypes : List Text :=
  [ofString "bool", ofString "float", ofString "str", ofString "Any", ofString "object",
    ofString "None", ofString "Never", ofString "Tuple[()]"]

/-- An entry of a record type. -/
structure RecordEntry where
  name : Text
  optional : Bool
  type : Text

/-- The text of an entry of a record type. -/
def RecordEntry.text (e : RecordEntry) : Text := fieldText e.name e.optional e.type

/-- The type expressions in which all names are among `names`. -/
inductive WellScoped (names : List Text) : Text → Prop
  | plain {t : Text} : t ∈ plainTypes → WellScoped names t
  | name {t : Text} : t ∈ names → WellScoped names t
  | literal (values : List Json) :
      WellScoped names (ofString "Literal" ++ brackets (values.map literalText))
  | list {t : Text} : WellScoped names t → WellScoped names (ofString "List" ++ brackets [t])
  | tuple {ts : List Text} : (∀ t ∈ ts, WellScoped names t) →
      WellScoped names (ofString "Tuple" ++ brackets ts)
  | record {entries : List RecordEntry} : (∀ e ∈ entries, WellScoped names e.type) →
      WellScoped names (ofString "TypedDict" ++ braces (entries.map RecordEntry.text))
  | dict {key value : Text} : WellScoped names key → WellScoped names value →
      WellScoped names (ofString "Dict" ++ brackets [key, value])
  | union {ts : List Text} : (∀ t ∈ ts, WellScoped names t) →
      WellScoped names (ofString "Union" ++ brackets ts)

variable {names names' : List Text} {t : Text}

theorem WellScoped.mono (h : WellScoped names t) (hnames : names ⊆ names') :
    WellScoped names' t := by
  induction h with
  | plain h => exact .plain h
  | name h => exact .name (hnames h)
  | literal values => exact .literal values
  | list _ ih => exact .list ih
  | tuple _ ih => exact .tuple ih
  | record _ ih => exact .record ih
  | dict _ _ ihkey ihvalue => exact .dict ihkey ihvalue
  | union _ ih => exact .union ih

theorem wellScoped_unionText {ts : List Text} (h : ∀ t ∈ ts, WellScoped names t) :
    WellScoped names (unionText ts) := by
  have hdistinct : ∀ t ∈ distinct ts, WellScoped names t := fun t ht => h t (mem_distinct.mp ht)
  rw [unionText]
  split
  · exact .plain (by decide)
  · next t hone => exact hdistinct t (by simp [hone])
  · exact .union hdistinct

theorem wellScoped_choicesText {plain : Text} (hplain : plain ∈ plainTypes)
    (choices : Option (List Json)) : WellScoped names (choicesText plain choices) := by
  rw [choicesText.eq_def]
  split
  · exact .plain hplain
  · exact .plain hplain
  · exact .literal _

namespace Shape

/-! ## What has a type expression -/

theorem forall_of_typeTexts {ss : List Shape} {ts : List Text} (h : typeTexts ss = .ok ts) :
    (∀ s ∈ ss, s.typeText = .ok s.written) ∧ ts = ss.map written := by
  induction ss generalizing ts with
  | nil =>
      cases h
      exact ⟨List.forall_mem_nil _, rfl⟩
  | cons s ss ih =>
      rw [typeTexts] at h
      obtain ⟨t, ht, h⟩ := bind_eq_ok.mp h
      obtain ⟨ts', hts, h⟩ := bind_eq_ok.mp h
      cases h
      obtain ⟨hall, rfl⟩ := ih hts
      have hs := written_of_typeText ht
      exact ⟨List.forall_mem_cons.mpr ⟨by rw [ht, hs], hall⟩, by rw [List.map_cons, hs]⟩

theorem forall_of_fieldTexts {fields : List (Field Shape)} {ts : List Text}
    (h : fieldTexts fields = .ok ts) :
    (∀ s ∈ fields.map (·.content), s.typeText = .ok s.written) ∧ ts = fields.map writtenField := by
  induction fields generalizing ts with
  | nil =>
      cases h
      exact ⟨List.forall_mem_nil _, rfl⟩
  | cons field fields ih =>
      obtain ⟨name, s, optional⟩ := field
      rw [fieldTexts] at h
      obtain ⟨t, ht, h⟩ := bind_eq_ok.mp h
      obtain ⟨ts', hts, h⟩ := bind_eq_ok.mp h
      cases h
      obtain ⟨hall, rfl⟩ := ih hts
      have hs := written_of_typeText ht
      exact ⟨List.forall_mem_cons.mpr ⟨by rw [ht, hs], hall⟩,
        by rw [List.map_cons, writtenField, hs]⟩

/-- A shape that has a type expression has it from its children, which have one as well. -/
theorem assembled_of_typeText {s : Shape} (h : s.typeText = .ok t) :
    (∀ c ∈ s.children, c.typeText = .ok c.written) ∧ t = s.assembled := by
  cases s with
  | boolean | number | string | reference =>
      cases h
      exact ⟨by simp [children], rfl⟩
  | array element =>
      obtain ⟨u, hu, h⟩ := bind_eq_ok.mp h
      cases h
      have hs := written_of_typeText hu
      refine ⟨List.forall_mem_singleton.mpr (by rw [hu, hs]), ?_⟩
      rw [assembled, hs]
      rfl
  | tuple elements =>
      obtain ⟨us, hus, h⟩ := bind_eq_ok.mp h
      cases h
      obtain ⟨hall, rfl⟩ := forall_of_typeTexts hus
      refine ⟨hall, ?_⟩
      cases elements <;> rfl
  | dictionary fields =>
      obtain ⟨us, hus, h⟩ := bind_eq_ok.mp h
      cases h
      obtain ⟨hall, rfl⟩ := forall_of_fieldTexts hus
      exact ⟨hall, rfl⟩
  | map key value =>
      obtain ⟨u, hu, h⟩ := bind_eq_ok.mp h
      obtain ⟨v, hv, h⟩ := bind_eq_ok.mp h
      cases h
      have hkey := written_of_typeText hu
      have hvalue := written_of_typeText hv
      refine ⟨?_, ?_⟩
      · rw [children, List.forall_mem_cons, List.forall_mem_singleton, hkey, hvalue]
        exact ⟨hu, hv⟩
      · rw [assembled, hkey, hvalue]
        rfl
  | union variants =>
      obtain ⟨us, hus, rfl⟩ := map_eq_ok.mp h
      obtain ⟨hall, rfl⟩ := forall_of_typeTexts hus
      exact ⟨hall, rfl⟩
  | special kind =>
      refine ⟨by simp [children], ?_⟩
      rw [typeText] at h
      split at h
      · next hkind =>
          cases h
          rw [assembled, hkind, Option.getD_some]
      · cases h
  | foreign value => cases h

/-! ## Type expressions of shapes -/

/-- **All names in the type expression of a shape are names of references of the shape.** -/
theorem wellScoped_of_typeText (s : Shape) :
    ∀ t, s.typeText = .ok t → WellScoped (s.referenced.map typeName) t := by
  induction s using Shape.induction with
  | node s ih =>
      intro t ht
      obtain ⟨hchildren, rfl⟩ := assembled_of_typeText ht
      have hchild : ∀ c ∈ s.children, WellScoped (s.referenced.map typeName) c.written := by
        intro c hc
        exact (ih c hc _ (hchildren c hc)).mono
          (List.map_subset _ (referenced_subset_of_child hc))
      have hmap : ∀ t ∈ s.children.map written, WellScoped (s.referenced.map typeName) t :=
        List.forall_mem_map.mpr hchild
      cases s with
      | boolean => exact .plain (by decide)
      | number choices => exact wellScoped_choicesText (by decide) choices
      | string choices format => exact wellScoped_choicesText (by decide) choices
      | array element => exact .list (hchild element List.mem_cons_self)
      | tuple elements =>
          cases elements with
          | nil => exact .plain (by decide)
          | cons e es => exact .tuple hmap
      | dictionary fields =>
          have hentries : fields.map writtenField = (fields.map fun f =>
              (⟨f.name, f.optional, f.content.written⟩ : RecordEntry)).map RecordEntry.text := by
            rw [List.map_map]
            rfl
          rw [assembled, hentries]
          refine .record fun e he => ?_
          obtain ⟨f, hf, rfl⟩ := List.mem_map.mp he
          exact hchild f.content (List.mem_map_of_mem hf)
      | map key value =>
          exact .dict (hchild key List.mem_cons_self)
            (hchild value (List.mem_cons_of_mem _ List.mem_cons_self))
      | union variants => exact wellScoped_unionText hmap
      | reference id => exact .name (List.mem_map_of_mem (mem_referenced_reference id))
      | special kind =>
          rw [typeText] at ht
          split at ht
          · next t hkind =>
              have hplain : ∀ u : Text, specialText? kind = some u → u ∈ plainTypes := by
                intro u hu
                rw [specialText?] at hu
                split_ifs at hu <;> cases hu <;> decide
              rw [assembled, hkind]
              exact .plain (hplain t hkind)
          · cases ht
      | foreign value => cases ht

/-! ## References of shapes -/

theorem forall_of_allReferencesOf {ss : List Shape} {ids : List Text}
    (h : allReferencesOf ss = .ok ids) : ∀ s ∈ ss, ∃ ids, s.allReferences = .ok ids := by
  induction ss generalizing ids with
  | nil => exact List.forall_mem_nil _
  | cons s ss ih =>
      rw [allReferencesOf] at h
      obtain ⟨first, hfirst, h⟩ := bind_eq_ok.mp h
      obtain ⟨more, hmore, -⟩ := bind_eq_ok.mp h
      exact List.forall_mem_cons.mpr ⟨⟨first, hfirst⟩, ih hmore⟩

/-- References that are collected at all are those of all nodes. -/
theorem allReferences_eq_referenced (s : Shape) :
    ∀ ids, s.allReferences = .ok ids → ids = s.referenced := by
  induction s using Shape.induction with
  | node s ih =>
      intro ids h
      have hsome : ∀ ss : List Shape, (∀ c ∈ ss, c ∈ s.children) → ∀ ids,
          allReferencesOf ss = .ok ids → ids = ss.flatMap referenced := by
        intro ss hss ids hids
        have hall := forall_of_allReferencesOf hids
        rw [allReferencesOf_eq fun c hc => ?_] at hids
        · exact (Except.ok.inj hids).symm
        · obtain ⟨ids, hc'⟩ := hall c hc
          rw [hc', ih c (hss c hc) ids hc']
      rw [referenced_eq]
      cases s with
      | boolean | number | string | special | reference =>
          cases h
          simp [Shape.ids, children]
      | foreign value => cases h
      | tuple elements => exact hsome elements (fun _ hc => hc) ids h
      | union variants => exact hsome variants (fun _ hc => hc) ids h
      | dictionary fields =>
          rw [allReferences, allReferencesOfFields_eq] at h
          exact hsome _ (fun _ hc => hc) ids h
      | array element =>
          have he := ih element List.mem_cons_self ids h
          simp [Shape.ids, children, he]
      | map key value =>
          obtain ⟨ks, hks, h⟩ := bind_eq_ok.mp h
          obtain ⟨vs, hvs, h⟩ := bind_eq_ok.mp h
          cases h
          have hk := ih key List.mem_cons_self ks hks
          have hv := ih value (List.mem_cons_of_mem _ List.mem_cons_self) vs hvs
          simp [Shape.ids, children, hk, hv]

/-- The distinct references of several shapes, if all of them have references. -/
theorem referencesOf_eq_ok {ss : List Shape} {ids : List Text} :
    referencesOf ss = .ok ids ↔ (∀ s ∈ ss, ∃ ids, s.allReferences = .ok ids) ∧
      ids = distinct (ss.flatMap referenced) := by
  have heq : (∀ s ∈ ss, ∃ ids, s.allReferences = .ok ids) →
      allReferencesOf ss = .ok (ss.flatMap referenced) := by
    intro h
    refine allReferencesOf_eq fun s hs => ?_
    obtain ⟨ids, hids⟩ := h s hs
    rw [hids, allReferences_eq_referenced s ids hids]
  rw [referencesOf]
  constructor
  · intro h
    obtain ⟨all, hall, rfl⟩ := map_eq_ok.mp h
    have hsome := forall_of_allReferencesOf hall
    rw [heq hsome] at hall
    exact ⟨hsome, by rw [Except.ok.inj hall]⟩
  · rintro ⟨hsome, rfl⟩
    rw [heq hsome]
    rfl

end Shape

end CallBindings
