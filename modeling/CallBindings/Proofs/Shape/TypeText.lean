import CallBindings.Proofs.Shape.Spelling

set_option autoImplicit false

/-! # Type expressions are uniquely readable

The members of a union are compared as they are written. This merges two of them only if they
are the same up to what type expressions do not show: type expressions are spellings of
canonical shapes, and these can be read off.
-/

namespace CallBindings

open Text

/-- Whether a value is the floating point value that is no number. -/
def Json.isNaN : Json → Bool
  | .float x => x.isNaN
  | _ => false

/-- The text a value is, if it is one. -/
def Json.text? : Json → Option Text
  | .str t => some t
  | _ => none

namespace Shape

/-! ## What a node holds -/

/-- The literals of the enumeration of a node. -/
def literals : Shape → List Json
  | .number choices => choices.getD []
  | .string choices _ => choices.getD []
  | _ => []

/-- The texts that a node holds. -/
def texts : Shape → List Text
  | .string choices format => (choices.getD []).filterMap Json.text? ++ format.toList
  | .dictionary fields => fields.map (·.name)
  | .reference id => [id]
  | .special kind => [kind]
  | _ => []

/-- The ids that a node refers to. -/
def ids : Shape → List Text
  | .reference id => [id]
  | _ => []

/-- Nothing in a node makes its type expression ambiguous: its texts have no surrogates, its
numbers are numbers, and its reference is not named like a built-in type. -/
structure IsUnambiguous (n : Shape) : Prop where
  scalar : ∀ t ∈ n.texts, t.isScalar = true
  number : ∀ j ∈ n.literals, j.isNaN = false
  named : ∀ id ∈ n.ids, id ∉ builtinNames

instance (n : Shape) : Decidable n.IsUnambiguous :=
  decidable_of_iff ((∀ t ∈ n.texts, t.isScalar = true) ∧ (∀ j ∈ n.literals, j.isNaN = false) ∧
    ∀ id ∈ n.ids, id ∉ builtinNames)
    ⟨fun h => ⟨h.1, h.2.1, h.2.2⟩, fun h => ⟨h.scalar, h.number, h.named⟩⟩

/-- Whether nothing in a shape makes its type expression ambiguous. -/
def Unambiguous (s : Shape) : Prop := ∀ n ∈ s.nodes, n.IsUnambiguous

instance (s : Shape) : Decidable s.Unambiguous :=
  inferInstanceAs (Decidable (∀ n ∈ s.nodes, n.IsUnambiguous))

theorem unambiguous_iff {s : Shape} :
    s.Unambiguous ↔ s.IsUnambiguous ∧ ∀ c ∈ s.children, c.Unambiguous := forall_mem_nodes

/-! ## Canonical shapes can be read off -/

theorem keptChoices_eq_some {choices : Option (List Json)} {js : List Json}
    (h : keptChoices choices = some js) : choices = some js ∧ js ≠ [] := by
  rw [keptChoices.eq_def] at h
  split at h
  · cases h
  · cases h
  · rename_i js' hne
    cases h
    exact ⟨rfl, hne⟩

theorem isProperNumber_of_isNumberLiteral {j : Json} (h : isNumberLiteral j = true)
    (hnan : j.isNaN = false) : j.isProperNumber = true := by
  cases j <;> simp only [isNumberLiteral, Bool.false_eq_true] at h
  · rfl
  · rw [Json.isProperNumber, Bool.not_eq_true']
    exact hnan

theorem isScalarLiteral_of_isStringLiteral {j : Json} {js : List Json} (hj : j ∈ js)
    (h : isStringLiteral j = true)
    (hscalar : ∀ t ∈ js.filterMap Json.text?, t.isScalar = true) : IsScalarLiteral j := by
  cases j <;> simp only [isStringLiteral, Bool.false_eq_true] at h
  case str t => exact ⟨t, rfl, hscalar t (List.mem_filterMap.mpr ⟨_, hj, rfl⟩)⟩

/-- The canonical form of a sound and unambiguous shape shows in its spelling all it has. -/
theorem readable_canonical (s : Shape) (hs : s.Sound) (hu : s.Unambiguous) :
    s.canonical.Readable := by
  induction s using Shape.induction with
  | node s ih =>
      obtain ⟨hsn, hsc⟩ := sound_iff.mp hs
      obtain ⟨hun, huc⟩ := unambiguous_iff.mp hu
      have hcanonical : ∀ c ∈ s.children, c.canonical.Readable :=
        fun c hc => ih c hc (hsc c hc) (huc c hc)
      have hmap : ∀ c ∈ s.children.map canonical, c.Readable := by
        intro c hc
        obtain ⟨d, hd, rfl⟩ := List.mem_map.mp hc
        exact hcanonical d hd
      cases s with
      | boolean => exact readable_iff.mpr ⟨trivial, by simp [canonical, children]⟩
      | number choices =>
          refine readable_iff.mpr ⟨?_, by simp [canonical, children]⟩
          intro js hjs
          obtain ⟨rfl, hne⟩ := keptChoices_eq_some hjs
          exact ⟨hne, fun j hj => isProperNumber_of_isNumberLiteral (hsn j hj) (hun.number j hj)⟩
      | string choices format =>
          refine readable_iff.mpr ⟨⟨rfl, ?_⟩, by simp [canonical, children]⟩
          intro js hjs
          obtain ⟨rfl, hne⟩ := keptChoices_eq_some hjs
          exact ⟨hne, fun j hj => isScalarLiteral_of_isStringLiteral hj (hsn j hj)
            fun t ht => hun.scalar t (List.mem_append_left _ ht)⟩
      | array element => exact readable_iff.mpr ⟨trivial, hmap⟩
      | tuple elements =>
          rw [canonical, canonicals_eq]
          exact readable_iff.mpr ⟨trivial, hmap⟩
      | dictionary fields =>
          rw [canonical, canonicalFields_eq]
          refine readable_iff.mpr ⟨?_, ?_⟩
          · intro f hf
            obtain ⟨g, hg, rfl⟩ := List.mem_map.mp hf
            exact hun.scalar g.name (List.mem_map_of_mem hg)
          · intro c hc
            obtain ⟨f, hf, rfl⟩ := List.mem_map.mp hc
            obtain ⟨g, hg, rfl⟩ := List.mem_map.mp hf
            exact hcanonical g.content (List.mem_map_of_mem hg)
      | map key value => exact readable_iff.mpr ⟨trivial, hmap⟩
      | union variants =>
          rw [canonical, canonicals_eq]
          -- a union of one type is written as that type
          rcases unionOf_cases (variants.map canonical) with h | h
          · exact hmap _ h
          · rw [h]
            exact readable_iff.mpr ⟨trivial, fun c hc => hmap c (mem_distinct.mp hc)⟩
      | reference id =>
          exact readable_iff.mpr ⟨hun.named id (List.mem_singleton_self id),
            by simp [canonical, children]⟩
      | special kind => exact readable_iff.mpr ⟨hsn, by simp [canonical, children]⟩
      | foreign value => exact hsn.elim

/-! ## Type expressions are spellings -/

/-- **The type expression of a shape is the spelling of its canonical form.** -/
theorem written_eq_spelling (s : Shape) (hs : s.Sound) (hu : s.Unambiguous) :
    s.written = s.canonical.spelling := by
  induction s using Shape.induction with
  | node s ih =>
      obtain ⟨hsn, hsc⟩ := sound_iff.mp hs
      obtain ⟨hun, huc⟩ := unambiguous_iff.mp hu
      have hchild : ∀ c ∈ s.children, c.written = c.canonical.spelling :=
        fun c hc => ih c hc (hsc c hc) (huc c hc)
      have hmap : ∀ cs : List Shape, (∀ c ∈ cs, c ∈ s.children) →
          cs.map written = (cs.map canonical).map spelling := by
        intro cs hcs
        rw [List.map_map]
        exact List.map_congr_left fun c hc => hchild c (hcs c hc)
      rw [written_eq hs]
      cases s with
      | boolean => rfl
      | number choices => exact choicesText_eq _ choices
      | string choices format => exact choicesText_eq _ choices
      | array element =>
          rw [assembled, hchild element (by simp [children])]
          rfl
      | tuple elements =>
          rw [canonical, spelling, canonicals_eq, spellings_eq]
          cases elements with
          | nil => rfl
          | cons e es =>
              rw [assembled, hmap (e :: es) fun c hc => hc]
              rfl
      | dictionary fields =>
          have hfields : fields.map writtenField =
              (fields.map (Field.mapContent canonical)).map fieldSpelling := by
            rw [List.map_map]
            refine List.map_congr_left fun f hf => ?_
            rw [writtenField, hchild f.content (List.mem_map_of_mem hf)]
            rfl
          rw [assembled, hfields, canonical, spelling, canonicalFields_eq, fieldSpellings_eq]
      | map key value =>
          rw [assembled, hchild key (by simp [children]), hchild value (by simp [children])]
          rfl
      | union variants =>
          -- equal texts come from equal types, so the texts left out are those of types left out
          have hreadable : ∀ a ∈ variants.map canonical, a.Readable := by
            intro a ha
            obtain ⟨c, hc, rfl⟩ := List.mem_map.mp ha
            exact readable_canonical c (hsc c hc) (huc c hc)
          rw [assembled, hmap variants fun c hc => hc, canonical, canonicals_eq]
          exact unionText_map_spelling fun a ha b hb =>
            spelling_injective (hreadable a ha) (hreadable b hb)
      | reference id => rfl
      | special kind => rfl
      | foreign value => exact hsn.elim

/-- **Two shapes have the same type expression exactly if they have the same canonical form.** -/
theorem typeText_eq_iff_canonical {source source' : Option Text} {j j' : Json} {a b : Shape}
    (ha : ofJson source j = .ok a) (hb : ofJson source' j' = .ok b) (hau : a.Unambiguous)
    (hbu : b.Unambiguous) :
    ∃ s t : Text, a.typeText = .ok s ∧ b.typeText = .ok t ∧ (s = t ↔ a.canonical = b.canonical) := by
  have has := sound_of_ofJson ha
  have hbs := sound_of_ofJson hb
  refine ⟨_, _, typeText_eq_written a has, typeText_eq_written b hbs, ?_⟩
  rw [written_eq_spelling a has hau, written_eq_spelling b hbs hbu]
  constructor
  · exact spelling_injective (readable_canonical a has hau) (readable_canonical b hbs hbu)
  · intro h
    rw [h]

/-- A descriptor of a union of two enumerations and a reference, where a format is named. -/
def keyDescriptor (format : Json) : Json :=
  .obj [(ofString "type", .str "union"), (ofString "variants", .arr [
    .obj [(ofString "type", .str "string"), (ofString "enum", .arr [.str "a]", .str "b, c"]),
      (ofString "format", format)],
    .obj [(ofString "type", .str "number"), (ofString "enum", .arr [.int 1, .float ⟨false, 1023, 0⟩])],
    .obj [(ofString "type", .str "string"), (ofString "enum", .arr [.str "a]", .str "b, c"])],
    .obj [(ofString "type", .str "reference"), (ofString "id", .str "User-Key")]])]

/-- The union that is described. -/
def keyShape (format : Option Text) : Shape :=
  .union [.string (some [.str "a]", .str "b, c"]) format,
    .number (some [.int 1, .float ⟨false, 1023, 0⟩]),
    .string (some [.str "a]", .str "b, c"]) none, .reference "User-Key"]

theorem typeText_eq_iff_canonical_keys :
    ofJson none (keyDescriptor (.str "uuid")) = .ok (keyShape (some "uuid")) ∧
    ofJson none (keyDescriptor .null) = .ok (keyShape none) ∧
    (keyShape (some "uuid")).Unambiguous ∧ (keyShape none).Unambiguous ∧
    ∃ s t : Text, (keyShape (some "uuid")).typeText = .ok s ∧ (keyShape none).typeText = .ok t ∧
      (s = t ↔ (keyShape (some "uuid")).canonical = (keyShape none).canonical) := by
  have ha : ofJson none (keyDescriptor (.str "uuid")) = .ok (keyShape (some "uuid")) := rfl
  have hb : ofJson none (keyDescriptor .null) = .ok (keyShape none) := rfl
  have hau : (keyShape (some "uuid")).Unambiguous := by decide
  have hbu : (keyShape none).Unambiguous := by decide
  exact ⟨ha, hb, hau, hbu, typeText_eq_iff_canonical ha hb hau hbu⟩

end Shape

end CallBindings
