import CallBindings.Proofs.Distinct
import CallBindings.Proofs.Shape.Written

set_option autoImplicit false

/-! # Canonical shapes and their spelling

The type expression of a shape shows less than the shape: it has no formats, an empty
enumeration is none at all, and a union has each of its members once. `Shape.canonical` is the
shape without all that. `Shape.spelling` writes a shape as it stands, so that nothing in it is
dropped; of a canonical shape it is the type expression.
-/

namespace CallBindings

/-- A field with another content. -/
def Field.mapContent {α β : Type} (f : α → β) (x : Field α) : Field β :=
  ⟨x.name, f x.content, x.optional⟩

/-- An enumeration, an empty one taken for none. -/
def keptChoices : Option (List Json) → Option (List Json)
  | none | some [] => none
  | some choices => some choices

namespace Shape

/-! ## Canonical shapes -/

/-- The union of shapes: repeats dropped, a single one standing for itself. -/
def unionOf (variants : List Shape) : Shape :=
  match distinct variants with
  | [s] => s
  | ss => .union ss

mutual

/-- The shape as far as its type expression shows it. -/
def canonical : Shape → Shape
  | .number choices => .number (keptChoices choices)
  | .string choices _ => .string (keptChoices choices) none
  | .array element => .array element.canonical
  | .tuple elements => .tuple (canonicals elements)
  | .dictionary fields => .dictionary (canonicalFields fields)
  | .map key value => .map key.canonical value.canonical
  | .union variants => unionOf (canonicals variants)
  | s => s

/-- Several shapes as far as their type expressions show them. -/
def canonicals : List Shape → List Shape
  | [] => []
  | s :: ss => s.canonical :: canonicals ss

/-- The fields of a record as far as type expressions show them. -/
def canonicalFields : List (Field Shape) → List (Field Shape)
  | [] => []
  | ⟨name, s, optional⟩ :: fields => ⟨name, s.canonical, optional⟩ :: canonicalFields fields

end

theorem canonicals_eq (ss : List Shape) : canonicals ss = ss.map canonical := by
  induction ss with
  | nil => rfl
  | cons s ss ih => rw [canonicals, ih, List.map_cons]

theorem canonicalFields_eq (fields : List (Field Shape)) :
    canonicalFields fields = fields.map (Field.mapContent canonical) := by
  induction fields with
  | nil => rfl
  | cons f fields ih =>
      rw [canonicalFields, ih, List.map_cons]
      rfl

/-- A union in canonical form is one of its variants or has variants among them. -/
theorem unionOf_cases (ss : List Shape) :
    unionOf ss ∈ ss ∨ unionOf ss = .union (distinct ss) := by
  rw [unionOf]
  split
  · rename_i s h
    have hs : s ∈ distinct ss := by simp [h]
    exact Or.inl (mem_distinct.mp hs)
  · exact Or.inr rfl

/-! ## Spelling -/

/-- The spelling of an enumeration. -/
def choicesSpelling (plain : Text) : Option (List Json) → Text
  | none => plain
  | some choices => "Literal" ++ brackets (choices.map literalText)

mutual

/-- The shape written as it stands. -/
def spelling : Shape → Text
  | .boolean => "bool"
  | .number choices => choicesSpelling "float" choices
  | .string choices _ => choicesSpelling "str" choices
  | .array element => "List" ++ brackets [element.spelling]
  | .tuple elements => "Tuple" ++
      (if elements.isEmpty then Text.ofString "[()]" else brackets (spellings elements))
  | .dictionary fields => "TypedDict" ++ braces (fieldSpellings fields)
  | .map key value => "Dict" ++ brackets [key.spelling, value.spelling]
  | .union variants =>
      if variants.isEmpty then "Never" else "Union" ++ brackets (spellings variants)
  | .reference id => id.typeName
  | .special kind => (specialText? kind).getD []
  | .foreign _ => []

/-- Several shapes written as they stand. -/
def spellings : List Shape → List Text
  | [] => []
  | s :: ss => s.spelling :: spellings ss

/-- The fields of a record written as they stand. -/
def fieldSpellings : List (Field Shape) → List Text
  | [] => []
  | ⟨name, s, optional⟩ :: fields => fieldText name optional s.spelling :: fieldSpellings fields

end

/-- The spelling of a field. -/
def fieldSpelling (f : Field Shape) : Text := fieldText f.name f.optional f.content.spelling

theorem spellings_eq (ss : List Shape) : spellings ss = ss.map spelling := by
  induction ss with
  | nil => rfl
  | cons s ss ih => rw [spellings, ih, List.map_cons]

theorem fieldSpellings_eq (fields : List (Field Shape)) :
    fieldSpellings fields = fields.map fieldSpelling := by
  induction fields with
  | nil => rfl
  | cons f fields ih =>
      rw [fieldSpellings, ih, List.map_cons]
      rfl

theorem choicesText_eq (plain : Text) (choices : Option (List Json)) :
    choicesText plain choices = choicesSpelling plain (keptChoices choices) := by
  cases choices with
  | none => rfl
  | some cs => cases cs <;> rfl

/-- The union of written members is the written union, where different members are written
differently. -/
theorem unionText_map_spelling {ss : List Shape}
    (h : ∀ a ∈ ss, ∀ b ∈ ss, a.spelling = b.spelling → a = b) :
    unionText (ss.map spelling) = (unionOf ss).spelling := by
  rw [unionText, distinct_map h, unionOf]
  rcases distinct ss with _ | ⟨a, _ | ⟨b, rest⟩⟩
  · rfl
  · rfl
  · simp only [List.map_cons, spelling, List.isEmpty_cons, spellings_eq]
    rfl

end Shape

end CallBindings
