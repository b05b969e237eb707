import CallBindings.GenerationError
import CallBindings.Shape.Basic
import CallBindings.Shape.TypeName
import CallBindings.Text.Quoted

set_option autoImplicit false

/-! # Shapes as type expressions

The type expression of a shape, as it is written in a generated module. Equal members of a
union are written once, at the first place; a union of one member is that member and an empty
union has no values. Foreign nodes and special kinds without a type are errors, the first one
met from left to right being reported.
-/

namespace CallBindings

/-- The union of type expressions: repeats dropped, in the order of first occurrence. -/
def unionText (members : List Text) : Text :=
  match distinct members with
  | [] => "Never"
  | [t] => t
  | ts => "Union[" ++ Text.join ", " ts ++ "]"

/-- A literal in a type expression. It comes from a descriptor that was read, so it has a text. -/
def literalText : Json → Text
  | .str t => t.quote
  | j => j.shown

/-- The type of an enumeration, or `plain` where there is none or an empty one. -/
def choicesText (plain : Text) : Option (List Json) → Text
  | none | some [] => plain
  | some choices => "Literal[" ++ Text.join ", " (choices.map literalText) ++ "]"

/-- The type of a passthrough shape. -/
def specialText? (kind : Text) : Option Text :=
  if kind = "any" then some "Any"
  else if kind = "unknown" then some "object"
  else if kind = "undefined" then some "None"
  else none

/-- A record entry in a type expression. -/
def fieldText (name : Text) (optional : Bool) (type : Text) : Text :=
  name.quote ++ ": " ++ if optional then "NotRequired[" ++ type ++ "]" else type

namespace Shape

mutual

/-- The type expression of a shape. -/
def typeText : Shape → Except GenerationError Text
  | .boolean => .ok "bool"
  | .number choices => .ok (choicesText "float" choices)
  | .string choices _ => .ok (choicesText "str" choices)
  | .array element => do
    let t ← element.typeText
    .ok ("List[" ++ t ++ "]")
  | .tuple elements => do
    let ts ← typeTexts elements
    .ok (if ts.isEmpty then "Tuple[()]" else "Tuple[" ++ Text.join ", " ts ++ "]")
  | .dictionary fields => do
    let ts ← fieldTexts fields
    .ok ("TypedDict[\x7b" ++ Text.join ", " ts ++ "\x7d]")
  | .map key value => do
    let k ← key.typeText
    let v ← value.typeText
    .ok ("Dict[" ++ k ++ ", " ++ v ++ "]")
  | .union variants => (typeTexts variants).map unionText
  | .reference id => .ok id.typeName
  | .special kind =>
    match specialText? kind with
    | some t => .ok t
    | none => .error (.unsupportedVariant ("special:" ++ kind))
  | .foreign value => .error (.unsupportedVariant value.kind.name)

/-- The type expressions of several shapes. -/
def typeTexts : List Shape → Except GenerationError (List Text)
  | [] => .ok []
  | s :: rest => do
    let t ← s.typeText
    let ts ← typeTexts rest
    .ok (t :: ts)

/-- The entries of a record type. -/
def fieldTexts : List (Field Shape) → Except GenerationError (List Text)
  | [] => .ok []
  | ⟨name, s, optional⟩ :: rest => do
    let t ← s.typeText
    let ts ← fieldTexts rest
    .ok (fieldText name optional t :: ts)

end

end Shape

end CallBindings
