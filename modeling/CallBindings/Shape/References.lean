import CallBindings.GenerationError
import CallBindings.Shape.Basic

set_option autoImplicit false

/-! # References of a shape

The ids of the types a shape refers to, each once and in the order of first occurrence. Only
foreign nodes are errors here: a special kind without a type refers to nothing.
-/

namespace CallBindings.Shape

mutual

/-- The reference ids met in a shape from left to right, repeats included. -/
def allReferences : Shape → Except GenerationError (List Text)
  | .boolean | .number _ | .string _ _ | .special _ => .ok []
  | .reference id => .ok [id]
  | .array element => element.allReferences
  | .tuple elements => allReferencesOf elements
  | .dictionary fields => allReferencesOfFields fields
  | .map key value => do
    let ks ← key.allReferences
    let vs ← value.allReferences
    .ok (ks ++ vs)
  | .union variants => allReferencesOf variants
  | .foreign value => .error (.unsupportedVariant value.kind.name)

/-- The reference ids met in several shapes. -/
def allReferencesOf : List Shape → Except GenerationError (List Text)
  | [] => .ok []
  | s :: rest => do
    let ids ← s.allReferences
    let more ← allReferencesOf rest
    .ok (ids ++ more)

/-- The reference ids met in the fields of a record. -/
def allReferencesOfFields : List (Field Shape) → Except GenerationError (List Text)
  | [] => .ok []
  | ⟨_, s, _⟩ :: rest => do
    let ids ← s.allReferences
    let more ← allReferencesOfFields rest
    .ok (ids ++ more)

end

/-- The distinct reference ids of a shape. -/
def references (s : Shape) : Except GenerationError (List Text) := s.allReferences.map distinct

/-- The distinct reference ids of several shapes. -/
def referencesOf (shapes : List Shape) : Except GenerationError (List Text) :=
  (allReferencesOf shapes).map distinct

end CallBindings.Shape
