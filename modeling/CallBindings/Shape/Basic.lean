import CallBindings.Json.Basic

set_option autoImplicit false

/-! # Shapes

A shape describes the values a request or response body may take. Numbers and strings may be
restricted to an enumeration of literals; records keep the order of their fields; references
name types that are resolved elsewhere. The kinds of shape form a closed set. A tree that was
not read from a descriptor may still hold a value of another sort where a shape should stand;
such a `foreign` node is rejected by every consumer.
-/

namespace CallBindings

/-- A named entry of a record whose content has type `α`. -/
structure Field (α : Type) where
  name : Text
  content : α
  optional : Bool

/-- The shape of a value. -/
inductive Shape where
  | boolean
  | number (choices : Option (List Json))
  | string (choices : Option (List Json)) (format : Option Text)
  | array (element : Shape)
  | tuple (elements : List Shape)
  | dictionary (fields : List (Field Shape))
  | map (key value : Shape)
  | union (variants : List Shape)
  | reference (id : Text)
  | special (kind : Text)
  | foreign (value : Json)

instance : Inhabited Shape := ⟨.boolean⟩

/-- The kinds of passthrough shape a descriptor may name. -/
def Shape.specialKinds : List Text := [Text.ofString "any", Text.ofString "unknown",
  Text.ofString "undefined"]

end CallBindings
