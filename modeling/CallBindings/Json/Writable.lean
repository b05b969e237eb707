import CallBindings.Json.Printer
import CallBindings.Json.Shown
import CallBindings.Number.Integer

set_option autoImplicit false

/-! # Values that can be written

An integer of more digits than the limit has no text, nor has a list or an object that holds
one. `compact` and `plain` lay out the text of all other values; the writers here refuse a
value without a text.
-/

namespace CallBindings.Json

mutual

/-- Whether a value has a text: all its integers can be written. -/
def isWritable : Json → Bool
  | .int n => Text.canWrite n
  | .arr items => itemsWritable items
  | .obj members => membersWritable members
  | _ => true

/-- Whether all items of a list have a text. -/
def itemsWritable : List Json → Bool
  | [] => true
  | j :: rest => j.isWritable && itemsWritable rest

/-- Whether all members of an object have a text. -/
def membersWritable : List (Text × Json) → Bool
  | [] => true
  | (_, v) :: rest => v.isWritable && membersWritable rest

end

/-- The text that `layOut` gives a value, if the value has one. -/
def written (layOut : Json → Text) (j : Json) : Except IntegerError Text :=
  if j.isWritable then .ok (layOut j) else .error .unwritable

/-- The compact form of a value, if it has one. -/
def toCompact (j : Json) : Except IntegerError Text := written compact j

/-- The value as a text of its own, if it has one. -/
def toPlain (j : Json) : Except IntegerError Text := written plain j

end CallBindings.Json
