import CallBindings.Json.Basic
import CallBindings.Number.Layout
import CallBindings.Text.Quoted

set_option autoImplicit false

/-! # Writing JSON

Two written forms. The compact form is ASCII on one line, with a space after each comma and
colon; it is the form of request bodies and of values in queries. The indented form has one
item or member a line, two spaces deeper than its container, and leaves code points beyond
ASCII as they are; it is the form of printed settings and results.
-/

namespace CallBindings.Json

/-- A truth value in JSON. -/
def boolText (b : Bool) : Text := if b then "true" else "false"

mutual

/-- The compact form of a value. -/
def compact : Json → Text
  | .null => "null"
  | .bool b => boolText b
  | .int n => Text.ofInt n
  | .float x => NumberLayout.json.render x
  | .str t => t.quote
  | .arr items => "[" ++ compactItems items ++ "]"
  | .obj members => "\x7b" ++ compactMembers members ++ "\x7d"

/-- The items of a list in the compact form. -/
def compactItems : List Json → Text
  | [] => []
  | [j] => j.compact
  | j :: rest => j.compact ++ ", " ++ compactItems rest

/-- The members of an object in the compact form. -/
def compactMembers : List (Text × Json) → Text
  | [] => []
  | [(k, v)] => k.quote ++ ": " ++ v.compact
  | (k, v) :: rest => k.quote ++ ": " ++ v.compact ++ ", " ++ compactMembers rest

end

/-- A line break and the blanks that begin a line at `depth`. -/
def newLine (depth : Nat) : Text :=
  CodePoint.ofChar '\n' :: List.replicate (2 * depth) (CodePoint.ofChar ' ')

mutual

/-- The indented form of a value whose container stands at `depth`. -/
def indentedAt (depth : Nat) : Json → Text
  | .null => "null"
  | .bool b => boolText b
  | .int n => Text.ofInt n
  | .float x => NumberLayout.json.render x
  | .str t => t.quoteOpen
  | .arr [] => "[]"
  | .arr items => "[" ++ indentedItems (depth + 1) items ++ newLine depth ++ "]"
  | .obj [] => "\x7b\x7d"
  | .obj members => "\x7b" ++ indentedMembers (depth + 1) members ++ newLine depth ++ "\x7d"

/-- The items of a list, each on a line at `depth`. -/
def indentedItems (depth : Nat) : List Json → Text
  | [] => []
  | [j] => newLine depth ++ j.indentedAt depth
  | j :: rest => newLine depth ++ j.indentedAt depth ++ "," ++ indentedItems depth rest

/-- The members of an object, each on a line at `depth`. -/
def indentedMembers (depth : Nat) : List (Text × Json) → Text
  | [] => []
  | [(k, v)] => newLine depth ++ k.quoteOpen ++ ": " ++ v.indentedAt depth
  | (k, v) :: rest =>
    newLine depth ++ k.quoteOpen ++ ": " ++ v.indentedAt depth ++ "," ++ indentedMembers depth rest

end

/-- The indented form of a value. -/
def indented (j : Json) : Text := indentedAt 0 j

end CallBindings.Json
