import CallBindings.Json.Basic
import CallBindings.Number.Layout
import CallBindings.Text.Shown

set_option autoImplicit false

/-! # Values as messages show them

Messages and URLs hold values in the notation of the generated modules' language: `None`,
`True` and `False`, quoted texts, and lists and objects in brackets. Standing alone, a text is
written as it is.

The layout is that of any value. Whether a value has a text at all, its integers being short
enough, is asked where values come from callers; those that were read always have one.
-/

namespace CallBindings.Json

mutual

/-- The value as messages show it, texts between quotes. -/
def shown : Json → Text
  | .null => "None"
  | .bool b => if b then "True" else "False"
  | .int n => Text.ofInt n
  | .float x => NumberLayout.shown.render x
  | .str t => t.shown
  | .arr items => "[" ++ shownItems items ++ "]"
  | .obj members => "\x7b" ++ shownMembers members ++ "\x7d"

/-- The items of a list, shown. -/
def shownItems : List Json → Text
  | [] => []
  | [j] => j.shown
  | j :: rest => j.shown ++ ", " ++ shownItems rest

/-- The members of an object, shown. -/
def shownMembers : List (Text × Json) → Text
  | [] => []
  | [(k, v)] => k.shown ++ ": " ++ v.shown
  | (k, v) :: rest => k.shown ++ ": " ++ v.shown ++ ", " ++ shownMembers rest

end

/-- The value as a text of its own: a text stays as it is, all else is shown. -/
def plain : Json → Text
  | .str t => t
  | j => j.shown

end CallBindings.Json
