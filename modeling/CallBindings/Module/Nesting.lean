import CallBindings.Text.Basic

set_option autoImplicit false

/-! # Nested brackets in a line

How deeply the brackets of a line of a module are nested. Brackets inside literals do not count.
A literal stands between two quotes of either kind, and a backslash in it keeps the code point
after it from ending it.
-/

namespace CallBindings

/-- What is known of a line up to some place in it. -/
structure Nesting where
  /-- The quote that the literal at this place ends with, if there is a literal. -/
  quote : Option CodePoint := none
  /-- Whether a backslash stands before this place in the literal. -/
  escaped : Bool := false
  /-- The number of brackets that are open. -/
  depth : Nat := 0
  /-- The greatest number of brackets that have been open at once. -/
  deepest : Nat := 0

namespace Nesting

/-- Whether a code point opens a bracket. -/
def opens (c : CodePoint) : Bool := c = '(' || c = '[' || c = '\x7b'

/-- Whether a code point closes a bracket. -/
def closes (c : CodePoint) : Bool := c = ')' || c = ']' || c = '\x7d'

/-- What is known one code point further. -/
def step (n : Nesting) (c : CodePoint) : Nesting :=
  match n.quote with
  | some q =>
    if n.escaped then { n with escaped := false }
    else if c = q then { n with quote := none }
    else { n with escaped := c = '\\' }
  | none =>
    if c = '"' || c = '\'' then { n with quote := some c }
    else if opens c then
      { n with depth := n.depth + 1, deepest := max n.deepest (n.depth + 1) }
    else if closes c then { n with depth := n.depth - 1 }
    else n

/-- The greatest number of brackets that are open at once in a line. -/
def ofLine (line : Text) : Nat := (line.foldl step {}).deepest

end Nesting

end CallBindings
