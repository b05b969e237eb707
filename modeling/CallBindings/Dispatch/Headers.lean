import CallBindings.Json.Basic
import CallBindings.Unicode.Case

set_option autoImplicit false

/-! # Headers

Header names are compared without regard to case. Layers of headers are merged from the
lowest precedence to the highest: the content type of JSON, the headers fixed for a binding,
and those of a call. A header keeps the place of its first occurrence and takes spelling and
value from its last.
-/

namespace CallBindings

/-- Header names with their values, in order. -/
abbrev Headers := List (Text × Json)

namespace Headers

/-- The header every request starts with. -/
def jsonContent : Headers := [("Content-Type", .str "application/json")]

/-- Headers by lower-case name, each with its spelling and value. -/
def fold (headers : Headers) : List (Text × (Text × Json)) :=
  assignAll [] (headers.map fun h => (h.1.lower, h))

/-- Merges the headers of a binding and of a call over the default. -/
def merge (fixed perCall : Headers) : Headers :=
  assignAll [] ((fold (jsonContent ++ fixed ++ perCall)).map (·.2))

end Headers

end CallBindings
