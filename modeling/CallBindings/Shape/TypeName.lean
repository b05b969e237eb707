import CallBindings.Unicode.Identifier

set_option autoImplicit false

/-! # Names of type parameters

Every referenced type becomes a type parameter of the generated module. An id that is a
stable identifier keeps its spelling, unless it begins with an underscore, is a keyword or is
bound in every module. All other ids are written behind an underscore, where each code point
that cannot stand in an identifier as it is, the underscore included, becomes its number in
hexadecimal between underscores.
-/

namespace CallBindings

/-- The names that every generated module binds. -/
def reservedNames : List Text :=
  ["Any", "Dict", "Generic", "List", "Literal", "Tuple", "TypeVar", "Union", "Never",
    "NotRequired", "TypedDict", "Binding", "ContractTypes", "DispatchOptions", "bind",
    "TRANSPORT", "ModelReferences", "Contracts", "Bindings", "create_bindings",
    "annotations"].map Text.ofString

/-- Whether a reference id can be used as the name of its type parameter. -/
def Text.isPlainTypeName (id : Text) : Bool :=
  id.isStableIdentifier && !id.startsWith "_" && !reservedNames.contains id && !id.isKeyword

/-- Whether a code point can stand in an escaped name as it is. -/
def CodePoint.isPlainInName (c : CodePoint) : Bool :=
  c ≠ '_' && Text.isStableIdentifier ['a', c]

/-- One code point of an escaped name. -/
def CodePoint.escapedInName (c : CodePoint) : Text :=
  if c.isPlainInName then [c] else "_" ++ Text.hex c.val ++ "_"

/-- The name of the type parameter that stands for a referenced type. -/
def Text.typeName (id : Text) : Text :=
  if id.isPlainTypeName then id else "_" ++ id.flatMap CodePoint.escapedInName

end CallBindings
