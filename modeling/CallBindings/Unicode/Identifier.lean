import CallBindings.Unicode.IdentifierTable
import CallBindings.Unicode.Normal

set_option autoImplicit false

/-! # Identifiers

An identifier begins with a letter or the underscore and goes on with letters, digits, marks
and connectors of any script. Readers of generated code compare identifiers by their
compatibility composed form, so a spelling that is not composed stands for another one; a
stable identifier is its own composed form.
-/

namespace CallBindings

/-- A code point an identifier can begin with. -/
def CodePoint.startsIdentifier (c : CodePoint) : Bool :=
  c.val == 0x5F || Unicode.inRanges Unicode.identifierStart c.val

/-- A code point that can stand in an identifier. -/
def CodePoint.inIdentifier (c : CodePoint) : Bool :=
  c.startsIdentifier || Unicode.inRanges Unicode.identifierExtend c.val

/-- Whether the text is an identifier. -/
def Text.isIdentifier : Text → Bool
  | [] => false
  | c :: t => c.startsIdentifier && t.all CodePoint.inIdentifier

/-- Whether the text is an identifier that readers take as it is spelled. -/
def Text.isStableIdentifier (t : Text) : Bool := t.isIdentifier && t.normalize = t

/-- The reserved words of the language of generated modules. -/
def keywords : List Text :=
  ["False", "None", "True", "and", "as", "assert", "async", "await", "break", "class", "continue",
    "def", "del", "elif", "else", "except", "finally", "for", "from", "global", "if", "import",
    "in", "is", "lambda", "nonlocal", "not", "or", "pass", "raise", "return", "try", "while",
    "with", "yield"].map Text.ofString

/-- Whether the text is a reserved word. -/
def Text.isKeyword (t : Text) : Bool := keywords.contains t

end CallBindings
