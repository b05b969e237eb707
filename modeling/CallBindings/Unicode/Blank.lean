import CallBindings.Unicode.Range

set_option autoImplicit false

/-! # White space

White space is every code point whose bidirectional class is a separator or white space, or
whose category is a space separator. Beside the usual blanks it includes the four information
separators `U+001C`–`U+001F` and the next-line control `U+0085`.
-/

namespace CallBindings

/-- The ranges of white space, both ends included. -/
def Unicode.blanks : List (Nat × Nat) :=
  [(0x09, 0x0D), (0x1C, 0x20), (0x85, 0x85), (0xA0, 0xA0), (0x1680, 0x1680), (0x2000, 0x200A),
    (0x2028, 0x2029), (0x202F, 0x202F), (0x205F, 0x205F), (0x3000, 0x3000)]

/-- White space of any script. -/
def CodePoint.isBlank (c : CodePoint) : Bool := Unicode.inRanges Unicode.blanks c.val

/-- The text without white space at its ends. -/
def Text.trim (t : Text) : Text := t.trimBy CodePoint.isBlank

end CallBindings
