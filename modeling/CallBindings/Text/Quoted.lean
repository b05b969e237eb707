import CallBindings.Text.Basic

set_option autoImplicit false

/-! # Quoted text

A quoted text stands between double quotes. Quotes, backslashes and control codes are written
as escapes. In the ASCII form every code point outside the printable ASCII range is written
as one or two escapes `\uXXXX`, those above `0xFFFF` as a surrogate pair; in the open form
they stand for themselves.
-/

namespace CallBindings.Text

/-- A backslash followed by `c`. -/
def backslashed (c : Char) : Text := ['\\', CodePoint.ofChar c]

/-- The escape `\uXXXX` of a number below `0x10000`. -/
def unicodeEscape (n : Nat) : Text := "\\u" ++ hexPadded 4 n

/-- The escapes that quoted text has beside `\uXXXX`. -/
def shortEscape? (c : CodePoint) : Option Text :=
  if c = '"' then some (backslashed '"')
  else if c = '\\' then some (backslashed '\\')
  else if c = '\n' then some (backslashed 'n')
  else if c = '\r' then some (backslashed 'r')
  else if c = '\t' then some (backslashed 't')
  else if c.val = 8 then some (backslashed 'b')
  else if c.val = 12 then some (backslashed 'f')
  else none

/-- The escapes of the two halves of a pair for a code point above `0xFFFF`. -/
def pairEscape (n : Nat) : Text :=
  unicodeEscape (0xD800 + (n - 0x10000) / 0x400) ++ unicodeEscape (0xDC00 + (n - 0x10000) % 0x400)

/-- One code point of a quoted text in the ASCII form. -/
def quoteCodePoint (c : CodePoint) : Text :=
  match shortEscape? c with
  | some e => e
  | none =>
    if 0x20 ≤ c.val && c.val ≤ 0x7E then [c]
    else if c.val < 0x10000 then unicodeEscape c.val
    else pairEscape c.val

/-- One code point of a quoted text in the open form. -/
def quoteOpenCodePoint (c : CodePoint) : Text :=
  match shortEscape? c with
  | some e => e
  | none => if c.val < 0x20 then unicodeEscape c.val else [c]

/-- The text between double quotes, in ASCII. -/
def quote (t : Text) : Text := "\"" ++ t.flatMap quoteCodePoint ++ "\""

/-- The text between double quotes, code points beyond ASCII standing for themselves. -/
def quoteOpen (t : Text) : Text := "\"" ++ t.flatMap quoteOpenCodePoint ++ "\""

end CallBindings.Text
