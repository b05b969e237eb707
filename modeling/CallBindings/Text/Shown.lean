import CallBindings.Unicode.Word

set_option autoImplicit false

/-! # Text as messages show it

Messages show a text between single quotes, or between double quotes if it holds a single
quote and no double one. Backslashes, the quote in use and code points without a visible form
are written as escapes: `\n`, `\r`, `\t`, or by number with two, four or eight hexadecimal
digits.
-/

namespace CallBindings.Text

/-- The escape of a code point without a visible form. -/
def numberEscape (c : CodePoint) : Text :=
  if c.val < 0x100 then "\\x" ++ hexPadded 2 c.val
  else if c.val < 0x10000 then "\\u" ++ hexPadded 4 c.val
  else "\\U" ++ hexPadded 8 c.val

/-- One code point of a shown text between quotes `q`. -/
def showCodePoint (q c : CodePoint) : Text :=
  if c = q || c = '\\' then ['\\', c]
  else if c = '\n' then "\\n"
  else if c = '\r' then "\\r"
  else if c = '\t' then "\\t"
  else if c.isVisible then [c]
  else numberEscape c

/-- The quote a text is shown between. -/
def shownQuote (t : Text) : CodePoint :=
  if t.contains '\'' && !t.contains '"' then '"' else '\''

/-- The text as messages show it. -/
def shown (t : Text) : Text :=
  let q := t.shownQuote
  q :: t.flatMap (showCodePoint q) ++ [q]

end CallBindings.Text
