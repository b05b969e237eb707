import CallBindings.Text.Basic

set_option autoImplicit false

/-! # String literals of generated modules

How the reader of a generated module takes a string literal between double quotes. Single
letter escapes denote a quote, a backslash or a control code. An escape `\uXXXX` denotes the
one code point with that number, a surrogate included: two such escapes are two code points,
also when they are the halves of a pair. A line feed ends the literal without closing it.
-/

namespace CallBindings.Literal

/-- The code point denoted by a single letter after a backslash. -/
def escaped? (c : CodePoint) : Option CodePoint :=
  if c = '"' || c = '\\' || c = '\'' then some c
  else if c = 'a' then some (CodePoint.ofNat 7)
  else if c = 'b' then some (CodePoint.ofNat 8)
  else if c = 't' then some (CodePoint.ofNat 9)
  else if c = 'n' then some (CodePoint.ofNat 10)
  else if c = 'v' then some (CodePoint.ofNat 11)
  else if c = 'f' then some (CodePoint.ofNat 12)
  else if c = 'r' then some (CodePoint.ofNat 13)
  else none

/-- The number of four hexadecimal digits. -/
def number? (a b c d : CodePoint) : Option Nat :=
  match a.hexValue?, b.hexValue?, c.hexValue?, d.hexValue? with
  | some a, some b, some c, some d => some (((a * 16 + b) * 16 + c) * 16 + d)
  | _, _, _, _ => none

/-- Puts a code point in front of what has been read. -/
def prepend (c : CodePoint) : Option (Text × Text) → Option (Text × Text)
  | some (t, rest) => some (c :: t, rest)
  | none => none

/-- The text of a literal after its opening quote, and what follows the closing one. -/
def readBody : Text → Option (Text × Text)
  | [] => none
  | c :: t =>
    if c = '"' then some ([], t)
    else if c = '\n' then none
    else if c = '\\' then
      match t with
      | [] => none
      | e :: t =>
        if e = 'u' then
          match t with
          | w :: x :: y :: z :: t =>
            match number? w x y z with
            | some n => prepend (CodePoint.ofNat n) (readBody t)
            | none => none
          | _ => none
        else match escaped? e with
          | some d => prepend d (readBody t)
          | none => none
    else prepend c (readBody t)

/-- The literal a text begins with, and what follows it. -/
def read? : Text → Option (Text × Text)
  | [] => none
  | c :: t => if c = '"' then readBody t else none

end CallBindings.Literal
