import CallBindings.Number.Places
import CallBindings.Text.Shown

set_option autoImplicit false

/-! # Fields of a log line

A field shows a value as a text, as a number or as a single code point, in a least width. Only
a number can be shown as a number, and only a number or a text of one code point as a code
point. A value of which only the beginning is known can be shown if it is cut before that ends.
-/

namespace CallBindings

/-- What a field shows. -/
inductive FieldValue where
  | text (t : Text)
  | number (n : Nat)
  | nothing
  /-- What messages show as a text that begins so. -/
  | beginning (t : Text)
deriving DecidableEq

namespace FieldValue

/-- The value as a text of its own. -/
def plain : FieldValue → Text
  | .text t => t
  | .number n => Text.ofNat n
  | .nothing => "None"
  | .beginning t => t

/-- The value as messages show it. -/
def shown : FieldValue → Text
  | .text t => t.shown
  | v => v.plain

/-- The value as messages show it, in ASCII. -/
def shownAscii (v : FieldValue) : Text :=
  v.shown.flatMap fun c => if c.val < 0x80 then [c] else Text.numberEscape c

/-- The code point that the value is, or whose number it is. -/
def codePoint? : FieldValue → Option CodePoint
  | .text [c] => some c
  | .number n => CodePoint.ofNat? n
  | _ => none

end FieldValue

/-- The ways in which a field shows its value. -/
inductive Conversion where
  | plain | shown | shownAscii
  | decimal | octal
  | hexadecimal (upper : Bool)
  | fixed
  | exponent (upper : Bool)
  | general (upper : Bool)
  | codePoint
deriving DecidableEq

/-- The letters that end a field. -/
def Conversion.byLetter : List (Char × Conversion) :=
  [('s', .plain), ('r', .shown), ('a', .shownAscii), ('d', .decimal), ('i', .decimal),
    ('u', .decimal), ('o', .octal), ('x', .hexadecimal false), ('X', .hexadecimal true),
    ('f', .fixed), ('F', .fixed), ('e', .exponent false), ('E', .exponent true),
    ('g', .general false), ('G', .general true), ('c', .codePoint)]

/-- The conversion that a letter means. -/
def Conversion.ofLetter? (c : CodePoint) : Option Conversion :=
  (byLetter.find? fun e => CodePoint.ofChar e.1 = c).map (·.2)

/-- A field of a layout: the key of what it shows, which may be left out, and how. -/
structure LogField where
  key : Option Text
  flags : Text
  width : Nat
  precision : Option Nat
  conversion : Conversion

namespace LogField

/-- Fills a text up to the width. -/
def pad (f : LogField) (t : Text) : Text :=
  let blanks := List.replicate (f.width - t.length) (CodePoint.ofChar ' ')
  if f.flags.contains '-' then t ++ blanks else blanks ++ t

/-- A text cut to the precision and filled up to the width. -/
def fit (f : LogField) (t : Text) : Text :=
  f.pad (match f.precision with
    | none => t
    | some n => t.take n)

/-- Whether the precision cuts a text before its end. -/
def cuts (f : LogField) (t : Text) : Bool :=
  match f.precision with
  | none => false
  | some n => n ≤ t.length

/-- What a field writes for the text of a value. -/
def writeText? (f : LogField) (v : FieldValue) (t : Text) : Option Text :=
  match v with
  | .beginning _ => if f.cuts t then some (f.fit t) else none
  | _ => some (f.fit t)

/-- The sign of a number, none of which is negative. -/
def sign (f : LogField) : Text :=
  if f.flags.contains '+' then "+" else if f.flags.contains ' ' then " " else []

/-- Whether the long form of a number is asked for. -/
def isLong (f : LogField) : Bool := f.flags.contains '#'

/-- A number filled up to the width: with zeros between what stands before its digits and the
digits, or with blanks around it all. -/
def padNumber (f : LogField) (base digits : Text) : Text :=
  let start := f.sign ++ base
  if f.flags.contains '0' && !f.flags.contains '-' then
    start ++ Places.zeros (f.width - (start.length + digits.length)) ++ digits
  else f.pad (start ++ digits)

/-- The digits of a number, at least as many as the precision says. -/
def digitsOf (f : LogField) (base n : Nat) : Text :=
  let digits := (Nat.toDigits base n).map CodePoint.ofChar
  Places.zeros (f.precision.getD 0 - digits.length) ++ digits

/-- A text in capital letters, for digits and the signs of their base. -/
def capital (t : Text) : Text :=
  t.map fun c => if 0x61 ≤ c.val && c.val ≤ 0x7A then CodePoint.ofNat (c.val - 0x20) else c

/-- What a field writes for a number, if its conversion is one for numbers. -/
def writeNumber? (f : LogField) (n : Nat) : Option Text :=
  let count := f.precision.getD 6
  match f.conversion with
  | .decimal => some (f.padNumber [] (f.digitsOf 10 n))
  | .octal => some (f.padNumber (if f.isLong then "0o" else []) (f.digitsOf 8 n))
  | .hexadecimal upper =>
    let base : Text := if f.isLong then "0x" else []
    some (if upper then f.padNumber (capital base) (capital (f.digitsOf 16 n))
      else f.padNumber base (f.digitsOf 16 n))
  | .fixed => some (f.padNumber [] (Places.fixed f.isLong count n))
  | .exponent upper =>
    some (f.padNumber [] (Places.exponent (if upper then 'E' else 'e') f.isLong count n))
  | .general upper =>
    some (f.padNumber [] (Places.general (if upper then 'E' else 'e') f.isLong count n))
  | _ => none

/-- What a field writes for a value, if the value is of the right kind. -/
def write? (f : LogField) (v : FieldValue) : Option Text :=
  match f.conversion with
  | .plain => f.writeText? v v.plain
  | .shown => f.writeText? v v.shown
  | .shownAscii => f.writeText? v v.shownAscii
  | .codePoint => v.codePoint?.map fun c => f.pad [c]
  | _ =>
    match v with
    | .number n => f.writeNumber? n
    | _ => none

end LogField

end CallBindings
