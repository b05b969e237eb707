import CallBindings.Number.Shortest
import CallBindings.Text.Basic

set_option autoImplicit false

/-! # Decimal layout

How a floating point number is written: its shortest decimal, either with the point in place
or in exponent form, and the words for infinity and for values that are no number. One record
holds the choices, so that the same digits serve every format.
-/

namespace CallBindings

/-- The choices made in writing a floating point number. -/
structure NumberLayout where
  /-- The least power of ten written with the point in place. -/
  leastPlace : Int
  /-- The first power of ten that is too large for the point in place. -/
  endPlace : Int
  /-- The least number of digits of an exponent. -/
  exponentWidth : Nat
  nan : Text
  infinity : Text

namespace NumberLayout

/-- Values in messages and type expressions: the point in place from `0.0001` up to, not
including, `1e+16`; signed exponents of at least two digits. -/
def shown : NumberLayout := ⟨-4, 16, 2, "nan", "inf"⟩

/-- Numbers in JSON: the same layout with the words `NaN` and `Infinity`. -/
def json : NumberLayout := { shown with nan := "NaN", infinity := "Infinity" }

/-- Digits with the point in place; there is a digit on either side of it. -/
def positional (digits : Text) (place : Int) : Text :=
  if place < 0 then "0." ++ List.replicate (-place - 1).toNat (CodePoint.ofChar '0') ++ digits
  else
    let whole := digits.take (place.toNat + 1)
    let rest := digits.drop (place.toNat + 1)
    whole ++ List.replicate (place.toNat + 1 - whole.length) (CodePoint.ofChar '0') ++ "." ++
      (if rest.isEmpty then Text.ofString "0" else rest)

/-- Digits in exponent form; the point is left out after a single digit. -/
def scientific (layout : NumberLayout) (digits : Text) (place : Int) : Text :=
  let head := digits.take 1
  let rest := digits.drop 1
  head ++ (if rest.isEmpty then [] else "." ++ rest) ++
    (if place < 0 then Text.ofString "e-" else Text.ofString "e+") ++
    Text.ofNatPadded layout.exponentWidth place.natAbs

/-- The text of a floating point number. -/
def render (layout : NumberLayout) (x : Binary64) : Text :=
  let sign : Text := if x.negative then "-" else ""
  if x.isNaN then layout.nan
  else if x.isInfinite then sign ++ layout.infinity
  else if x.isZero then sign ++ "0.0"
  else
    let d := x.shortest
    let digits := Text.ofNat d.digits
    let place := d.exponent + digits.length - 1
    sign ++ (if layout.leastPlace ≤ place && place < layout.endPlace then
      positional digits place else layout.scientific digits place)

end NumberLayout

end CallBindings
