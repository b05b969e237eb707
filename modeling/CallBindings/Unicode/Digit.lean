import CallBindings.Unicode.DigitTable
import CallBindings.Unicode.Range

set_option autoImplicit false

/-! # Digits of any script

A decimal digit belongs to a run of ten and can be part of a number. A digit in the wider
sense, such as `²`, has a digit value but stands for no place of a number. A text may hence
consist of digits and still be no number.
-/

namespace CallBindings

/-- The value of a decimal digit of any script. -/
def CodePoint.decimalValue? (c : CodePoint) : Option Nat :=
  (Unicode.decimalZeros.find? fun z => z ≤ c.val && c.val ≤ z + 9).map (c.val - ·)

/-- A digit in the wider sense: decimal, superscript, circled and the like. -/
def CodePoint.isDigit (c : CodePoint) : Bool :=
  c.decimalValue?.isSome || Unicode.inRanges Unicode.otherDigits c.val

/-- A text of at least one digit and nothing else. -/
def Text.isDigits (t : Text) : Bool := !t.isEmpty && t.all CodePoint.isDigit

end CallBindings
