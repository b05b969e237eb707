import CallBindings.Number.Binary64
import CallBindings.Text.Basic

set_option autoImplicit false

/-! # Numbers with a given count of digits

A natural number is written with a count of decimal places, in exponent form, or with a count
of significant digits in whichever of the two is at hand for its size. A digit left out rounds
to the nearest, a half to the even neighbour. A point with nothing behind it is written only
if it is kept; so are zeros at the end of a count of significant digits.
-/

namespace CallBindings.Places

/-- `n` zeros. -/
def zeros (n : Nat) : Text := List.replicate n (CodePoint.ofChar '0')

/-- The digits after a point, and the point. -/
def fraction (keep : Bool) (digits : Text) : Text :=
  if digits.isEmpty && !keep then [] else "." ++ digits

/-- Digits without zeros at the end. -/
def withoutZeros (digits : Text) : Text :=
  (digits.reverse.dropWhile (· = CodePoint.ofChar '0')).reverse

/-- The first `count` digits of a number, rounded, and the power of ten of the first. -/
def significant (count n : Nat) : Text × Nat :=
  let all := Text.ofNat n
  if all.length ≤ count then (all ++ zeros (count - all.length), all.length - 1)
  else
    let digits := Text.ofNat (Binary64.roundEven n (Nat.pow 10 (all.length - count)))
    (digits.take count, all.length - 1 + (digits.length - count))

/-- A number with `places` decimal places. -/
def fixed (keep : Bool) (places n : Nat) : Text := Text.ofNat n ++ fraction keep (zeros places)

/-- A power of ten, with a sign and at least two digits. -/
def power (mark : Char) (place : Nat) : Text :=
  CodePoint.ofChar mark :: '+' :: Text.ofNatPadded 2 place

/-- A number in exponent form with `places` decimal places; `mark` stands before the power. -/
def exponent (mark : Char) (keep : Bool) (places n : Nat) : Text :=
  let (digits, place) := significant (places + 1) n
  digits.take 1 ++ fraction keep (digits.drop 1) ++ power mark place

/-- A number with `count` significant digits, at least one: in exponent form if its first digit
stands for a higher power of ten than there are digits. -/
def general (mark : Char) (keep : Bool) (count n : Nat) : Text :=
  let (digits, place) := significant (max 1 count) n
  let written := fun whole : Nat =>
    digits.take whole ++
      fraction keep (if keep then digits.drop whole else withoutZeros (digits.drop whole))
  if max 1 count ≤ place then written 1 ++ power mark place else written (place + 1)

end CallBindings.Places
