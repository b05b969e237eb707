import CallBindings.Number.Binary64

set_option autoImplicit false

/-! # Shortest decimals

A finite floating point number stands for all reals that round to it. Among the decimals in
that interval the shortest is chosen, and of several equally short ones the nearest to the
number itself. The search goes over grids of 1, 2, … 17 significant digits and looks at the
two grid points around the number: if any point of a grid lies in the interval, one of these
two does.
-/

namespace CallBindings

/-- The decimal `digits · 10ᵉ`. -/
structure Decimal where
  digits : Nat
  exponent : Int
deriving DecidableEq

namespace Binary64

/-- The interval of reals that round to a finite nonzero value, as numerators over the common
denominator of the third part; the ends belong to it if the significand is even. The lower
end is nearer where the exponent changes. -/
def interval (x : Binary64) : Nat × Nat × Nat :=
  let (num, den) := x.ratio
  let unit := num / x.significand
  if x.fraction.val = 0 && 1 < x.biased.val then (4 * num - unit, 4 * num + 2 * unit, 4 * den)
  else (4 * num - 2 * unit, 4 * num + 2 * unit, 4 * den)

/-- Whether the decimal `d · 10ᵉ` rounds to the value. -/
def holds (x : Binary64) (d : Nat) (e : Int) : Bool :=
  let (low, high, den) := x.interval
  let (p, q) := if 0 ≤ e then (d * Nat.pow 10 e.toNat * den, 1) else (d * den, Nat.pow 10 (-e).toNat)
  if x.significand % 2 = 0 then low * q ≤ p && p ≤ high * q else low * q < p && p < high * q

/-- The place of the first significant digit: `10ᵖ ≤ |x| < 10ᵖ⁺¹`. -/
def leadingPlace (x : Binary64) : Int :=
  let (num, den) := x.ratio
  (((Nat.toDigits 10 (num * Nat.pow 10 340 / den)).length : Nat) : Int) - 341

/-- The decimal nearest to the value on the grid of multiples of `10ᵉ`, or the one on its other
side, if it rounds to the value. -/
def onGrid? (x : Binary64) (e : Int) : Option Decimal :=
  let (num, den) := x.ratio
  let (p, q) := if 0 ≤ e then (num, den * Nat.pow 10 e.toNat) else (num * Nat.pow 10 (-e).toNat, den)
  let below := p / q
  let nearest := roundEven p q
  let other := if nearest = below then below + 1 else below
  if x.holds nearest e then some ⟨nearest, e⟩
  else if x.holds other e then some ⟨other, e⟩
  else none

/-- Moves factors of ten from the digits to the exponent. -/
def dropZeros : Nat → Decimal → Decimal
  | 0, d => d
  | fuel + 1, d =>
    if d.digits ≠ 0 && d.digits % 10 = 0 then dropZeros fuel ⟨d.digits / 10, d.exponent + 1⟩
    else d

/-- The shortest decimal that rounds to a finite nonzero value: the grids of 1, 2, … 17
significant digits are tried in turn. -/
def shortest (x : Binary64) : Decimal :=
  let place := x.leadingPlace
  match (List.range 17).findSome? fun i => x.onGrid? (place - Int.ofNat i) with
  | some d => dropZeros 20 d
  | none => ⟨0, 0⟩

end Binary64

end CallBindings
