set_option autoImplicit false

/-! # Binary floating point

A binary floating point number of 64 bits, as its sign, its biased exponent and its fraction.
With biased exponent `b` and fraction `f` its size is

    f · 2⁻¹⁰⁷⁴                  if b = 0,
    (2⁵² + f) · 2ᵇ⁻¹⁰⁷⁵         if 0 < b < 2047,

and `b = 2047` marks infinity (`f = 0`) and values that are no number. Arithmetic is exact
throughout: a number is read by rounding a quotient of natural numbers to the nearest
representable one, the even one of two that are equally near.
-/

namespace CallBindings

/-- A floating point number in the 64 bit binary format. -/
structure Binary64 where
  negative : Bool
  biased : Fin 2048
  fraction : Fin 4503599627370496
deriving DecidableEq

namespace Binary64

-- for numerals of biased exponents and fractions; zero is written as numerals have it
instance : @NeZero Nat Zero.ofOfNat0 2048 := ⟨Nat.succ_ne_zero 2047⟩
instance : @NeZero Nat Zero.ofOfNat0 4503599627370496 := ⟨Nat.succ_ne_zero 4503599627370495⟩

/-- Zero with a sign. -/
def zero (negative : Bool) : Binary64 := ⟨negative, 0, 0⟩

/-- Infinity with a sign. -/
def infinity (negative : Bool) : Binary64 := ⟨negative, 2047, 0⟩

/-- The value that is no number. -/
def nan : Binary64 := ⟨false, 2047, 2251799813685248⟩

/-- Whether the value is no number. -/
def isNaN (x : Binary64) : Bool := x.biased = 2047 && x.fraction ≠ 0

/-- Whether the value is an infinity. -/
def isInfinite (x : Binary64) : Bool := x.biased = 2047 && x.fraction = 0

/-- Whether the value is zero, of either sign. -/
def isZero (x : Binary64) : Bool := x.biased = 0 && x.fraction = 0

/-- The integer `m` in the size `m · 2ᵉ` of a finite value. -/
def significand (x : Binary64) : Nat :=
  if x.biased = 0 then x.fraction.val else 4503599627370496 + x.fraction.val

/-- The exponent `e` in the size `m · 2ᵉ` of a finite value. -/
def exponent (x : Binary64) : Int :=
  if x.biased = 0 then -1074 else (x.biased.val : Int) - 1075

/-- The size of a finite value as a quotient of natural numbers. -/
def ratio (x : Binary64) : Nat × Nat :=
  if 0 ≤ x.exponent then (x.significand * Nat.pow 2 x.exponent.toNat, 1)
  else (x.significand, Nat.pow 2 (-x.exponent).toNat)

/-- The integer nearest to `num / den`, the even one of two that are equally near. -/
def roundEven (num den : Nat) : Nat :=
  let q := num / den
  let r := num % den
  if 2 * r < den then q else if den < 2 * r then q + 1 else if q % 2 = 0 then q else q + 1

/-- The number `m · 2ᵉ` with `m ≤ 2⁵³`, where `e = -1074` if `m < 2⁵²`. -/
def ofScaled (negative : Bool) (m : Nat) (e : Int) : Binary64 :=
  let (m, e) := if m = 9007199254740992 then (4503599627370496, e + 1) else (m, e)
  if m < 4503599627370496 then ⟨negative, 0, Fin.ofNat _ m⟩
  else if 971 < e then infinity negative
  else ⟨negative, Fin.ofNat _ (e + 1075).toNat, Fin.ofNat _ (m - 4503599627370496)⟩

/-- The floating point number nearest to `num / den`. -/
def ofRatio (negative : Bool) (num den : Nat) : Binary64 :=
  if num = 0 then zero negative
  else
    let guess : Int := (num.log2 : Int) - (den.log2 : Int) - 52
    let scaled (e : Int) : Nat × Nat :=
      if 0 ≤ e then (num, den * Nat.pow 2 e.toNat) else (num * Nat.pow 2 (-e).toNat, den)
    let high := scaled guess
    let e := if high.1 < 4503599627370496 * high.2 then guess - 1 else guess
    let e := max e (-1074)
    let s := scaled e
    ofScaled negative (roundEven s.1 s.2) e

/-- The floating point number nearest to `m · 10ᵉ`. Decimals beyond the range of the format
are decided by their number of digits alone. -/
def ofDecimal (negative : Bool) (m : Nat) (e : Int) : Binary64 :=
  let digits : Int := (Nat.toDigits 10 m).length
  if m = 0 then zero negative
  else if 310 < digits + e then infinity negative
  else if digits + e < -325 then zero negative
  else if 0 ≤ e then ofRatio negative (m * Nat.pow 10 e.toNat) 1
  else ofRatio negative m (Nat.pow 10 (-e).toNat)

/-- Whether the value equals an integer as a number. -/
def equalsInt (x : Binary64) (n : Int) : Bool :=
  x.biased ≠ 2047 &&
    (let (num, den) := x.ratio
     (if x.negative then -(num : Int) else (num : Int)) = n * (den : Int))

/-- Whether two values are equal as numbers: zeros of either sign are equal, and a value that
is no number equals nothing. -/
def numEq (x y : Binary64) : Bool :=
  !x.isNaN && !y.isNaN && (x = y || (x.isZero && y.isZero))

end Binary64

end CallBindings
