import CallBindings.Text.Basic

set_option autoImplicit false

/-! # Ranges and runs of code points

Properties of code points are kept as lists of ranges, maps between code points as lists of
runs. A run holds every `step`-th code point between two ends, each mapped by the same
distance; with `step = 2` it describes alphabets in which upper and lower case alternate.
-/

namespace CallBindings.Unicode

/-- Whether `n` lies in one of the ranges, both ends included. -/
def inRanges (ranges : List (Nat × Nat)) (n : Nat) : Bool :=
  ranges.any fun r => r.1 ≤ n && n ≤ r.2

/-- The code points `first`, `first + step`, …, `last`, each mapped `distance` further. -/
structure Run where
  first : Nat
  last : Nat
  step : Nat
  distance : Int

/-- The image of `n` under a run that holds it. -/
def Run.apply? (r : Run) (n : Nat) : Option Nat :=
  if r.first ≤ n && n ≤ r.last && (n - r.first) % r.step == 0 then
    some ((n : Int) + r.distance).toNat
  else none

/-- The image of `n` under the first run that holds it. -/
def Run.applyFirst? (runs : List Run) (n : Nat) : Option Nat :=
  runs.findSome? fun r => r.apply? n

end CallBindings.Unicode
