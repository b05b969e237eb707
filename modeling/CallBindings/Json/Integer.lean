import CallBindings.Json.Basic
import CallBindings.Number.Integer

set_option autoImplicit false

/-! # Values as integers

A value is taken as an integer if it is a number, whose fraction is dropped, a truth value,
which counts as zero or one, or a text that denotes an integer.
-/

namespace CallBindings

/-- Why a value is no integer. -/
inductive WholeError where
  | text (e : IntegerError)
  | notANumber
  | infinite
  | wrongKind (kind : Json.Kind)

/-- The wording of the fault. -/
def WholeError.message : WholeError → Text
  | .text e => e.message
  | .notANumber => "cannot convert float NaN to integer"
  | .infinite => "cannot convert float infinity to integer"
  | .wrongKind kind =>
    "int() argument must be a string, a bytes-like object or a real number, not '" ++
      kind.name ++ "'"

/-- A finite number without its fraction. -/
def Binary64.whole (x : Binary64) : Int :=
  let n : Int := x.ratio.1 / x.ratio.2
  if x.negative then -n else n

/-- The integer that a value is taken as. -/
def Json.whole : Json → Except WholeError Int
  | .bool b => .ok (if b then 1 else 0)
  | .int n => .ok n
  | .float x =>
    if x.isNaN then .error .notANumber
    else if x.isInfinite then .error .infinite
    else .ok x.whole
  | .str t =>
    match t.readInt with
    | .ok n => .ok n
    | .error e => .error (.text e)
  | j => .error (.wrongKind j.kind)

end CallBindings
