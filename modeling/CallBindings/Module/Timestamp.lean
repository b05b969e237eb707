import CallBindings.Text.Basic

set_option autoImplicit false

/-! # Timestamps

A point in time by date, time of day and offset from universal time, written in the extended
ISO 8601 form. Microseconds are written when there are any, and seconds of the offset too. A
timestamp may have no offset.
-/

namespace CallBindings

/-- A date and time of day; the offset is in seconds east of universal time. -/
structure Timestamp where
  year : Nat
  month : Nat
  day : Nat
  hour : Nat
  minute : Nat
  second : Nat
  microsecond : Nat
  offset : Option Int

namespace Timestamp

/-- An offset as sign, hours and minutes, and seconds if there are any. -/
def offsetText (offset : Int) : Text :=
  let n := offset.natAbs
  (if offset < 0 then Text.ofString "-" else Text.ofString "+") ++
    Text.ofNatPadded 2 (n / 3600) ++ ":" ++ Text.ofNatPadded 2 (n / 60 % 60) ++
    (if n % 60 = 0 then [] else ":" ++ Text.ofNatPadded 2 (n % 60))

/-- The written form of a timestamp. -/
def iso (t : Timestamp) : Text :=
  Text.ofNatPadded 4 t.year ++ "-" ++ Text.ofNatPadded 2 t.month ++ "-" ++
    Text.ofNatPadded 2 t.day ++ "T" ++ Text.ofNatPadded 2 t.hour ++ ":" ++
    Text.ofNatPadded 2 t.minute ++ ":" ++ Text.ofNatPadded 2 t.second ++
    (if t.microsecond = 0 then [] else "." ++ Text.ofNatPadded 6 t.microsecond) ++
    (match t.offset with
     | none => []
     | some offset => offsetText offset)

end Timestamp

end CallBindings
