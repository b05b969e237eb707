import CallBindings.Text.Shown
import CallBindings.Unicode.Blank
import CallBindings.Unicode.Digit

set_option autoImplicit false

/-! # Reading and writing integers

An integer is written with decimal digits of any script, after an optional sign, with single
underscores allowed between digits and white space around it all. A number of more than 4300
digits is refused for its length before anything after its digits is looked at, though not
before a misplaced underscore among them. Nor is an integer of that length written.
-/

namespace CallBindings

/-- The greatest number of digits an integer may have. -/
def integerDigitLimit : Nat := 4300

/-- Why a text is no integer, or an integer has no text. -/
inductive IntegerError where
  | tooLong (digits : Nat)
  | malformed (t : Text)
  | unwritable
deriving DecidableEq

/-- The wording of an integer error; of a malformed text the first 200 code points are shown. -/
def IntegerError.message : IntegerError → Text
  | .tooLong digits =>
    "Exceeds the limit (4300 digits) for integer string conversion: value has " ++
      Text.ofNat digits ++ " digits; use sys.set_int_max_str_digits() to increase the limit"
  | .malformed t => "invalid literal for int() with base 10: " ++ t.shown.take 200
  | .unwritable =>
    "Exceeds the limit (4300 digits) for integer string conversion; " ++
      Text.ofString "use sys.set_int_max_str_digits() to increase the limit"

/-- The number with the given decimal digits, most significant first. -/
def natOfDigits (ds : List Nat) : Nat := ds.foldl (fun n d => 10 * n + d) 0

namespace Text

/-- Whether an integer is short enough to be written. -/
def canWrite (n : Int) : Bool := (ofNat n.natAbs).length ≤ integerDigitLimit

/-- An integer in decimal, if it is short enough. -/
def writeInt (n : Int) : Except IntegerError Text :=
  if canWrite n then .ok (ofInt n) else .error .unwritable

/-- White space around an integer: the separators `U+001C`–`U+001F` do not count. -/
def isIntegerBlank (c : CodePoint) : Bool :=
  if c.val < 0x80 then (9 ≤ c.val && c.val ≤ 13) || c.val = 32 else c.isBlank

/-- The run of decimal digits a text begins with, and the rest; `none` if an underscore in the
run does not stand between two digits. `loose` says that no digit has just been read. -/
def digitRun? (loose : Bool) : Text → Option (List Nat × Text)
  | [] => if loose then none else some ([], [])
  | c :: t =>
    match c.decimalValue? with
    | some d => (digitRun? false t).map fun r => (d :: r.1, r.2)
    | none =>
      if loose then none
      else if c = '_' then digitRun? true t
      else some ([], c :: t)

/-- The sign a text begins with, and the rest. -/
def signOf : Text → Bool × Text
  | [] => (false, [])
  | c :: t => if c = '-' then (true, t) else if c = '+' then (false, t) else (false, c :: t)

/-- The integer a text denotes. -/
def readInt (t : Text) : Except IntegerError Int :=
  let (negative, body) := signOf (t.dropWhile isIntegerBlank)
  match digitRun? true body with
  | none => .error (.malformed t)
  | some (ds, rest) =>
    if integerDigitLimit < ds.length then .error (.tooLong ds.length)
    else if !rest.all isIntegerBlank then .error (.malformed t)
    else
      let n : Int := natOfDigits ds
      .ok (if negative then -n else n)

end Text

end CallBindings
