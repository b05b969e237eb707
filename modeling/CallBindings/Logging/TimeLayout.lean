import CallBindings.Module.Timestamp
import CallBindings.Unicode.Case

set_option autoImplicit false

/-! # Layouts of times

A time is written by a layout of its own. In it a percent sign begins a field, which ends with
the letter of a part of the time; all else stands for itself. Between the two there may be
flags, a least width and a modifier, in this order, as in `%-3d` or `%_6OH`. The last of the
flags `_`, `-` and `0` says what a field is filled up with, and `^` asks for capital letters. A
field that means nothing is written as it stands, from its last percent sign on.

The written time has less room the shorter its layout is. A time that does not fit is not cut
but left out as a whole.
-/

namespace CallBindings

/-- What a field of a time is filled up with. -/
inductive Padding where
  | usual | blank | zero | none
deriving DecidableEq

/-- A field of a time: its flags, its width, its modifier, its letter unless the layout ends
before it, and how it is written from its last percent sign on. -/
structure TimeField where
  padding : Padding
  capital : Bool
  width : Nat
  modifier : Option CodePoint
  letter : Option CodePoint
  written : Text

/-- A code point in capitals, if that is a single code point. A small Greek letter with an iota
below has a capital with an iota beside it. -/
def CodePoint.capital (c : CodePoint) : CodePoint :=
  let n := c.val
  if (0x1F80 ≤ n && n ≤ 0x1F87) || (0x1F90 ≤ n && n ≤ 0x1F97) || (0x1FA0 ≤ n && n ≤ 0x1FA7) then
    CodePoint.ofNat (n + 8)
  else if n = 0x1FB3 || n = 0x1FC3 || n = 0x1FF3 then CodePoint.ofNat (n + 9)
  else match c.upper with
    | [d] => d
    | _ => c

namespace TimeField

/-! ## Reading -/

/-- Whether a code point is a flag of a field. -/
def isFlag (c : CodePoint) : Bool := c = '_' || c = '-' || c = '0' || c = '^' || c = '#'

/-- What a flag says about filling up, if it says anything. -/
def padding? (c : CodePoint) : Option Padding :=
  if c = '_' then some .blank
  else if c = '-' then some .none
  else if c = '0' then some .zero
  else none

/-- What the last flag that speaks about it says about filling up. -/
def paddingOf (flags : Text) : Padding := (flags.reverse.findSome? padding?).getD .usual

/-- The width that digits denote. -/
def widthOf (digits : Text) : Nat := digits.foldl (fun n d => 10 * n + (d.val - 0x30)) 0

/-- The modifier that a text begins with, and the rest. -/
def readModifier : Text → Option CodePoint × Text
  | [] => (none, [])
  | c :: t => if c = 'E' || c = 'O' then (some c, t) else (none, c :: t)

/-- The field after a percent sign, and the rest. -/
def read (t : Text) : TimeField × Text :=
  let flags := t.takeWhile isFlag
  let digits := (t.dropWhile isFlag).takeWhile CodePoint.isAsciiDigit
  let (modifier, rest) := readModifier ((t.dropWhile isFlag).dropWhile CodePoint.isAsciiDigit)
  let letter := rest.head?
  let before : Text := "%" ++ flags ++ digits ++ modifier.toList
  let written : Text := if letter = some (CodePoint.ofChar '%') then "%" else before ++ letter.toList
  (⟨paddingOf flags, flags.contains '^', widthOf digits, modifier, letter, written⟩, rest.drop 1)

/-! ## Writing -/

/-- Fills a text up in front, if the width leaves less than `room` code points to fill in. -/
def fill? (room : Nat) (filler : Char) (width : Nat) (t : Text) : Option Text :=
  if room ≤ width then none
  else some (List.replicate (width - t.length) (CodePoint.ofChar filler) ++ t)

/-- A text that is no number, filled up to the width. -/
def textOf? (room : Nat) (f : TimeField) (t : Text) : Option Text :=
  fill? room (if f.padding = .zero then '0' else ' ') f.width t

/-- A number filled up to the width, at least to `places` unless filling up is turned off. With
what it is filled up goes by `otherwise` where no flag says it. -/
def numberOf? (room : Nat) (f : TimeField) (otherwise : Padding) (places n : Nat) :
    Option Text :=
  let t := Text.ofNat n
  match if f.padding = .usual then otherwise else f.padding with
  | .none => fill? room ' ' f.width t
  | .blank => fill? room ' ' (max places f.width) t
  | _ => fill? room '0' (max places f.width) t

/-- A number that is written as a part of a time: whether blanks fill it up, how many places it
has, its value, and the modifiers that may stand in front of its letter. -/
structure Count where
  padding : Padding
  places : Nat
  value : Nat
  modifiers : Text

/-- The number that a letter stands for. -/
def count? (t : Timestamp) (letter : CodePoint) : Option Count :=
  let half := (t.hour + 11) % 12 + 1
  if letter = 'Y' then some ⟨.zero, 4, t.year, "E"⟩
  else if letter = 'C' then some ⟨.zero, 2, t.year / 100, "EO"⟩
  else if letter = 'y' then some ⟨.zero, 2, t.year % 100, "EO"⟩
  else if letter = 'm' then some ⟨.zero, 2, t.month, "O"⟩
  else if letter = 'd' then some ⟨.zero, 2, t.day, "O"⟩
  else if letter = 'e' then some ⟨.blank, 2, t.day, "O"⟩
  else if letter = 'H' then some ⟨.zero, 2, t.hour, "O"⟩
  else if letter = 'k' then some ⟨.blank, 2, t.hour, "O"⟩
  else if letter = 'I' then some ⟨.zero, 2, half, "O"⟩
  else if letter = 'l' then some ⟨.blank, 2, half, "O"⟩
  else if letter = 'M' then some ⟨.zero, 2, t.minute, "O"⟩
  else if letter = 'S' then some ⟨.zero, 2, t.second, "O"⟩
  else none

/-- The offset of a time as a sign and hours and minutes in four places. -/
def offset? (room : Nat) (f : TimeField) (offset : Int) : Option Text := do
  let minutes := offset.natAbs / 60
  let sign ← textOf? room f (if offset < 0 then "-" else "+")
  let number ← numberOf? room f .zero 4 (minutes / 60 * 100 + minutes % 60)
  some (sign ++ number)

/-- The name of the zone with an offset. -/
def zoneName (offset : Int) : Text :=
  if offset = 0 then "UTC"
  else
    (if offset < 0 then Text.ofString "-" else Text.ofString "+") ++
      Text.ofNatPadded 2 (offset.natAbs / 3600) ++
      (if offset.natAbs / 60 % 60 = 0 then [] else Text.ofNatPadded 2 (offset.natAbs / 60 % 60))

/-- The name of the zone, which is not filled up where filling up is turned off. -/
def zone? (room : Nat) (f : TimeField) (offset : Int) : Option Text :=
  if f.padding = .none then some (zoneName offset) else textOf? room f (zoneName offset)

/-- A field as it is written in its layout. -/
def literal? (room : Nat) (f : TimeField) : Option Text :=
  textOf? room f (if f.capital then f.written.map CodePoint.capital else f.written)

/-- What a field with a letter writes for a time. -/
def letter? (room : Nat) (t : Timestamp) (f : TimeField) (letter : CodePoint) : Option Text :=
  if letter = '%' then if f.modifier.isNone then textOf? room f "%" else literal? room f
  else if letter = 'n' then textOf? room f "\n"
  else if letter = 't' then textOf? room f "\t"
  else if letter = 'z' then offset? room f (t.offset.getD 0)
  else if letter = 'Z' then zone? room f (t.offset.getD 0)
  else match count? t letter with
    | some c =>
      if f.modifier.all c.modifiers.contains then numberOf? room f c.padding c.places c.value
      else literal? room f
    | none => literal? room f

/-- What a field writes for a time, if it leaves less than `room` code points to fill in. -/
def write? (room : Nat) (t : Timestamp) (f : TimeField) : Option Text :=
  match f.letter with
  | some letter => letter? room t f letter
  | none => literal? room f

end TimeField

namespace TimeLayout

/-- The number of code points that a time written by a layout stays below: the least power of
two from 1024 on that is not less than 256 for each code point of the layout. -/
def room (layout : Text) : Nat := max 1024 (256 * layout.length).nextPowerOfTwo

/-- A time written by at most `fuel` parts of a layout, unless one has no room. -/
def renderParts (room : Nat) (t : Timestamp) : (fuel : Nat) → Text → Option Text
  | 0, _ => some []
  | _, [] => some []
  | fuel + 1, c :: rest =>
    if c = '%' then do
      let (f, rest) := TimeField.read rest
      let part ← f.write? room t
      let more ← renderParts room t fuel rest
      some (part ++ more)
    else (renderParts room t fuel rest).map (c :: ·)

/-- A time written by a layout. -/
def render (t : Timestamp) (layout : Text) : Text :=
  match renderParts (room layout) t layout.length layout with
  | some written => if written.length < room layout then written else []
  | none => []

/-- A time written by a layout that was given; an empty one stands for date and time to the
millisecond, and one with a null code point cannot be used. -/
def timeText? (t : Timestamp) (layout : Text) : Option Text :=
  if layout.isEmpty then
    some (render t "%Y-%m-%d %H:%M:%S" ++ "," ++ Text.ofNatPadded 3 (t.microsecond / 1000))
  else if layout.any (·.val = 0) then none
  else some (render t layout)

end TimeLayout

end CallBindings
