set_option autoImplicit false

/-! # Text

A text is a list of code points. A code point is any number below `0x110000`, surrogates
included: an escape such as `\ud83d` in a descriptor denotes one code point on its own, so a
text may hold halves of a pair that no encoded file could hold. Literals are written as
strings and coerced.

Besides the type, the file has the few operations the rest of the library is written with:
cutting at a separator, joining, dropping an initial text, comparing by code point, and the
decimal and hexadecimal texts of numbers.
-/

namespace CallBindings

/-- One code point, a surrogate or not. -/
structure CodePoint where
  /-- The number of the code point. -/
  val : Nat
  isLt : val < 0x110000
deriving DecidableEq

/-- A sequence of code points. -/
abbrev Text := List CodePoint

instance : LawfulBEq Text := inferInstance

namespace CodePoint

instance : Inhabited CodePoint := ⟨⟨0, by decide⟩⟩

/-- The code point of a character. -/
def ofChar (c : Char) : CodePoint :=
  ⟨c.toNat, by
    have h := c.valid
    simp only [UInt32.isValidChar, Nat.isValidChar] at h
    simp only [Char.toNat]
    omega⟩

instance : Coe Char CodePoint := ⟨ofChar⟩

/-- The code point with number `n`, if there is one. -/
def ofNat? (n : Nat) : Option CodePoint :=
  if h : n < 0x110000 then some ⟨n, h⟩ else none

/-- The code point with number `n`; the replacement character when there is none. -/
def ofNat (n : Nat) : CodePoint :=
  if h : n < 0x110000 then ⟨n, h⟩ else ⟨0xFFFD, by decide⟩

/-- The first half of a surrogate pair. -/
def isHighSurrogate (c : CodePoint) : Bool := 0xD800 ≤ c.val && c.val ≤ 0xDBFF

/-- The second half of a surrogate pair. -/
def isLowSurrogate (c : CodePoint) : Bool := 0xDC00 ≤ c.val && c.val ≤ 0xDFFF

/-- Half of a surrogate pair: a code point that is no scalar value. -/
def isSurrogate (c : CodePoint) : Bool := 0xD800 ≤ c.val && c.val ≤ 0xDFFF

/-- An ASCII digit. -/
def isAsciiDigit (c : CodePoint) : Bool := 0x30 ≤ c.val && c.val ≤ 0x39

/-- An ASCII letter. -/
def isAsciiLetter (c : CodePoint) : Bool :=
  (0x41 ≤ c.val && c.val ≤ 0x5A) || (0x61 ≤ c.val && c.val ≤ 0x7A)

/-- The value of a hexadecimal digit, of either case. -/
def hexValue? (c : CodePoint) : Option Nat :=
  if 0x30 ≤ c.val && c.val ≤ 0x39 then some (c.val - 0x30)
  else if 0x41 ≤ c.val && c.val ≤ 0x46 then some (c.val - 0x37)
  else if 0x61 ≤ c.val && c.val ≤ 0x66 then some (c.val - 0x57)
  else none

end CodePoint

namespace Text

/-- The text of a string literal. -/
def ofString (s : String) : Text := s.toList.map CodePoint.ofChar

instance : Coe String Text := ⟨ofString⟩

instance : HAppend String Text Text := ⟨fun s t => ofString s ++ t⟩

instance : HAppend Text String Text := ⟨fun t s => t ++ ofString s⟩

/-- The string of a text; a lone surrogate becomes the replacement character. -/
def toStr (t : Text) : String :=
  String.ofList (t.map fun c => if c.isSurrogate then Char.ofNat 0xFFFD else Char.ofNat c.val)

/-- Whether every code point is a scalar value. -/
def isScalar (t : Text) : Bool := t.all fun c => !c.isSurrogate

/-- What follows `start` in a text that begins with it. -/
def dropStart? : Text → (start : Text) → Option Text
  | t, [] => some t
  | [], _ :: _ => none
  | b :: t, a :: start => if a = b then dropStart? t start else none

/-- Whether `t` begins with `start`. -/
def startsWith (t start : Text) : Bool := (t.dropStart? start).isSome

/-- Whether `t` ends with `tail`. -/
def endsWith (t tail : Text) : Bool := startsWith t.reverse tail.reverse

/-- The pieces of `t` between occurrences of `sep`; there is always at least one. -/
def splitAt (sep : CodePoint) : Text → List Text
  | [] => [[]]
  | c :: t =>
    if c = sep then [] :: splitAt sep t
    else match splitAt sep t with
      | [] => [[c]]
      | p :: ps => (c :: p) :: ps

/-- The texts one after another with `sep` between neighbours. -/
def join (sep : Text) : List Text → Text
  | [] => []
  | [t] => t
  | t :: ts => t ++ sep ++ join sep ts

/-- Comparison by code points, the order in which files are listed. -/
def le : Text → Text → Bool
  | [], _ => true
  | _ :: _, [] => false
  | a :: s, b :: t => if a.val < b.val then true else if b.val < a.val then false else le s t

/-- The texts in the order of their code points; equal ones stay. -/
def sort (ts : List Text) : List Text := ts.mergeSort le

/-- How often `c` occurs. -/
def countOf (c : CodePoint) (t : Text) : Nat := t.countP (· = c)

/-- Removes code points in `p` from both ends. -/
def trimBy (p : CodePoint → Bool) (t : Text) : Text :=
  ((t.dropWhile p).reverse.dropWhile p).reverse

/-- The decimal digits of a natural number. -/
def ofNat (n : Nat) : Text := (Nat.toDigits 10 n).map CodePoint.ofChar

/-- The decimal digits of an integer, after a minus sign if it is negative. -/
def ofInt : Int → Text
  | .ofNat n => ofNat n
  | .negSucc n => '-' :: ofNat (n + 1)

/-- The hexadecimal digits of a number, in lower case and without leading zeros. -/
def hex (n : Nat) : Text := (Nat.toDigits 16 n).map CodePoint.ofChar

/-- The hexadecimal digits of a number, filled up with zeros to `width` places. -/
def hexPadded (width n : Nat) : Text :=
  List.replicate (width - (hex n).length) (CodePoint.ofChar '0') ++ hex n

/-- The decimal digits of a number, filled up with zeros to `width` places. -/
def ofNatPadded (width n : Nat) : Text :=
  List.replicate (width - (ofNat n).length) (CodePoint.ofChar '0') ++ ofNat n

end Text

/-- The members of a list without later repeats. -/
def distinct {α : Type} [DecidableEq α] : List α → List α
  | [] => []
  | a :: as => a :: (distinct as).filter (· ≠ a)

end CallBindings
