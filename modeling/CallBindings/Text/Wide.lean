import CallBindings.Text.Encoding

set_option autoImplicit false

/-! # UTF-16 and UTF-32

Code units of two or four bytes in either order. A surrogate pair in UTF-16 is one code point
and a lone surrogate passes; in UTF-32 every surrogate passes. Faults are bytes left over at
the end and, in UTF-32, numbers beyond the last code point.
-/

namespace CallBindings.Wide

/-- A unit of two bytes. -/
def unit16 (big : Bool) (a b : UInt8) : Nat :=
  if big then a.toNat * 0x100 + b.toNat else b.toNat * 0x100 + a.toNat

/-- A unit of four bytes. -/
def unit32 (big : Bool) (a b c d : UInt8) : Nat :=
  if big then unit16 true a b * 0x10000 + unit16 true c d
  else unit16 false c d * 0x10000 + unit16 false a b

/-- The text that bytes denote in UTF-16. -/
def decode16 (big : Bool) : Bytes → Except DecodeStop Text
  | [] => .ok []
  | [a] => .error ⟨.truncated, [a], 1⟩
  | a :: b :: t =>
    let n := unit16 big a b
    match t with
    | c :: d :: t' =>
      let m := unit16 big c d
      if 0xD800 ≤ n && n ≤ 0xDBFF && 0xDC00 ≤ m && m ≤ 0xDFFF then
        (decode16 big t').map
          (CodePoint.ofNat (0x10000 + (n - 0xD800) * 0x400 + (m - 0xDC00)) :: ·)
      else (decode16 big (c :: d :: t')).map (CodePoint.ofNat n :: ·)
    | t => (decode16 big t).map (CodePoint.ofNat n :: ·)

/-- The text that bytes denote in UTF-32. -/
def decode32 (big : Bool) : Bytes → Except DecodeStop Text
  | [] => .ok []
  | a :: b :: c :: d :: t =>
    match CodePoint.ofNat? (unit32 big a b c d) with
    | some p => (decode32 big t).map (p :: ·)
    | none => .error ⟨.outOfRange, a :: b :: c :: d :: t, 4⟩
  | t => .error ⟨.truncated, t, t.length⟩

end CallBindings.Wide
