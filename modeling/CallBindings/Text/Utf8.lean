import CallBindings.Text.Encoding

set_option autoImplicit false

/-! # UTF-8

A code point is written with one to four bytes. Reading is strict: overlong forms, numbers
beyond `0x10FFFF` and cut-off sequences are faults. Surrogates are faults too, unless the
caller lets them pass; bytes that arrive from a server may hold them, files may not.
-/

namespace CallBindings

namespace Utf8

/-- The bytes of one code point. -/
def encodeCodePoint (c : CodePoint) : Bytes :=
  let n := c.val
  if n < 0x80 then [UInt8.ofNat n]
  else if n < 0x800 then [UInt8.ofNat (0xC0 + n / 0x40), UInt8.ofNat (0x80 + n % 0x40)]
  else if n < 0x10000 then
    [UInt8.ofNat (0xE0 + n / 0x1000), UInt8.ofNat (0x80 + n / 0x40 % 0x40),
      UInt8.ofNat (0x80 + n % 0x40)]
  else
    [UInt8.ofNat (0xF0 + n / 0x40000), UInt8.ofNat (0x80 + n / 0x1000 % 0x40),
      UInt8.ofNat (0x80 + n / 0x40 % 0x40), UInt8.ofNat (0x80 + n % 0x40)]

/-- The first run of surrogates in a text. -/
def firstSurrogates? (t : Text) : Option EncodeError :=
  match t.dropWhile fun c => !c.isSurrogate with
  | [] => none
  | c :: rest =>
    some ⟨t.length - (rest.length + 1), ((c :: rest).takeWhile CodePoint.isSurrogate).length, c⟩

/-- A byte that continues a sequence. -/
def isContinuation (b : UInt8) : Bool := 0x80 ≤ b && b < 0xC0

/-- Whether `b` can follow the first byte `a` of a sequence of three or four bytes: it
continues the sequence, and the sequence is neither overlong nor a surrogate nor too large. -/
def secondFits (a b : UInt8) : Bool :=
  isContinuation b && (a ≠ 0xE0 || 0xA0 ≤ b) && (a ≠ 0xED || b < 0xA0) &&
    (a ≠ 0xF0 || 0x90 ≤ b) && (a ≠ 0xF4 || b < 0x90)

/-- The six low bits of a byte. -/
def low6 (b : UInt8) : Nat := b.toNat % 0x40

/-- The text that bytes denote. With `lenient`, surrogates pass. -/
def decodeFrom (lenient : Bool) : Bytes → Except DecodeStop Text
  | [] => .ok []
  | a :: t =>
    if a < 0x80 then (decodeFrom lenient t).map (CodePoint.ofNat a.toNat :: ·)
    else if a < 0xC2 || 0xF5 ≤ a then .error ⟨.startByte, a :: t, 1⟩
    else match t with
      | [] => .error ⟨.unexpectedEnd, [a], 1⟩
      | b :: t =>
        if a < 0xE0 then
          if isContinuation b then
            (decodeFrom lenient t).map (CodePoint.ofNat (a.toNat % 0x20 * 0x40 + low6 b) :: ·)
          else .error ⟨.continuationByte, a :: b :: t, 1⟩
        else match t with
          | [] =>
            if secondFits a b then .error ⟨.unexpectedEnd, [a, b], 2⟩
            else .error ⟨.continuationByte, [a, b], 1⟩
          | c :: t =>
            if a < 0xF0 then
              if isContinuation c && (secondFits a b || (lenient && a = 0xED && isContinuation b))
              then
                (decodeFrom lenient t).map
                  (CodePoint.ofNat ((a.toNat % 0x10 * 0x40 + low6 b) * 0x40 + low6 c) :: ·)
              else .error ⟨.continuationByte, a :: b :: c :: t, if secondFits a b then 2 else 1⟩
            else if !secondFits a b then .error ⟨.continuationByte, a :: b :: c :: t, 1⟩
            else if !isContinuation c then .error ⟨.continuationByte, a :: b :: c :: t, 2⟩
            else match t with
              | [] => .error ⟨.unexpectedEnd, [a, b, c], 3⟩
              | d :: t =>
                if isContinuation d then
                  (decodeFrom lenient t).map
                    (CodePoint.ofNat
                      (((a.toNat % 8 * 0x40 + low6 b) * 0x40 + low6 c) * 0x40 + low6 d) :: ·)
                else .error ⟨.continuationByte, a :: b :: c :: d :: t, 3⟩

/-- The text that bytes denote, read strictly. -/
def decode (bytes : Bytes) : Except DecodeError Text :=
  match decodeFrom false bytes with
  | .ok t => .ok t
  | .error s => .error (s.toError .utf8 bytes)

end Utf8

/-- The bytes of a text, surrogates written like any other code point. -/
def Text.utf8 (t : Text) : Bytes := t.flatMap Utf8.encodeCodePoint

/-- The bytes of a text without surrogates. -/
def Text.toUtf8 (t : Text) : Except EncodeError Bytes :=
  match Utf8.firstSurrogates? t with
  | some e => .error e
  | none => .ok t.utf8

end CallBindings
