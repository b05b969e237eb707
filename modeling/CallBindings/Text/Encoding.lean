import CallBindings.Text.Basic

set_option autoImplicit false

/-! # Encodings and their faults

Bytes and texts are exchanged in UTF-8, UTF-16 and UTF-32, the latter two in either byte
order. Reading stops at the first fault, which is described by the encoding, a reason and the
stretch of bytes it concerns. Writing stops at the first run of surrogates.
-/

namespace CallBindings

/-- A sequence of bytes. -/
abbrev Bytes := List UInt8

/-- The encodings of text. -/
inductive Encoding where
  | utf8 | utf16le | utf16be | utf32le | utf32be
deriving DecidableEq

/-- The name of an encoding in messages. -/
def Encoding.name : Encoding → Text
  | .utf8 => "utf-8"
  | .utf16le => "utf-16-le"
  | .utf16be => "utf-16-be"
  | .utf32le => "utf-32-le"
  | .utf32be => "utf-32-be"

/-- Why bytes are no text. -/
inductive DecodeReason where
  | startByte | continuationByte | unexpectedEnd | truncated | outOfRange
deriving DecidableEq

/-- The wording of a reason. -/
def DecodeReason.message : DecodeReason → Text
  | .startByte => "invalid start byte"
  | .continuationByte => "invalid continuation byte"
  | .unexpectedEnd => "unexpected end of data"
  | .truncated => "truncated data"
  | .outOfRange => "code point not in range(0x110000)"

/-- A fault found while reading bytes: the bytes from the fault on, and how many of them it
concerns. -/
structure DecodeStop where
  reason : DecodeReason
  here : Bytes
  width : Nat

/-- Bytes that are no text in an encoding: the reason, the place, the number of bytes
concerned, and the first of them. -/
structure DecodeError where
  encoding : Encoding
  reason : DecodeReason
  position : Nat
  width : Nat
  byte : UInt8
deriving DecidableEq

/-- The wording of a decoding error. -/
def DecodeError.message (e : DecodeError) : Text :=
  "'" ++ e.encoding.name ++ "' codec can't decode " ++
    (if e.width = 1 then
      "byte 0x" ++ Text.hexPadded 2 e.byte.toNat ++ " in position " ++ Text.ofNat e.position
    else
      "bytes in position " ++ Text.ofNat e.position ++ "-" ++
        Text.ofNat (e.position + e.width - 1)) ++
    ": " ++ e.reason.message

/-- The error for a fault found in `bytes`. -/
def DecodeStop.toError (s : DecodeStop) (encoding : Encoding) (bytes : Bytes) : DecodeError :=
  ⟨encoding, s.reason, bytes.length - s.here.length, s.width, s.here.headD 0⟩

/-- A text that no encoding can hold: the place and the length of its first run of surrogates,
and the first of them. -/
structure EncodeError where
  position : Nat
  count : Nat
  first : CodePoint
deriving DecidableEq

/-- The wording of an encoding error. -/
def EncodeError.message (e : EncodeError) : Text :=
  "'utf-8' codec can't encode " ++
    (if e.count = 1 then
      "character '\\u" ++ Text.hexPadded 4 e.first.val ++ "' in position " ++
        Text.ofNat e.position
    else
      "characters in position " ++ Text.ofNat e.position ++ "-" ++
        Text.ofNat (e.position + e.count - 1)) ++
    ": surrogates not allowed"

end CallBindings
