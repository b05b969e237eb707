import CallBindings.Json.Reader
import CallBindings.Text.Utf8
import CallBindings.Text.Wide

set_option autoImplicit false

/-! # JSON from bytes

The bytes of a reply carry no name of their encoding. A byte order mark decides it; without
one, the pattern of zero bytes among the first four does, since a JSON text begins with two
ASCII code points. Where neither speaks for a wide encoding it is UTF-8. A file, by contrast,
is always UTF-8, and its line breaks are unified before it is read.
-/

namespace CallBindings

/-- Why bytes are no JSON. -/
inductive BytesError where
  | decode (e : DecodeError)
  | json (e : JsonError)
deriving DecidableEq

/-- The wording of the error. -/
def BytesError.message : BytesError → Text
  | .decode e => e.message
  | .json e => e.message

/-- Whether the reading was given up. -/
def BytesError.isGivenUp : BytesError → Bool
  | .decode _ => false
  | .json e => e.isGivenUp

namespace Json

/-- The byte order marks, with the encodings they decide on. A mark that begins another one comes
after it. -/
def byteOrderMarks : List (Bytes × Encoding) :=
  [([0x00, 0x00, 0xFE, 0xFF], .utf32be), ([0xFF, 0xFE, 0x00, 0x00], .utf32le),
    ([0xFE, 0xFF], .utf16be), ([0xFF, 0xFE], .utf16le), ([0xEF, 0xBB, 0xBF], .utf8)]

/-- The encoding that the zero bytes at the beginning of a JSON text speak for. -/
def encodingOfZeros : Bytes → Encoding
  | a :: b :: c :: d :: _ =>
    if a = 0 then (if b = 0 then .utf32be else .utf16be)
    else if b = 0 then (if c = 0 && d = 0 then .utf32le else .utf16le)
    else .utf8
  | [a, b] => if a = 0 then .utf16be else if b = 0 then .utf16le else .utf8
  | _ => .utf8

/-- The encoding of a JSON text, and the number of bytes of its byte order mark. -/
def detectEncoding (bytes : Bytes) : Encoding × Nat :=
  match byteOrderMarks.find? fun mark => mark.1.isPrefixOf bytes with
  | some (mark, encoding) => (encoding, mark.length)
  | none => (encodingOfZeros bytes, 0)

/-- The text of the bytes of a reply, surrogates passing. Places are counted from the first
byte, except that a byte order mark of UTF-8 does not count. -/
def decodeReply (bytes : Bytes) : Except DecodeError Text :=
  let (encoding, mark) := detectEncoding bytes
  let body := bytes.drop mark
  let result :=
    match encoding with
    | .utf8 => Utf8.decodeFrom true body
    | .utf16le => Wide.decode16 false body
    | .utf16be => Wide.decode16 true body
    | .utf32le => Wide.decode32 false body
    | .utf32be => Wide.decode32 true body
  match result with
  | .ok t => .ok t
  | .error s => .error (s.toError encoding (if encoding = .utf8 then body else bytes))

/-- The JSON value of the bytes of a reply. A byte order mark inside the text is a fault like
any other code point that begins no value. -/
def readReply (bytes : Bytes) : Except BytesError Json :=
  match decodeReply bytes with
  | .error e => .error (.decode e)
  | .ok t =>
    match readMarked t with
    | .ok v => .ok v
    | .error e => .error (.json e)

/-- Line breaks written in any of the usual ways become line feeds. -/
def unifyLines : Text → Text
  | [] => []
  | c :: t =>
    if c = '\r' then
      match t with
      | d :: t' => if d = '\n' then '\n' :: unifyLines t' else '\n' :: unifyLines (d :: t')
      | [] => ['\n']
    else c :: unifyLines t

/-- The JSON value of the bytes of a file. -/
def readUtf8 (bytes : Bytes) : Except BytesError Json :=
  match Utf8.decode bytes with
  | .error e => .error (.decode e)
  | .ok t =>
    match read (unifyLines t) with
    | .ok v => .ok v
    | .error e => .error (.json e)

end Json

end CallBindings
