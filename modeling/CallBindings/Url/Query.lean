import CallBindings.Json.Writable
import CallBindings.Text.Utf8

set_option autoImplicit false

/-! # Query strings

A query string begins with `?` and holds pairs `name=value` joined by `&`. Names and values
are written in UTF-8 with every byte outside a set of harmless ASCII characters as a percent
sign and two hexadecimal digits; the set is that of `encodeURIComponent`. Truth values and
null are written as in JSON, lists and objects as their JSON text, all else as it stands.
The names and values are written one after the other, and the first that has no text or no
encoding is the fault of the query.
-/

namespace CallBindings

/-- Why a body cannot be written as a query. -/
inductive QueryError where
  | notObject (kind : Json.Kind)
  | integer (e : IntegerError)
  | unencodable (e : EncodeError)

/-- The wording of an error. -/
def QueryError.message : QueryError → Text
  | .notObject kind => "Query body must be a mapping, received " ++ kind.name
  | .integer e => e.message
  | .unencodable e => e.message

namespace Query

/-- The bytes that stand for themselves: ASCII letters and digits, and the marks
`_ . - ~ ! * ' ( )`. -/
def isHarmless (b : UInt8) : Bool :=
  (0x30 ≤ b && b ≤ 0x39) || (0x41 ≤ b && b ≤ 0x5A) || (0x61 ≤ b && b ≤ 0x7A) ||
    b = 0x5F || b = 0x2E || b = 0x2D || b = 0x7E || b = 0x21 || b = 0x2A || b = 0x27 ||
    b = 0x28 || b = 0x29

/-- A hexadecimal digit, in upper case. -/
def upperHex (n : Nat) : CodePoint := CodePoint.ofNat (if n < 10 then 0x30 + n else 0x37 + n)

/-- One byte of a percent-encoded text. -/
def encodeByte (b : UInt8) : Text :=
  if isHarmless b then [CodePoint.ofNat b.toNat]
  else [CodePoint.ofChar '%', upperHex (b.toNat / 16), upperHex (b.toNat % 16)]

/-- The percent-encoded form of a text. -/
def encode (t : Text) : Except EncodeError Text :=
  t.toUtf8.map fun bytes => bytes.flatMap encodeByte

/-- The text of a value in a query, if it has one. -/
def valueText : Json → Except IntegerError Text
  | .bool b => .ok (Json.boolText b)
  | .null => .ok "null"
  | .arr items => (Json.arr items).toCompact
  | .obj members => (Json.obj members).toCompact
  | j => j.toPlain

/-- A name or value of a query, percent-encoded. -/
def encodePart (t : Text) : Except QueryError Text :=
  match encode t with
  | .ok part => .ok part
  | .error e => .error (.unencodable e)

/-- The pair of a member: first its name is encoded, then its value is written and encoded. -/
def encodeMember (member : Text × Json) : Except QueryError Text := do
  let name ← encodePart member.1
  match valueText member.2 with
  | .error e => .error (.integer e)
  | .ok t => do
    let value ← encodePart t
    .ok (name ++ "=" ++ value)

/-- The encoded pairs of a query, up to the first fault. -/
def encodeMembers : List (Text × Json) → Except QueryError (List Text)
  | [] => .ok []
  | member :: rest => do
    let pair ← encodeMember member
    let pairs ← encodeMembers rest
    .ok (pair :: pairs)

/-- The query string of a body: nothing for a body that counts as false, the pairs of an
object, and an error for all else. -/
def ofBody (body : Json) : Except QueryError Text :=
  if !body.truthy then .ok []
  else match body with
    | .obj members => (encodeMembers members).map fun pairs => "?" ++ Text.join "&" pairs
    | j => .error (.notObject j.kind)

end Query

end CallBindings
