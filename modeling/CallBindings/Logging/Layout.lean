import CallBindings.Logging.Field
import CallBindings.Logging.Record
import CallBindings.Unicode.Digit
import CallBindings.Unicode.Word

set_option autoImplicit false

/-! # Layouts of log lines

A layout is a text with fields. A field begins with a percent sign and a key in parentheses
that names a part of the record, such as its message or the name of its severity; flags, a
least width and a precision may follow, and a letter ends it, as in `%(levelname)-8s`. The
first field of a layout may leave out its key and then shows the record as a whole. Two percent
signs stand for one.

A text is refused as a layout if nothing like a field stands in it; an empty text stands for
the message. A field may still name no part of a record, or end with a letter that does not
suit that part, and a percent sign elsewhere may begin no field. All this shows only when a
line is to be written, which is then lost.
-/

namespace CallBindings

/-- The parts of a record that a layout can show. -/
inductive RecordPart where
  | message | logger | severityName | severityNumber | time | thread | process
  /-- What could have come with a record and never does. -/
  | attachment
deriving DecidableEq

/-- The parts by their keys. -/
def RecordPart.byKey : List (Text × RecordPart) :=
  [("message", .message), ("msg", .message), ("name", .logger), ("levelname", .severityName),
    ("levelno", .severityNumber), ("asctime", .time), ("threadName", .thread),
    ("processName", .process), ("args", .attachment), ("exc_info", .attachment),
    ("exc_text", .attachment), ("stack_info", .attachment)]

/-- The part that a key names. -/
def RecordPart.ofKey? (key : Text) : Option RecordPart :=
  (byKey.find? fun e => e.1 = key).map (·.2)

/-- The value of a part of a record, at a time that may not be known. -/
def RecordPart.value? (r : LogRecord) (now : Option Text) : RecordPart → Option FieldValue
  | .message => some (.text r.message)
  | .logger => some (.text r.logger)
  | .severityName => some (.text r.severity.name)
  | .severityNumber => some (.number r.severity.number)
  | .time => now.map .text
  | .thread => some (.text "MainThread")
  | .process => some (.text "MainProcess")
  | .attachment => some .nothing

/-- The record as a whole. What messages show of it begins with its logger; where it was sent
from, which is not kept, comes after the number of its severity. -/
def LogRecord.asValue (r : LogRecord) : FieldValue :=
  .beginning ("\x7b'name': " ++ r.logger.shown ++ ", 'msg': " ++ r.message.shown ++
    ", 'args': None, 'levelname': " ++ r.severity.name.shown ++ ", 'levelno': " ++
    Text.ofNat r.severity.number ++ ", 'pathname': '")

/-- A piece of a layout: a code point, a field, or a percent sign that begins no field. -/
inductive LayoutPiece where
  | literal (c : CodePoint)
  | field (f : LogField)
  | broken

/-- A layout: its pieces, and whether no line can be written without the time of its record. -/
structure LogLayout where
  pieces : List LayoutPiece
  needsTime : Bool

/-- A layout that is refused. -/
structure LayoutError where
  written : Text

/-- The wording of the refusal. -/
def LayoutError.message (e : LayoutError) : Text :=
  "Invalid format '" ++ e.written ++ "' for '%' style"

namespace Layout

/-- The layout used in place of an empty one. -/
def messageOnly : Text := "%(message)s"

/-! ## Reading -/

/-- The code points that are flags of a field. -/
def isFlag (c : CodePoint) : Bool :=
  c = '#' || c = '0' || c = '+' || c = ' ' || c = '-'

/-- The greatest width or precision. -/
def sizeLimit : Nat := 2147483647

/-- The key that ends where the parenthesis before the text is closed, and the rest. `depth`
counts the parentheses that are open inside the key. -/
def readKey? (depth : Nat) : Text → Option (Text × Text)
  | [] => none
  | c :: t =>
    if c = ')' then
      match depth with
      | 0 => some ([], t)
      | depth + 1 => (readKey? depth t).map fun r => (c :: r.1, r.2)
    else (readKey? (if c = '(' then depth + 1 else depth) t).map fun r => (c :: r.1, r.2)

/-- The number that a text begins with, if it begins with a digit, and the rest. -/
def readNumber (t : Text) : Option Nat × Text :=
  let digits := t.takeWhile CodePoint.isAsciiDigit
  (if digits.isEmpty then none
    else some (digits.foldl (fun n d => 10 * n + (d.val - 0x30)) 0),
    t.dropWhile CodePoint.isAsciiDigit)

/-- The precision that a text begins with, after a point, and the rest; a point alone means
zero. -/
def readPrecision (t : Text) : Option Nat × Text :=
  match t with
  | [] => (none, [])
  | c :: rest =>
    if c = '.' then (some ((readNumber rest).1.getD 0), (readNumber rest).2) else (none, t)

/-- A text without the `h`, `l` or `L` that may stand before the letter of a field. -/
def dropLength (t : Text) : Text :=
  match t with
  | [] => []
  | c :: rest => if c = 'h' || c = 'l' || c = 'L' then rest else t

/-- The field with a key, from what follows the key on, and the rest. -/
def readFit? (key : Option Text) (t : Text) : Option (LogField × Text) := do
  let flags := t.takeWhile isFlag
  let (width, rest) := readNumber (t.dropWhile isFlag)
  let (precision, rest) := readPrecision rest
  match dropLength rest with
  | [] => none
  | letter :: rest =>
    let conversion ← Conversion.ofLetter? letter
    if width.getD 0 ≤ sizeLimit && precision.getD 0 ≤ sizeLimit then
      some (⟨key, flags, width.getD 0, precision, conversion⟩, rest)
    else none

/-- The field after a percent sign, and the rest. -/
def readField? (t : Text) : Option (LogField × Text) :=
  match t with
  | [] => none
  | c :: rest =>
    if c = '(' then do
      let (key, rest) ← readKey? 0 rest
      readFit? (some key) rest
    else readFit? none t

/-- The pieces of a layout, at most `fuel` of them; nothing is read after one that is broken. -/
def readPieces : (fuel : Nat) → Text → List LayoutPiece
  | 0, _ => []
  | _, [] => []
  | fuel + 1, c :: t =>
    if c = '%' then
      if t.head? = some (CodePoint.ofChar '%') then .literal c :: readPieces fuel (t.drop 1)
      else match readField? t with
        | some (f, rest) => .field f :: readPieces fuel rest
        | none => [.broken]
    else .literal c :: readPieces fuel t

/-! ## Refusing -/

/-- The letters that end what looks like a field: those of fields in either case, the three
further ones that differ from `i` and `s` only in case, and the percent sign. -/
def isLetter (c : CodePoint) : Bool :=
  (Text.ofString "diouxefgcrsaDIOUXEFGCRSA%\u0130\u0131\u017F").contains c

/-- What follows the number in digits of any script, or the star in its place, that a text
begins with. -/
def dropNumber? (t : Text) : Option Text :=
  match t with
  | [] => none
  | c :: rest =>
    if c = '*' then some rest
    else if c.decimalValue?.isSome then
      some (rest.dropWhile fun d : CodePoint => d.decimalValue?.isSome)
    else none

/-- What follows the precision that a text begins with, if it begins with a point. -/
def dropPrecision? (t : Text) : Option Text :=
  match t with
  | [] => some []
  | c :: rest => if c = '.' then dropNumber? rest else some t

/-- Whether a text after a key has the form of the rest of a field. -/
def endsField (t : Text) : Bool :=
  let sized := t.dropWhile isFlag
  match dropPrecision? ((dropNumber? sized).getD sized) with
  | some (letter :: _) => isLetter letter
  | _ => false

/-- Whether a text after a percent sign has the form of a field with any key. -/
def startsField (t : Text) : Bool :=
  match t with
  | [] => false
  | c :: t =>
    let key := t.takeWhile CodePoint.isWord
    match t.dropWhile CodePoint.isWord with
    | [] => false
    | d :: rest => c = '(' && !key.isEmpty && d = ')' && endsField rest

/-- Whether a field with any key stands in a text. -/
def hasField : Text → Bool
  | [] => false
  | c :: t => (c = '%' && startsField t) || hasField t

/-- Whether the key of the time is spelled out after a percent sign in a text. It does not matter
that the percent sign may stand for itself. -/
def spellsTime : Text → Bool
  | [] => false
  | c :: t => Text.startsWith (c :: t) "%(asctime)" || spellsTime t

/-- The layout that a text denotes. -/
def read (written : Text) : Except LayoutError LogLayout :=
  let t := if written.isEmpty then messageOnly else written
  if hasField t then .ok ⟨readPieces t.length t, spellsTime t⟩ else .error ⟨t⟩

/-! ## Writing -/

/-- What a field shows of a record; without a key, what is at hand. -/
def fieldValue? (r : LogRecord) (now : Option Text) (atHand : Option FieldValue) (f : LogField) :
    Option FieldValue :=
  match f.key with
  | none => atHand
  | some key => (RecordPart.ofKey? key).bind (RecordPart.value? r now)

/-- What pieces write for a record, with a value at hand up to the first field. -/
def renderFrom (r : LogRecord) (now : Option Text) (atHand : Option FieldValue) :
    List LayoutPiece → Option Text
  | [] => some []
  | .literal c :: rest => (renderFrom r now atHand rest).map (c :: ·)
  | .field f :: rest => do
    let value ← fieldValue? r now atHand f
    let t ← f.write? value
    let more ← renderFrom r now none rest
    some (t ++ more)
  | .broken :: _ => none

/-- The line of a record, without its line feed, if it can be written. -/
def render? (r : LogRecord) (now : Option Text) (layout : LogLayout) : Option Text :=
  if layout.needsTime && now.isNone then none
  else renderFrom r now (some r.asValue) layout.pieces

end Layout

end CallBindings
