import CallBindings.Json.Basic
import CallBindings.Number.Integer

set_option autoImplicit false

/-! # Reading JSON

A text is read from left to right, and the first fault ends the reading. Beside standard JSON
the words `NaN`, `Infinity` and `-Infinity` are numbers, and `\ud800`–`\udfff` denote single
code points unless a high half is followed by a low one. A fault is kept with the text from
its place on; line and column are computed from it once the reading has failed.

Lists and objects are nested only up to a limit. Beyond it the reading is given up, which says
nothing about whether the text is JSON.

The functions for values, items and members call each other with a bound on the depth of
calls. Each call but the one from a value to its first item or member has read a code point,
so twice the length of the text is enough. The room left for nesting is a number of its own.
-/

namespace CallBindings

/-- What is wrong at the place where reading JSON fails. -/
inductive JsonFault where
  | value
  | propertyName
  | colon
  | comma
  | extraData
  | unterminatedString
  | controlCode
  | escape
  | unicodeEscape
  | byteOrderMark
deriving DecidableEq

/-- Why a text is not read as JSON: a fault at a place, an integer of too many digits, or a list
or object that is nested too deeply. -/
inductive JsonError where
  | malformed (fault : JsonFault) (line column position : Nat)
  | longInteger (digits : Nat)
  | tooDeep (kind : Json.Kind)
deriving DecidableEq

/-- The wording of a fault. -/
def JsonFault.message : JsonFault → Text
  | .value => "Expecting value"
  | .propertyName => "Expecting property name enclosed in double quotes"
  | .colon => "Expecting ':' delimiter"
  | .comma => "Expecting ',' delimiter"
  | .extraData => "Extra data"
  | .unterminatedString => "Unterminated string starting at"
  | .controlCode => "Invalid control character at"
  | .escape => "Invalid \\escape"
  | .unicodeEscape => "Invalid \\uXXXX escape"
  | .byteOrderMark => "Unexpected UTF-8 BOM (decode using utf-8-sig)"

/-- The wording of a JSON error. -/
def JsonError.message : JsonError → Text
  | .malformed fault line column position =>
    fault.message ++ ": line " ++ Text.ofNat line ++ " column " ++ Text.ofNat column ++
      " (char " ++ Text.ofNat position ++ ")"
  | .longInteger digits => (IntegerError.tooLong digits).message
  | .tooDeep kind =>
    "maximum recursion depth exceeded while decoding a JSON " ++
      (if kind = .list then Text.ofString "array" else Text.ofString "object") ++
      " from a unicode string"

/-- Whether the reading was given up, so that nothing is known about the text. -/
def JsonError.isGivenUp : JsonError → Bool
  | .tooDeep _ => true
  | _ => false

namespace Json

/-- How deeply lists and objects can be nested in a text. -/
def nestingLimit : Nat := 990

/-- A fault with the text from its place on, the number of digits of an integer that is too
long, or the kind of what is nested too deeply. -/
inductive Stop where
  | fault (fault : JsonFault) (here : Text)
  | longInteger (digits : Nat)
  | tooDeep (kind : Kind)

/-- White space between the parts of a JSON text. -/
def isSpace (c : CodePoint) : Bool := c = ' ' || c = '\t' || c = '\n' || c = '\r'

/-- The text after white space. -/
def skipSpace (t : Text) : Text := t.dropWhile isSpace

/-- The code point denoted by an escape letter. -/
def escaped? (c : CodePoint) : Option CodePoint :=
  if c = '"' || c = '\\' || c = '/' then some c
  else if c = 'b' then some (CodePoint.ofNat 8)
  else if c = 'f' then some (CodePoint.ofNat 12)
  else if c = 'n' then some '\n'
  else if c = 'r' then some '\r'
  else if c = 't' then some '\t'
  else none

/-- The number of four hexadecimal digits. -/
def hex4? (a b c d : CodePoint) : Option Nat :=
  match a.hexValue?, b.hexValue?, c.hexValue?, d.hexValue? with
  | some a, some b, some c, some d => some (((a * 16 + b) * 16 + c) * 16 + d)
  | _, _, _, _ => none

/-- Whether a number is the first half of a surrogate pair. -/
def isHigh (n : Nat) : Bool := 0xD800 ≤ n && n ≤ 0xDBFF

/-- Whether a number is the second half of a surrogate pair. -/
def isLow (n : Nat) : Bool := 0xDC00 ≤ n && n ≤ 0xDFFF

/-- The code point of a surrogate pair. -/
def joinPair (high low : Nat) : Nat := 0x10000 + (high - 0xD800) * 0x400 + (low - 0xDC00)

/-- What an escape `\u` denotes: a fault at a place, or a code point, written with one escape
or with two. -/
inductive UnicodeEscape where
  | bad (here : Text)
  | single (n : Nat)
  | pair (n : Nat)

/-- Reads the text from the `u` of an escape on. An escape that ends the text is a fault. -/
def unicodeEscape : Text → UnicodeEscape
  | v :: a :: b :: c :: d :: rest =>
    match hex4? a b c d with
    | none => .bad (v :: a :: b :: c :: d :: rest)
    | some n =>
      if rest.isEmpty then .bad [v, a, b, c, d]
      else if !isHigh n then .single n
      else match rest with
        | s :: u :: e :: f :: g :: h :: x :: more =>
          if s = '\\' && u = 'u' then
            match hex4? e f g h with
            | none => .bad (u :: e :: f :: g :: h :: x :: more)
            | some m => if isLow m then .pair (joinPair n m) else .single n
          else .single n
        | _ => .single n
  | t => .bad t

/-- The rest of a text after the opening quote: the code points up to the closing quote, and
what follows it. `opening` is the text from the opening quote on. -/
def readString (opening : Text) : Text → Except Stop (Text × Text)
  | [] => .error (.fault .unterminatedString opening)
  | c :: t =>
    if c = '"' then .ok ([], t)
    else if c.val < 0x20 then .error (.fault .controlCode (c :: t))
    else if c = '\\' then
      match t with
      | [] => .error (.fault .unterminatedString opening)
      | e :: t =>
        if e = 'u' then
          match unicodeEscape (e :: t), t with
          | .single n, _ :: _ :: _ :: _ :: t =>
            (readString opening t).map fun r => (CodePoint.ofNat n :: r.1, r.2)
          | .pair n, _ :: _ :: _ :: _ :: _ :: _ :: _ :: _ :: _ :: _ :: t =>
            (readString opening t).map fun r => (CodePoint.ofNat n :: r.1, r.2)
          | .bad here, _ => .error (.fault .unicodeEscape here)
          | _, t => .error (.fault .unicodeEscape t)
        else match escaped? e with
          | none => .error (.fault .escape (c :: e :: t))
          | some x => (readString opening t).map fun r => (x :: r.1, r.2)
    else (readString opening t).map fun r => (c :: r.1, r.2)

/-- The ASCII digits a text begins with, and the rest. -/
def asciiDigits (t : Text) : List Nat × Text :=
  ((t.takeWhile CodePoint.isAsciiDigit).map (·.val - 0x30), t.dropWhile CodePoint.isAsciiDigit)

/-- The digits of the integer part of a number: a zero alone, or digits without a leading
zero. -/
def integerPart? : Text → Option (List Nat × Text)
  | [] => none
  | c :: t =>
    if c = '0' then some ([0], t)
    else if c.isAsciiDigit then some (asciiDigits (c :: t))
    else none

/-- The digits after a point that is followed by a digit, and the rest. -/
def fractionPart? : Text → Option (List Nat × Text)
  | c :: d :: t =>
    if c = '.' && d.isAsciiDigit then some (asciiDigits (d :: t)) else none
  | _ => none

/-- The exponent a text begins with, if it has a digit, and the rest. -/
def exponentPart? : Text → Option (Int × Text)
  | c :: t =>
    if c = 'e' || c = 'E' then
      let (negative, digits) := Text.signOf t
      match asciiDigits digits with
      | ([], _) => none
      | (ds, rest) =>
        let n : Int := natOfDigits ds
        some (if negative then -n else n, rest)
    else none
  | [] => none

/-- The number a text begins with. Without a fraction and an exponent it is an integer. -/
def readNumber (t : Text) : Except Stop (Json × Text) :=
  let (negative, body) : Bool × Text :=
    match t with
    | c :: t' => if c = '-' then (true, t') else (false, t)
    | [] => (false, t)
  match integerPart? body with
  | none => .error (.fault .value t)
  | some (whole, afterWhole) =>
    let (fraction, afterFraction) := (fractionPart? afterWhole).getD ([], afterWhole)
    match exponentPart? afterFraction with
    | some (e, rest) =>
      let x := Binary64.ofDecimal negative (natOfDigits (whole ++ fraction)) (e - fraction.length)
      .ok (.float x, rest)
    | none =>
      if fraction.isEmpty then
        if integerDigitLimit < whole.length then .error (.longInteger whole.length)
        else
          let n : Int := natOfDigits whole
          .ok (.int (if negative then -n else n), afterFraction)
      else
        let x := Binary64.ofDecimal negative (natOfDigits (whole ++ fraction)) (-fraction.length)
        .ok (.float x, afterFraction)

/-- The words that stand for values, with what they denote. -/
def words : List (Text × Json) :=
  [("null", .null), ("true", .bool true), ("false", .bool false), ("NaN", .float .nan),
    ("Infinity", .float (.infinity false)), ("-Infinity", .float (.infinity true))]

/-- The word a text begins with, and the rest. -/
def readWord? (t : Text) : Option (Json × Text) :=
  words.findSome? fun w => (t.dropStart? w.1).map fun rest => (w.2, rest)

mutual

/-- The value a text begins with, in which lists and objects are nested at most `room` deep. -/
def readValue : (room depth : Nat) → Text → Except Stop (Json × Text)
  | _, 0, t => .error (.fault .value t)
  | room, depth + 1, t =>
    match t with
    | [] => .error (.fault .value [])
    | c :: rest =>
      if c = '"' then (readString t rest).map fun r => (.str r.1, r.2)
      else if c = '[' then
        match room with
        | 0 => .error (.tooDeep .list)
        | room + 1 =>
          match skipSpace rest with
          | [] => .error (.fault .value [])
          | d :: after =>
            if d = ']' then .ok (.arr [], after)
            else (readItems room depth (d :: after)).map fun r => (.arr r.1, r.2)
      else if c = '\x7b' then
        match room with
        | 0 => .error (.tooDeep .dict)
        | room + 1 =>
          match skipSpace rest with
          | [] => .error (.fault .propertyName [])
          | d :: after =>
            if d = '\x7d' then .ok (.obj [], after)
            else (readMembers room depth [] (d :: after)).map fun r => (.obj r.1, r.2)
      else match readWord? t with
        | some r => .ok r
        | none => readNumber t

/-- The items of a list up to its closing bracket. -/
def readItems : (room depth : Nat) → Text → Except Stop (List Json × Text)
  | _, 0, t => .error (.fault .value t)
  | room, depth + 1, t => do
    let (item, afterItem) ← readValue room depth t
    match skipSpace afterItem with
    | [] => .error (.fault .comma [])
    | c :: rest =>
      if c = ']' then .ok ([item], rest)
      else if c = ',' then
        (readItems room depth (skipSpace rest)).map fun r => (item :: r.1, r.2)
      else .error (.fault .comma (c :: rest))

/-- The members of an object up to its closing brace, added to those read before. -/
def readMembers : (room depth : Nat) → List (Text × Json) → Text →
    Except Stop (List (Text × Json) × Text)
  | _, 0, _, t => .error (.fault .propertyName t)
  | room, depth + 1, members, t =>
    match t with
    | [] => .error (.fault .propertyName [])
    | q :: afterQuote =>
      if q ≠ '"' then .error (.fault .propertyName t)
      else do
        let (name, afterName) ← readString t afterQuote
        match skipSpace afterName with
        | [] => .error (.fault .colon [])
        | c :: afterColon =>
          if c ≠ ':' then .error (.fault .colon (c :: afterColon))
          else do
            let (value, afterValue) ← readValue room depth (skipSpace afterColon)
            let members := assign name value members
            match skipSpace afterValue with
            | [] => .error (.fault .comma [])
            | d :: rest =>
              if d = '\x7d' then .ok (members, rest)
              else if d = ',' then readMembers room depth members (skipSpace rest)
              else .error (.fault .comma (d :: rest))

end

/-- The value of a whole text with white space around it, in which lists and objects are nested
at most `room` deep, or why the reading stops. -/
def readWhole (room : Nat) (t : Text) : Except Stop Json := do
  let (value, rest) ← readValue room (2 * t.length + 2) (skipSpace t)
  match skipSpace rest with
  | [] => .ok value
  | c :: more => .error (.fault .extraData (c :: more))

/-- Line, column and position of the place in `t` from which on it reads `here`; lines and
columns count from one. -/
def placeOf (t here : Text) : Nat × Nat × Nat :=
  let before := t.take (t.length - here.length)
  let lastLine := before.reverse.takeWhile (· ≠ CodePoint.ofChar '\n')
  (Text.countOf '\n' before + 1, lastLine.length + 1, before.length)

/-- The value of a JSON text in which lists and objects are nested at most `room` deep. A byte
order mark is a fault like any code point that begins no value. -/
def readWithin (room : Nat) (t : Text) : Except JsonError Json :=
  match readWhole room t with
  | .ok value => .ok value
  | .error (.longInteger digits) => .error (.longInteger digits)
  | .error (.tooDeep kind) => .error (.tooDeep kind)
  | .error (.fault fault here) =>
    let (line, column, position) := placeOf t here
    .error (.malformed fault line column position)

/-- The value of a JSON text that may begin with a byte order mark. -/
def readMarked (t : Text) : Except JsonError Json := readWithin nestingLimit t

/-- The value of a JSON text. -/
def read (t : Text) : Except JsonError Json :=
  if t.startsWith [CodePoint.ofNat 0xFEFF] then .error (.malformed .byteOrderMark 1 1 0)
  else readMarked t

end Json

end CallBindings
