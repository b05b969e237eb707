import CallBindings.Json.Writable
import CallBindings.Unicode.Word

set_option autoImplicit false

/-! # URL templates

A template holds placeholders, a name of word code points between `${` and `}`; everything
else stands for itself. The value of a variable may hold placeholders too. They are resolved
where they stand, before anything after the value is looked at, so text that only comes
together where a value meets its surroundings is never taken for a placeholder.

A variable is not expanded inside its own expansion: with every step inwards one more variable
is in use. There are no more of them than entries, so the number of steps is bounded even without
the limit on it, beyond which resolution is given up.
-/

namespace CallBindings

/-- Why a template cannot be resolved. -/
inductive UrlError where
  | missing (name : Text)
  | cyclic (name : Text)
  | integer (e : IntegerError)
  | tooDeep
deriving DecidableEq

/-- The wording of an error. -/
def UrlError.message : UrlError → Text
  | .missing name => "'" ++ name ++ "' is not found in variables"
  | .cyclic name => "'" ++ name ++ "' refers to itself through its variables"
  | .integer e => e.message
  | .tooDeep => "maximum recursion depth exceeded while calling a Python object"

namespace Template

/-- A part of a template: a code point that stands for itself, or a placeholder. -/
inductive Piece where
  | literal (c : CodePoint)
  | placeholder (name : Text)
deriving DecidableEq

/-- What may be the beginning of a placeholder: nothing, a dollar sign, or a dollar sign, a
brace and the code points of a name, the latest first. -/
inductive Opening where
  | none
  | dollar
  | name (reversed : Text)

/-- The code points of an opening that did not become a placeholder. -/
def Opening.literals : Opening → List Piece
  | .none => []
  | .dollar => [.literal '$']
  | .name reversed => .literal '$' :: .literal '\x7b' :: reversed.reverse.map .literal

/-- The pieces of a text that follows an opening. -/
def scan : Opening → Text → List Piece
  | o, [] => o.literals
  | .none, c :: t => if c = '$' then scan .dollar t else .literal c :: scan .none t
  | .dollar, c :: t =>
    if c = '\x7b' then scan (.name []) t
    else if c = '$' then .literal '$' :: scan .dollar t
    else .literal '$' :: .literal c :: scan .none t
  | .name reversed, c :: t =>
    if c.isWord then scan (.name (c :: reversed)) t
    else if c = '\x7d' && !reversed.isEmpty then .placeholder reversed.reverse :: scan .none t
    else if c = '$' then (Opening.name reversed).literals ++ scan .dollar t
    else (Opening.name reversed).literals ++ .literal c :: scan .none t

/-- The pieces of a template. -/
def pieces (t : Text) : List Piece := scan .none t

/-- The names of the placeholders of a text, in order. -/
def names (t : Text) : List Text :=
  (pieces t).filterMap fun p => match p with
    | .literal _ => none
    | .placeholder name => some name

/-- The text of pieces whose placeholders stand for `value`, up to the first error. -/
def fill (value : Text → Except UrlError Text) : List Piece → Except UrlError Text
  | [] => .ok []
  | .literal c :: rest => (fill value rest).map (c :: ·)
  | .placeholder name :: rest => do
    let v ← value name
    let t ← fill value rest
    .ok (v ++ t)

/-- The value of a variable, if it has one other than null. -/
def value? (values : List (Text × Json)) (name : Text) : Option Json :=
  match lookup? name values with
  | none | some .null => none
  | some j => some j

/-- The text of a variable; an error if it has no value, or its value has no text. -/
def valueText (values : List (Text × Json)) (name : Text) : Except UrlError Text :=
  match value? values name with
  | none => .error (.missing name)
  | some j =>
    match j.toPlain with
    | .error e => .error (.integer e)
    | .ok t => .ok t

/-- Expands a text inside the expansion of the variables in `active`, where fewer than `room`
levels are left further inwards. -/
def expand (values : List (Text × Json)) : (room : Nat) → List Text → Text → Except UrlError Text
  | 0, _, _ => .error .tooDeep
  | room + 1, active, t =>
    fill (fun name =>
      if active.contains name then .error (.cyclic name)
      else match valueText values name with
        | .error e => .error e
        | .ok v => expand values room (name :: active) v)
      (pieces t)

/-- The URL a template stands for, if its variables are nested fewer than `room` levels deep. -/
def resolveWithin (room : Nat) (values : List (Text × Json)) (template : Text) :
    Except UrlError Text :=
  expand values room [] template

/-- The levels of nested variables that are too many. -/
def depthLimit : Nat := 991

/-- The URL a template stands for. -/
def resolve (values : List (Text × Json)) (template : Text) : Except UrlError Text :=
  resolveWithin depthLimit values template

end Template

end CallBindings
