import CallBindings.CommandLine.Usage
import CallBindings.Number.Integer

set_option autoImplicit false

/-! # Reading a command line

The words of a command line are first sorted: a word that begins with a hyphen names an option,
unless it is a single hyphen, looks like a negative number or holds a blank. A long name may
be shortened as long as only one option begins so. A value may follow in the same word, after
`=` or, for a short name, directly. After the word `--` no word is an option.

Then the options are carried out in order, each that needs a value taking the next word if that
is no option. Words that belong to no option are refused, but only at the end.
-/

namespace CallBindings

/-- Why a command line is refused. -/
inductive UsageError where
  | ambiguous (written : Text) (candidates : List Text)
  | missingValue (o : CommandOption)
  | unusedValue (o : CommandOption) (value : Text)
  | noInteger (o : CommandOption) (value : Text)
  | unrecognized (words : List Text)

/-- The wording of a refusal. -/
def UsageError.message : UsageError → Text
  | .ambiguous written candidates =>
    "ambiguous option: " ++ written ++ " could match " ++ Text.join ", " candidates
  | .missingValue o => "argument " ++ o.called ++ ": expected one argument"
  | .unusedValue o value => "argument " ++ o.called ++ ": ignored explicit argument " ++ value.shown
  | .noInteger o value => "argument " ++ o.called ++ ": invalid int value: " ++ value.shown
  | .unrecognized words => "unrecognized arguments: " ++ Text.join " " words

/-- What reading a command line ends with. -/
inductive Invocation where
  | run (a : Arguments)
  | help
  | refused (e : UsageError)

/-- A word of the command line. -/
inductive CommandWord where
  | plain (t : Text)
  /-- The word after which there are no options. -/
  | marker
  /-- A word that looks like an option but names none. -/
  | unknown (t : Text)
  /-- An option by its short or long name, and what follows the name in the word. -/
  | option (o : CommandOption) (short : Bool) (attached : Option Text)

namespace CommandWord

/-- Whether a text begins with a hyphen. -/
def hasHyphen (t : Text) : Bool := t.startsWith "-"

/-- Whether a text has the form of a negative number: digits after a hyphen, with a point
before the last of them or not. A line feed may follow. -/
def isNegativeNumber (t : Text) : Bool :=
  match t with
  | [] => false
  | c :: rest =>
    let body := if Text.endsWith rest "\n" then rest.dropLast else rest
    let isDigit := fun d : CodePoint => d.decimalValue?.isSome
    let fraction := body.dropWhile isDigit
    c = '-' && (match fraction with
      | [] => !body.isEmpty
      | p :: digits => p = '.' && !digits.isEmpty && digits.all isDigit)

/-- The part of a word before the first `=`, and the part after it if there is one. -/
def splitEquals (t : Text) : Text × Option Text :=
  match t.dropWhile (· ≠ CodePoint.ofChar '=') with
  | [] => (t, none)
  | _ :: value => (t.takeWhile (· ≠ CodePoint.ofChar '='), some value)

/-- The options that a shortened or clustered word may mean, each with its name. -/
def candidates (names : List (Text × CommandOption)) (t : Text) : List (Text × CommandWord) :=
  if t.startsWith "--" then
    let (name, value) := splitEquals t
    (names.filter fun e => e.1.startsWith name).map fun e => (e.1, .option e.2 false value)
  else
    (names.filter fun e => e.1 = t.take 2).map fun e =>
      (e.1, .option e.2 true (some (t.drop 2)))

/-- The kind of a word that begins with a hyphen and is longer. -/
def readHyphened (names : List (Text × CommandOption)) (t : Text) :
    Except UsageError CommandWord :=
  let (name, value) := splitEquals t
  match value, lookup? name names with
  | some _, some o => .ok (.option o (!t.startsWith "--") value)
  | _, _ =>
    match candidates names t with
    | [e] => .ok e.2
    | _ :: _ :: _ => .error (.ambiguous t ((candidates names t).map (·.1)))
    | [] =>
      .ok (if isNegativeNumber t || t.contains ' ' then .plain t else .unknown t)

/-- The kind of a word before any `--`. -/
def read (names : List (Text × CommandOption)) (t : Text) : Except UsageError CommandWord :=
  if !hasHyphen t then .ok (.plain t)
  else match lookup? t names with
    | some o => .ok (.option o (!t.startsWith "--") none)
    | none => if t = "-" then .ok (.plain t) else readHyphened names t

/-- The kinds of the words of a command line. -/
def readAll (names : List (Text × CommandOption)) : List Text → Except UsageError (List CommandWord)
  | [] => .ok []
  | t :: rest =>
    if t = "--" then .ok (.marker :: rest.map .plain)
    else do
      let w ← read names t
      let ws ← readAll names rest
      .ok (w :: ws)

end CommandWord

/-- An option of a word, with its value if the word holds one. -/
abbrev OptionUse := CommandOption × Option Text

namespace Invocation

/-- Where reading stops before the end. -/
inductive Stop where
  | help
  | refused (e : UsageError)

/-- What has been read so far: the arguments, and the words that belong to no option. -/
structure Progress where
  arguments : Arguments := {}
  extra : List Text := []

/-- The options in a word that begins with the short name of `o`, followed by a text. An option
that takes a value takes all of the text; one that takes none leaves it to the next short name. -/
def cluster (names : List (Text × CommandOption)) (o : CommandOption) :
    Text → Except UsageError (List OptionUse)
  | [] => .ok [(o, none)]
  | c :: t =>
    if o.effect.takesValue then .ok [(o, some (c :: t))]
    else match lookup? [CodePoint.ofChar '-', c] names with
      | none => .error (.unusedValue o (c :: t))
      | some next => (cluster names next t).map ((o, none) :: ·)

/-- The options in a word that begins with the name of `o`. -/
def uses (names : List (Text × CommandOption)) (o : CommandOption) (short : Bool)
    (attached : Option Text) : Except UsageError (List OptionUse) :=
  match attached with
  | none => .ok [(o, none)]
  | some t =>
    if o.effect.takesValue then .ok [(o, some t)]
    else if short && !t.isEmpty then cluster names o t
    else .error (.unusedValue o t)

/-- The option that still needs a value from the next word: only the last can. -/
def needsValue? (us : List OptionUse) : Option CommandOption :=
  match us.getLast? with
  | some (o, none) => if o.effect.takesValue then some o else none
  | _ => none

/-- Gives a value to the last option. -/
def supply (value : Text) (us : List OptionUse) : List OptionUse :=
  match us.getLast? with
  | some (o, _) => us.dropLast ++ [(o, some value)]
  | none => us

/-- The text that an option is given. -/
def givenText (value : Text) : Given Text := if value = "--" then .noValues else .value value

/-- The number that an option is given. -/
def givenNumber (value : Text) : Except IntegerError (Given Int) :=
  if value = "--" then .ok .noValues else value.readInt.map .value

/-- Carries out one option. -/
def carryOut (a : Arguments) (u : OptionUse) : Except Stop Arguments :=
  match u.1.effect with
  | .help => .error .help
  | .switch set => .ok (set a)
  | .text _ set => .ok (set (givenText (u.2.getD [])) a)
  | .number _ set =>
    match givenNumber (u.2.getD []) with
    | .ok n => .ok (set n a)
    | .error _ => .error (.refused (.noInteger u.1 (u.2.getD [])))

/-- Carries out the options of a word. -/
def advance (p : Progress) (us : List OptionUse) : Except Stop Progress := do
  let a ← us.foldlM carryOut p.arguments
  .ok { p with arguments := a }

/-- Keeps a word that belongs to no option. -/
def Progress.keep (p : Progress) (t : Text) : Progress := { p with extra := p.extra ++ [t] }

/-- The options of a word as a step that can stop. -/
def usesOrStop (names : List (Text × CommandOption)) (o : CommandOption) (short : Bool)
    (attached : Option Text) : Except Stop (List OptionUse) :=
  match uses names o short attached with
  | .ok us => .ok us
  | .error e => .error (.refused e)

/-- Carries out the options of words in order. -/
def carryOutAll (names : List (Text × CommandOption)) :
    List CommandWord → Progress → Except Stop Progress
  | [], p => .ok p
  | .plain t :: rest, p => carryOutAll names rest (p.keep t)
  | .marker :: rest, p => carryOutAll names rest (p.keep "--")
  | .unknown t :: rest, p => carryOutAll names rest (p.keep t)
  | .option o short attached :: rest, p => do
    let us ← usesOrStop names o short attached
    match needsValue? us with
    | none => carryOutAll names rest (← advance p us)
    | some last =>
      match rest with
      | .plain value :: rest => carryOutAll names rest (← advance p (supply value us))
      | _ => .error (.refused (.missingValue last))

/-- Reads a command line. -/
def read (options : List CommandOption) (words : List Text) : Invocation :=
  let names := CommandOption.byName options
  match CommandWord.readAll names words with
  | .error e => .refused e
  | .ok ws =>
    match carryOutAll names ws {} with
    | .error .help => .help
    | .error (.refused e) => .refused e
    | .ok p => if p.extra.isEmpty then .run p.arguments else .refused (.unrecognized p.extra)

end Invocation

/-- What is printed about a refused command line. -/
def UsageError.report (options : List CommandOption) (e : UsageError) : Text :=
  Usage.usage options ++ Usage.program ++ ": error: " ++ e.message ++ "\n"

end CallBindings
