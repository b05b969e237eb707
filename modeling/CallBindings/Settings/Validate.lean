import CallBindings.Number.Integer
import CallBindings.Settings.Basic
import CallBindings.Unicode.Case

set_option autoImplicit false

/-! # Validating settings

Members of an object become settings: texts lose the white space around them, blank and null
ones give way to the default, the transport must be registered, and there is at least one
worker. A strict validation stops at the first value that is not right. A lenient one takes
the nearest right value or the default instead, with a warning; it also takes a number of
workers written as a text of digits.
-/

namespace CallBindings

/-- How wrong values are met. -/
inductive ValidationMode where
  | strict | lenient
deriving DecidableEq

/-- Why values are refused. -/
inductive SettingsError where
  | notObject (kind : Json.Kind)
  | wrongKind (field expected : Text) (kind : Json.Kind)
  | belowOne (field : Text)
  | unknownTransport (name : Text) (available : List Text)
  | integer (e : IntegerError)

/-- The wording of the fault that something is no object. -/
def notObjectText (kind : Json.Kind) : Text :=
  "Invalid config type: expected dict, received " ++ kind.name ++ "."

/-- The wording of the fault that a value has the wrong kind. -/
def wrongKindText (field expected : Text) (kind : Json.Kind) : Text :=
  "Invalid field '" ++ field ++ "': expected " ++ expected ++ ", received " ++ kind.name ++ "."

/-- The wording of the fault that a transport is not registered. -/
def unknownTransportText (name : Text) (available : List Text) : Text :=
  "Unknown transport '" ++ name ++ "'. Available: " ++ Text.join ", " available ++ "."

/-- The wording of an error. -/
def SettingsError.message : SettingsError → Text
  | .notObject kind => notObjectText kind
  | .wrongKind field expected kind => wrongKindText field expected kind
  | .belowOne field => "Invalid field '" ++ field ++ "': must be >= 1."
  | .unknownTransport name available => unknownTransportText name available
  | .integer e => e.message

/-- What a lenient validation puts right. -/
inductive SettingsWarning where
  | notObject (kind : Json.Kind)
  | wrongKind (field expected : Text) (kind : Json.Kind)
  | converted (field written : Text) (n : Int)
  | clamped (field : Text) (n : Int)
  | unknownTransport (name : Text) (available : List Text) (used : Text)

/-- The wording of a warning. -/
def SettingsWarning.message : SettingsWarning → Text
  | .notObject kind => notObjectText kind ++ " Using defaults."
  | .wrongKind field expected kind => wrongKindText field expected kind ++ " Using fallback."
  | .converted field written n =>
    "Field '" ++ field ++ "' converted from '" ++ written ++ "' to " ++ Text.ofInt n ++ "."
  | .clamped field n => "Field '" ++ field ++ "' clamped from " ++ Text.ofInt n ++ " to 1."
  | .unknownTransport name available used =>
    unknownTransportText name available ++ " Using '" ++ used ++ "'."

/-- The record of a warning; only that of a whole object is logged. -/
def SettingsWarning.record? : SettingsWarning → Option LogRecord
  | .notObject kind => some ⟨.warning, "contractbind.core.validator", notObjectText kind⟩
  | _ => none

/-- A validation that collects warnings up to the first error. -/
abbrev Checked := StateT (List SettingsWarning) (Except SettingsError)

namespace Settings

/-- Adds a warning. -/
def warn (w : SettingsWarning) : Checked Unit := modify fun ws => ws ++ [w]

/-- A text setting: its value without white space around it. -/
def checkText (mode : ValidationMode) (field fallback : Text) : Json → Checked Text
  | .null => pure fallback
  | .str t => pure (if t.trim.isEmpty then fallback else t.trim)
  | j =>
    match mode with
    | .strict => throw (.wrongKind field "str" j.kind)
    | .lenient => do
      warn (.wrongKind field "str" j.kind)
      pure fallback

/-- A number that is at least one. The warning about a smaller one shows it, if it can be
written. -/
def checkPositive (mode : ValidationMode) (field : Text) (n : Int) : Checked Int :=
  if n < 1 then
    match mode with
    | .strict => throw (.belowOne field)
    | .lenient =>
      if !Text.canWrite n then throw (.integer .unwritable)
      else do
        warn (.clamped field n)
        pure 1
  else pure n

/-- The fallback for a value that is no number. -/
def refuseNumber (mode : ValidationMode) (field : Text) (fallback : Int) (kind : Json.Kind) :
    Checked Int :=
  match mode with
  | .strict => throw (.wrongKind field "int" kind)
  | .lenient => do
    warn (.wrongKind field "int" kind)
    pure fallback

/-- A setting that counts: an integer of at least one, or leniently a text of its digits. -/
def checkCount (mode : ValidationMode) (field : Text) (fallback : Int) : Json → Checked Int
  | .null => pure fallback
  | .int n => checkPositive mode field n
  | .str t =>
    match mode with
    | .strict => refuseNumber .strict field fallback .str
    | .lenient =>
      if t.trim.isDigits then
        match t.trim.readInt with
        | .error e => throw (.integer e)
        | .ok n => do
          warn (.converted field t n)
          checkPositive .lenient field n
      else refuseNumber .lenient field fallback .str
  | j => refuseNumber mode field fallback j.kind

/-- The registered name that a text means as the name of a transport. -/
def checkTransport (mode : ValidationMode) (registry : Registry) (fallback name : Text) :
    Checked Text :=
  if registry.lists name.trim.lower then pure name.trim.lower
  else
    match mode with
    | .strict => throw (.unknownTransport name registry.names)
    | .lenient => do
      warn (.unknownTransport name registry.names fallback)
      pure fallback

/-- The settings given by members that include all seven. -/
def check (mode : ValidationMode) (registry : Registry) (d : Settings)
    (members : List (Text × Json)) : Checked Settings := do
  let value := fun field : Text => (lookup? field members).getD .null
  let inputPath ← checkText mode "input_path" d.inputPath (value "input_path")
  let outputPath ← checkText mode "output_path" d.outputPath (value "output_path")
  let pattern ← checkText mode "pattern" d.pattern (value "pattern")
  let transport ← checkText mode "transport" d.transport (value "transport")
  let logLevel ← checkText mode "log_level" d.logLevel (value "log_level")
  let logFile ← checkText mode "log_file" [] (value "log_file")
  let maxWorkers ← checkCount mode "max_workers" d.maxWorkers (value "max_workers")
  let transport ← checkTransport mode registry d.transport transport
  pure
    { inputPath, outputPath, pattern, transport, maxWorkers, logLevel := logLevel.upper, logFile
      extra := members.filter fun m => !fields.contains m.1 }

/-- The settings given by a value, with the warnings about it. `current` is the path of the
current directory. -/
def validate (mode : ValidationMode) (registry : Registry) (current : Text) (config : Json) :
    Except SettingsError (Settings × List SettingsWarning) :=
  let d := defaults current
  match config with
  | .obj members => (check mode registry d (assignAll d.members members)).run []
  | j =>
    match mode with
    | .strict => .error (.notObject j.kind)
    | .lenient => .ok (d, [.notObject j.kind])

end Settings

end CallBindings
