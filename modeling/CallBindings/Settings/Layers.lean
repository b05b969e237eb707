import CallBindings.Files.JsonFile
import CallBindings.Settings.Basic

set_option autoImplicit false

/-! # Layers of settings

Settings come from three layers: the defaults, the members of an object in a configuration
file, and the command line. A later layer wins over an earlier one, but the command line only
with values other than null. A file that is missing, unreadable or holds no object acts like
an empty object, and the log says so. Only where its reading is given up there are no settings.
-/

namespace CallBindings.Settings

/-- The name of the configuration file looked for in the current directory. -/
def configFile : Text := "contractbind.json"

/-- The path of the configuration file: the one given, unless it is empty. -/
def configPath (current : Text) (given : Option Text) : Text :=
  match given with
  | some (c :: p) => c :: p
  | _ => Path.join current configFile

/-- The record of a fault of the configuration file. -/
def configRecord (severity : Severity) (message : Text) : LogRecord :=
  ⟨severity, "contractbind.domain.config", message ++ " Using defaults."⟩

/-- The members of the object in the configuration file at a path, and what is logged about
it. -/
def fileMembers (fs : Files) (p : Text) :
    Except JsonFileError (List (Text × Json) × List LogRecord) :=
  if !fs.hasNode p then
    .ok ([], [configRecord .debug ("Config file not found at " ++ p ++ ".")])
  else match fs.readJson p with
    | .error e =>
      if e.isGivenUp then .error e
      else
        let message := "Failed to load config " ++ p ++ ": " ++ e.message ++ "."
        .ok ([], [configRecord .error message])
    | .ok (.obj members) => .ok (members, [])
    | .ok _ =>
      .ok ([], [configRecord .warning ("Config file " ++ p ++ " is not a JSON object.")])

/-- The members of the defaults and of the configuration file, and what is logged. -/
def load (fs : Files) (given : Option Text) :
    Except JsonFileError (List (Text × Json) × List LogRecord) :=
  match fileMembers fs (configPath fs.currentPath given) with
  | .error e => .error e
  | .ok (members, records) => .ok (assignAll (defaults fs.currentPath).members members, records)

/-- Members overridden by those values of a further layer that are not null. -/
def override (base overrides : List (Text × Json)) : List (Text × Json) :=
  assignAll base (fields.filterMap fun field =>
    match lookup? field overrides with
    | none => none
    | some .null => none
    | some j => some (field, j))

end CallBindings.Settings
