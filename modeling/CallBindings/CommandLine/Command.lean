import CallBindings.CommandLine.Reading
import CallBindings.Generation.Run
import CallBindings.Json.Printer
import CallBindings.Logging.Setup
import CallBindings.Settings.Layers
import CallBindings.Settings.Validate

set_option autoImplicit false

/-! # The command

The command reads its command line, settles the settings from defaults, configuration file and
command line, sets up logging, and runs the generation. It ends with 0 if there is a module, 1
if the run failed, 2 if the directory of contracts is missing or the command line is refused,
and 130 if the user has interrupted it. Standard output holds what was asked for, the error
stream complaints, and the console the log.
-/

namespace CallBindings

/-- What a command finds around it. -/
structure Surroundings where
  registry : Registry
  files : Files
  /-- The time in the heading of a module. -/
  now : Timestamp
  /-- The time of log lines. -/
  clock : Timestamp
  /-- The seconds that the run takes. -/
  elapsed : Json
  /-- Whether the user interrupts the run. -/
  interrupted : Bool

/-- Why a command breaks off without a result. -/
inductive CommandFailure where
  | settings (e : SettingsError)
  | setup (e : SetupError)
  | reading (e : JsonFileError)
  | run (e : Breakdown)

/-- The wording of the failure. -/
def CommandFailure.message : CommandFailure → Text
  | .settings e => e.message
  | .setup e => e.message
  | .reading e => e.message
  | .run e => e.message

/-- The traces of a command: the state of logging, what is written, and standard output. -/
structure Session where
  logging : LoggingState := {}
  streams : LogStreams
  output : Text := []

namespace Session

/-- Adds to standard output. -/
def print (s : Session) (t : Text) : Session := { s with output := s.output ++ t }

/-- Adds a line to the error stream. -/
def complain (s : Session) (t : Text) : Session :=
  { s with streams := { s.streams with errors := s.streams.errors ++ t ++ "\n" } }

/-- Logs records. -/
def log (s : Session) (around : Surroundings) (records : List LogRecord) : Session :=
  { s with streams := s.logging.emitAll around.clock records s.streams }

/-- Goes on with other files. A log file in whose place a file has been written is cut off. -/
def withFiles (s : Session) (files : Files) (written : Option Place) : Session :=
  { s with
    streams := { s.streams with files := files }
    logging := match written with
      | some place => s.logging.detach place
      | none => s.logging }

end Session

/-- How a command ends: its exit code, whether it got past its command line, and its traces. -/
structure CommandResult where
  code : Nat
  started : Bool
  session : Session

namespace Command

/-- A record of the command. -/
def record (severity : Severity) (message : Text) : LogRecord :=
  ⟨severity, "contractbind.interface.cli.app", message⟩

/-- The members of all layers of settings, and what is logged about the configuration file. -/
def layers (around : Surroundings) (a : Arguments) :
    Except JsonFileError (List (Text × Json) × List LogRecord) := do
  let (base, records) ←
    if a.useDefaults then .ok ((Settings.defaults around.files.currentPath).members, [])
    else Settings.load around.files a.configPath.value?
  .ok (Settings.override base a.overrides, records)

/-- The record of a warning about settings. -/
def warningRecord (w : SettingsWarning) : LogRecord :=
  record .warning ("Configuration Constraint: " ++ w.message)

/-- Settles the settings of the members of all layers and sets up logging, in a session that has
logged what there was to say about the layers. -/
def settle (around : Surroundings) (session : Session) (members : List (Text × Json)) :
    Except CommandFailure (Settings × Session) :=
  match Settings.validate .lenient around.registry around.files.currentPath (.obj members) with
  | .error e => .error (.settings e)
  | .ok (settings, warnings) =>
    match session.logging.configure session.streams (LoggingSettings.ofSettings settings.members)
        false with
    | (_, _, .error e) => .error (.setup e)
    | (logging, streams, .ok ()) =>
      .ok (settings, Session.log { session with logging, streams } around
        (warnings.map warningRecord))

/-- Settles the settings and sets up logging. -/
def prepare (around : Surroundings) (a : Arguments) : Except CommandFailure (Settings × Session) :=
  match layers around a with
  | .error e => .error (.reading e)
  | .ok (members, records) =>
    settle around (Session.log { streams := { files := around.files } } around records) members

/-- The lines that tell the user about a module. -/
def summary (r : RunResult) : List Text :=
  let fate : List Text :=
    if r.dryRun then ["Dry run: " ++ r.settings.outputPath ++ " was not written."]
    else if r.written then ["Module written to: " ++ r.settings.outputPath] else []
  let counts : List Text :=
    ["Transport: " ++ r.settings.transport, "Contracts: " ++ Text.ofNat r.contractIds.length]
  let ids : List Text := r.contractIds.map fun id => "  - " ++ id
  let references : List Text :=
    if r.references.isEmpty then []
    else ["Model references to supply: " ++ Text.join ", " r.references]
  Text.ofString "Generation completed." :: fate ++ counts ++ ids ++ references

/-- The result of a run as a JSON text. -/
def resultText (around : Surroundings) (r : RunResult) : Text :=
  let timed := if r.ok then r.summary ++ [(Text.ofString "elapsed_seconds", around.elapsed)] else []
  (Json.obj (r.membersWith timed)).indented

/-- Tells the user about the result of a run. -/
def present (around : Surroundings) (a : Arguments) (s : Session) (r : RunResult) : Session :=
  let told :=
    if a.jsonOutput then s.print (resultText around r ++ "\n")
    else if r.ok then s.print ((summary r).flatMap (· ++ "\n"))
    else s.complain ("ERROR: " ++ r.error)
  if a.printModule && r.ok then told.print r.moduleText else told

/-- The place of the module if the run has written it. -/
def writtenPlace? (files : Files) (r : RunResult) : Option Place :=
  if r.written then (files.locate r.settings.outputPath).toOption else none

/-- Runs the generation. -/
def generate (around : Surroundings) (a : Arguments) (settings : Settings) (s : Session) :
    Except CommandFailure CommandResult :=
  let s := s.log around [record .info ("Targeting contract directory: " ++ settings.inputPath)]
  if around.interrupted then .ok ⟨130, true, s.complain "Interrupted."⟩
  else
    match Generation.run around.registry s.streams.files {} settings a.dryRun around.now with
    | (_, _, .error e) => .error (.run e)
    | (files, notices, .ok r) =>
      let s := (s.withFiles files (writtenPlace? files r)).log around
        (Notice.recordsWithEvents notices)
      .ok ⟨if r.ok then 0 else 1, true, present around a s r⟩

/-- Carries out what a command line asks for. -/
def carryOut (around : Surroundings) (a : Arguments) : Except CommandFailure CommandResult := do
  let (settings, s) ← prepare around a
  if a.dumpConfig then .ok ⟨0, true, s.print ((Json.obj settings.members).indented ++ "\n")⟩
  else if !s.streams.files.hasDirectory settings.inputPath then
    let message := "Input path does not exist: " ++ settings.inputPath
    .ok ⟨2, true, (s.log around [record .error message]).complain ("ERROR: " ++ message)⟩
  else generate around a settings s

/-- The whole command. -/
def run (around : Surroundings) (words : List Text) : Except CommandFailure CommandResult :=
  let options := CommandOption.all around.registry
  let s : Session := { streams := { files := around.files } }
  match Invocation.read options words with
  | .help => .ok ⟨0, false, s.print (Usage.help options)⟩
  | .refused e =>
    .ok ⟨2, false, { s with streams := { s.streams with errors := e.report options } }⟩
  | .run a => carryOut around a

end Command

end CallBindings
