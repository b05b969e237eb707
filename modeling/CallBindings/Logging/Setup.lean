import CallBindings.Json.Integer
import CallBindings.Json.Writable
import CallBindings.Logging.Layout
import CallBindings.Logging.Level
import CallBindings.Logging.LogFile
import CallBindings.Logging.TimeLayout

set_option autoImplicit false

/-! # Setting up logging

All records pass the root logger, which has a threshold and a list of handlers. The host of the
library may have put handlers there. Setting up adds one more, which hands the records to a
listener; the listener writes them to the console and to a log file. Setting up again does
nothing unless it is forced; it then takes the handler away and stops the listener first.

While the root has no handler, records from the severity of a warning on go to the error
stream by their messages alone.
-/

namespace CallBindings

/-- The settings of logging, as a program hands them over: what a setting has to be shows where
it is used. -/
structure LoggingSettings where
  level : Json := .str "INFO"
  /-- Whether there is a console, by truth. -/
  console : Json := .bool true
  /-- The path of the log file; what counts as false stands for none. -/
  logFile : Json := .null
  maxBytes : Json := .int 1048576
  backupCount : Json := .int 2
  consoleLayout : Json := .str "%(levelname)s | %(message)s"
  fileLayout : Json := .str "%(asctime)s | %(levelname)s | %(name)s | %(message)s"
  timeLayout : Json := .str "%Y-%m-%d %H:%M:%S"

namespace LoggingSettings

/-- The settings of logging among the settings of a run, given as members. -/
def ofSettings (members : List (Text × Json)) : LoggingSettings :=
  let value := fun field : Text => (lookup? field members).getD .null
  { level := .str (if (value "log_level").truthy then (value "log_level").plain else "INFO")
    logFile := if (value "log_file").truthy then value "log_file" else .null }

/-- The names of the settings. -/
def fields : List Text :=
  ["level", "console", "log_file", "max_bytes", "backup_count", "console_fmt", "file_fmt",
    "datefmt"]

/-- A name under which there is no setting of logging. -/
structure UnknownName where
  name : Text

/-- The wording of the fault that there is no setting under a name. -/
def UnknownName.message (e : UnknownName) : Text :=
  "LoggingConfig.__init__() got an unexpected keyword argument '" ++ e.name ++ "'"

/-- The settings of logging given as members under their own names; those left out are the
usual ones. -/
def ofMembers (members : List (Text × Json)) : Except UnknownName LoggingSettings :=
  let usual : LoggingSettings := {}
  let value := fun (field : Text) (j : Json) => (lookup? field members).getD j
  match members.find? fun m => !fields.contains m.1 with
  | some m => .error ⟨m.1⟩
  | none => .ok
    { level := value "level" usual.level
      console := value "console" usual.console
      logFile := value "log_file" usual.logFile
      maxBytes := value "max_bytes" usual.maxBytes
      backupCount := value "backup_count" usual.backupCount
      consoleLayout := value "console_fmt" usual.consoleLayout
      fileLayout := value "file_fmt" usual.fileLayout
      timeLayout := value "datefmt" usual.timeLayout }

/-- The settings as members of an object. -/
def members (s : LoggingSettings) : List (Text × Json) :=
  [("level", s.level), ("console", s.console), ("log_file", s.logFile),
    ("max_bytes", s.maxBytes), ("backup_count", s.backupCount),
    ("console_fmt", s.consoleLayout), ("file_fmt", s.fileLayout), ("datefmt", s.timeLayout)]

/-- The threshold that the level names, if the level has a text. -/
def threshold (s : LoggingSettings) : Except IntegerError Severity :=
  s.level.toPlain.map Severity.ofName

end LoggingSettings

/-- Where a listener writes records: the console or a log file, by a layout. -/
inductive LogOutput where
  | console (layout : LogLayout)
  | file (log : LogFile) (layout : LogLayout) (timeLayout : Json)

/-- Whether an output goes to the log file at a place. -/
def LogOutput.isAt (place : Place) : LogOutput → Bool
  | .console _ => false
  | .file log _ _ => log.place = place

/-- What writes records, from a threshold on, while it runs. -/
structure Listener where
  threshold : Severity
  outputs : List LogOutput
  running : Bool

/-- A handler of the root logger: one of the host, or the one that feeds a listener. -/
inductive RootHandler where
  | host (name : Text)
  | feeding (listener : Nat)
deriving DecidableEq

/-- Whether setting up has put the handler there. -/
def RootHandler.isOurs : RootHandler → Bool
  | .host _ => false
  | .feeding _ => true

/-- The state of logging. -/
structure LoggingState where
  /-- The threshold of the root logger. -/
  threshold : Severity := .warning
  handlers : List RootHandler := []
  /-- Every listener ever started, in order. -/
  listeners : List Listener := []
  /-- The number of the listener that counts as being in use. -/
  current : Option Nat := none
  /-- Whether logging counts as set up. -/
  configured : Bool := false

/-- Why setting up fails. -/
inductive SetupError where
  | level (e : IntegerError)
  | layout (e : LayoutError)
  | layoutKind (kind : Json.Kind)
  | pathKind (kind : Json.Kind)
  | number (e : WholeError)
  | file (e : FileError)

/-- The wording of the failure. -/
def SetupError.message : SetupError → Text
  | .level e => e.message
  | .layout e => e.message
  | .layoutKind kind => "expected string or bytes-like object, got '" ++ kind.name ++ "'"
  | .pathKind kind => "expected str, bytes or os.PathLike object, not " ++ kind.name
  | .number e => e.message
  | .file e => e.message

/-- What logging writes to: files, the console, and the error stream by itself. -/
structure LogStreams where
  files : Files
  console : Text := []
  errors : Text := []

namespace LoggingState

/-- Stops the listener with number `i`. -/
def stop (s : LoggingState) (i : Nat) : LoggingState :=
  { s with listeners := s.listeners.modify i fun l => { l with running := false } }

/-- Stops the listener in use. -/
def stopCurrent (s : LoggingState) : LoggingState :=
  match s.current with
  | some i => { s.stop i with current := none }
  | none => s

/-- Takes away the handlers that setting up has put there. -/
def removeOurs (s : LoggingState) : LoggingState :=
  { s with handlers := s.handlers.filter fun h => !h.isOurs }

/-- Adds a handler of the host, unless it is there. -/
def addHost (s : LoggingState) (name : Text) : LoggingState :=
  if s.handlers.contains (.host name) then s
  else { s with handlers := s.handlers ++ [.host name] }

/-- Removes a handler of the host. -/
def removeHost (s : LoggingState) (name : Text) : LoggingState :=
  { s with handlers := s.handlers.filter (· ≠ .host name) }

/-- Starts a listener, with a handler that feeds it. -/
def start (s : LoggingState) (outputs : List LogOutput) : LoggingState :=
  { s with
    listeners := s.listeners ++ [⟨s.threshold, outputs, true⟩]
    handlers := s.handlers ++ [.feeding s.listeners.length]
    current := some s.listeners.length
    configured := true }

/-- The layout that a setting denotes; what counts as false is an empty layout. -/
def readLayout (j : Json) : Except SetupError LogLayout :=
  let read := fun t : Text => match Layout.read t with
    | .ok layout => .ok layout
    | .error e => .error (SetupError.layout e)
  if !j.truthy then read []
  else match j with
    | .str t => read t
    | j => .error (.layoutKind j.kind)

/-- The output to the console that settings ask for. -/
def consoleOutput (c : LoggingSettings) : Except SetupError (List LogOutput) :=
  if c.console.truthy then (readLayout c.consoleLayout).map fun layout => [.console layout]
  else .ok []

/-- The number that a setting denotes. -/
def readNumber (j : Json) : Except SetupError Int :=
  match j.whole with
  | .ok n => .ok n
  | .error e => .error (.number e)

/-- Opens the log file at a path in a directory that is there. -/
def openFile (c : LoggingSettings) (files : Files) (p : Text) :
    Except SetupError (Files × LogFile) := do
  let maxBytes ← readNumber c.maxBytes
  let backupCount ← readNumber c.backupCount
  match LogFile.openAt files p maxBytes backupCount with
  | .ok opened => .ok opened
  | .error e => .error (.file e)

/-- Opens the log file at a path, whose directory is made if it is missing. -/
def openLog (c : LoggingSettings) (files : Files) (p : Text) :
    Files × Except SetupError LogFile :=
  match files.makeDirectories (files.parentOf p) with
  | (files, .error e) => (files, .error (.file e))
  | (files, .ok ()) =>
    match openFile c files p with
    | .error e => (files, .error e)
    | .ok (files, log) => (files, .ok log)

/-- The warning about a log file that cannot be opened. -/
def unusableText (p : Text) (e : FileError) : Text :=
  "WARNING: cannot open log file '" ++ p ++ "': " ++ e.message ++ "\n"

/-- The output to the log file at a path. What the system refuses is only warned of. -/
def fileOutputAt (c : LoggingSettings) (io : LogStreams) (layout : LogLayout) (p : Text) :
    LogStreams × Except SetupError (List LogOutput) :=
  match openLog c io.files p with
  | (files, .ok log) => ({ io with files := files }, .ok [.file log layout c.timeLayout])
  | (files, .error (.file e)) =>
    if e.isSystem then
      ({ io with files := files, errors := io.errors ++ unusableText p e }, .ok [])
    else ({ io with files := files }, .error (.file e))
  | (files, .error e) => ({ io with files := files }, .error e)

/-- The output to a log file that settings ask for. -/
def fileOutput (c : LoggingSettings) (io : LogStreams) :
    LogStreams × Except SetupError (List LogOutput) :=
  if !c.logFile.truthy then (io, .ok [])
  else match readLayout c.fileLayout with
    | .error e => (io, .error e)
    | .ok layout =>
      match c.logFile with
      | .str p => fileOutputAt c io layout p
      | j => (io, .error (.pathKind j.kind))

/-- Starts a listener for outputs, if there are any. -/
def install (s : LoggingState) (outputs : List LogOutput) : LoggingState :=
  if outputs.isEmpty then s else s.start outputs

/-- Sets up logging. -/
def configure (s : LoggingState) (io : LogStreams) (c : LoggingSettings) (force : Bool) :
    LoggingState × LogStreams × Except SetupError Unit :=
  if s.configured && !force then (s, io, .ok ())
  else match c.threshold with
    | .error e => (s, io, .error (.level e))
    | .ok threshold =>
      let cleared := ({ s with threshold := threshold }).removeOurs.stopCurrent
      match consoleOutput c with
      | .error e => (cleared, io, .error e)
      | .ok console =>
        match fileOutput c io with
        | (io, .error e) => (cleared, io, .error e)
        | (io, .ok file) => (cleared.install (console ++ file), io, .ok ())

/-- Cuts off the log file at a place, for when another file has taken its place: what is logged
from then on is in neither. -/
def detach (s : LoggingState) (place : Place) : LoggingState :=
  { s with listeners := s.listeners.map fun l =>
      { l with outputs := l.outputs.filter fun output => !output.isAt place } }

/-- Whether a record of a severity is looked at. -/
def isEnabled (s : LoggingState) (severity : Severity) : Bool := severity.reaches s.threshold

/-- The time of a record by a setting; what counts as false is an empty layout. -/
def timeText? (now : Timestamp) (layout : Json) : Option Text :=
  if !layout.truthy then TimeLayout.timeText? now []
  else match layout with
    | .str t => TimeLayout.timeText? now t
    | _ => none

/-- The line of a record, if it can be written. -/
def line? (now : Timestamp) (r : LogRecord) (layout : LogLayout) (timeLayout : Json) :
    Option Text :=
  (Layout.render? r (timeText? now timeLayout) layout).map (· ++ "\n")

/-- Writes a record to an output. -/
def writeTo (now : Timestamp) (r : LogRecord) (io : LogStreams) : LogOutput → LogStreams
  | .console layout =>
    match line? now r layout .null with
    | some line => { io with console := io.console ++ line }
    | none => io
  | .file log layout timeLayout =>
    match line? now r layout timeLayout with
    | some line => { io with files := { io.files with root := log.append line io.files.root } }
    | none => io

/-- Hands a record to a handler. -/
def handle (s : LoggingState) (now : Timestamp) (r : LogRecord) (io : LogStreams) :
    RootHandler → LogStreams
  | .host _ => io
  | .feeding i =>
    match s.listeners[i]? with
    | some l =>
      if l.running && r.severity.reaches l.threshold then
        l.outputs.foldl (writeTo now r) io
      else io
    | none => io

/-- Logs a record. -/
def emit (s : LoggingState) (now : Timestamp) (r : LogRecord) (io : LogStreams) : LogStreams :=
  if !s.isEnabled r.severity then io
  else if s.handlers.isEmpty then
    if r.severity.reaches .warning then { io with errors := io.errors ++ r.message ++ "\n" }
    else io
  else s.handlers.foldl (s.handle now r) io

/-- Logs records one after another. -/
def emitAll (s : LoggingState) (now : Timestamp) (rs : List LogRecord) (io : LogStreams) :
    LogStreams :=
  rs.foldl (fun io r => s.emit now r io) io

end LoggingState

end CallBindings
