import CallBindings.Contract.Descriptor
import CallBindings.Files.AtomicWrite
import CallBindings.Generation.Result

set_option autoImplicit false

/-! # Generation runs

A run searches for contract files, loads all of them, compiles and assembles their contracts,
and writes the module unless it is a dry run. Each step gives notice when it has succeeded, and
nothing is written before all contracts have compiled. A failure ends the run with a result
that names it. Only values that are no paths at all, and files whose reading is given up, make a
run break off without a result.
-/

namespace CallBindings.Generation

/-- A record of a run. -/
def record (severity : Severity) (message : Text) : LogRecord :=
  ⟨severity, "contractbind.core.pipeline", message⟩

/-- The event reporting how many contract files are found. -/
def discoveredEvent (inputPath : Text) (found : Nat) : Event :=
  ⟨"discover", "Found " ++ Text.ofNat found ++ " contract file(s) in " ++ inputPath, none,
    [("files", .int found)]⟩

/-- The event reporting that a contract has been loaded from a file. -/
def loadedEvent (id path : Text) : Event :=
  ⟨"load", "Loaded '" ++ id ++ "' from " ++ path, some id, []⟩

/-- The event reporting that the module has been written. -/
def writtenEvent (outputPath : Text) : Event := ⟨"write", "Wrote " ++ outputPath, none, []⟩

/-- The value in the file at a path. -/
def readDescriptor (fs : Files) (p : Text) : Except RunStop Json :=
  match fs.readJson p with
  | .error e =>
    .error (if e.isGivenUp then .broken (.reading e) else .failed (.unreadable e.message))
  | .ok j => .ok j

/-- The contract in the file at a path. -/
def loadContract (fs : Files) (p : Text) : Except RunStop Contract := do
  let j ← readDescriptor fs p
  match Contract.ofJson (some p) j with
  | .error e => .error (.failed (.aborted e))
  | .ok c => .ok c

/-- The contracts in files, up to the first that cannot be loaded. -/
def loadContracts (fs : Files) : List Text → List Event × Except RunStop (List Contract)
  | [] => ([], .ok [])
  | p :: rest =>
    match loadContract fs p with
    | .error e => ([], .error e)
    | .ok c =>
      let (events, cs) := loadContracts fs rest
      (loadedEvent c.id p :: events, cs.map (c :: ·))

/-- The module of the contracts in files. -/
def build (registry : Registry) (fs : Files) (settings : Settings) (generatedAt : Timestamp)
    (files : List Text) : List Notice × Except RunStop Product :=
  if files.isEmpty then ([], .error (.failed (.noFiles settings.inputPath settings.pattern)))
  else
    match loadContracts fs files with
    | (events, .error e) => (events.map .event, .error e)
    | (events, .ok contracts) =>
      match GeneratedModule.generate registry settings.transport settings.maxWorkers generatedAt
          contracts with
      | (notices, .error e) => (events.map .event ++ notices, .error (.failed (.aborted e)))
      | (notices, .ok m) => (events.map .event ++ notices, .ok ⟨m, m.render⟩)

/-- Writes the module, or leaves it at that in a dry run. -/
def deliver (fs : Files) (failures : DeviceFailures) (settings : Settings) (dryRun : Bool)
    (product : Product) : Files × List Notice × Except RunStop Product :=
  if dryRun then
    (fs, [.log (record .info "Dry run enabled: skipping module write.")], .ok product)
  else
    match AtomicWrite.write fs failures settings.outputPath product.text with
    | (fs', .ok ()) => (fs', [.event (writtenEvent settings.outputPath)], .ok product)
    | (fs', .error e) =>
      (fs', [], .error (if e.isSystem then .failed (.unwritable settings.outputPath e)
        else .broken (.file e)))

/-- Delivers what has been built, if anything has. -/
def deliverBuilt (fs : Files) (failures : DeviceFailures) (settings : Settings) (dryRun : Bool)
    (built : Except RunStop Product) : Files × List Notice × Except RunStop Product :=
  match built with
  | .error e => (fs, [], .error e)
  | .ok product => deliver fs failures settings dryRun product

/-- The last record of a run. -/
def closingRecord (outcome : Except RunFailure Product) : LogRecord :=
  match outcome with
  | .error e => record .error e.logged
  | .ok p =>
    record .info ("Generated " ++ Text.ofNat p.content.contracts.length ++
      " binding(s) for transport '" ++ p.content.transport ++ "'.")

/-- The outcome of a run that has not broken off. -/
def conclude : Except RunStop Product → Except Breakdown (Except RunFailure Product)
  | .ok product => .ok (.ok product)
  | .error (.failed failure) => .ok (.error failure)
  | .error (.broken breakdown) => .error breakdown

/-- A whole run: the files afterwards, the notices, and the result. -/
def run (registry : Registry) (fs : Files) (failures : DeviceFailures) (settings : Settings)
    (dryRun : Bool) (generatedAt : Timestamp) :
    Files × List Notice × Except Breakdown RunResult :=
  match Search.find fs settings.inputPath settings.pattern with
  | .error e => (fs, [], .error (.file e))
  | .ok files =>
    let found := [Notice.log (Search.record fs settings.inputPath settings.pattern files),
      Notice.event (discoveredEvent settings.inputPath files.length)]
    let (building, built) := build registry fs settings generatedAt files
    let (fs', delivering, ended) := deliverBuilt fs failures settings dryRun built
    let notices := found ++ building ++ delivering
    match conclude ended with
    | .error breakdown => (fs', notices, .error breakdown)
    | .ok outcome =>
      (fs', notices ++ [.log (closingRecord outcome)], .ok ⟨settings, files, dryRun, outcome⟩)

end CallBindings.Generation
