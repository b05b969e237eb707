import CallBindings.Files.JsonFile
import CallBindings.Module.Render
import CallBindings.Settings.Basic

set_option autoImplicit false

/-! # Results of a run

A run ends with a module or with a failure that says why there is none. The result is shown as
the members of an object; a failed run shows neither a module nor that it was a dry run. A run
that breaks off has no result.
-/

namespace CallBindings

/-- Why a run ends without a module, or without having written it. -/
inductive RunFailure where
  | noFiles (inputPath pattern : Text)
  | aborted (e : GenerationError)
  | unreadable (message : Text)
  | unwritable (outputPath : Text) (e : FileError)

namespace RunFailure

/-- The wording of a failure in the result. -/
def message : RunFailure → Text
  | .noFiles inputPath pattern =>
    "No contract files matching '" ++ pattern ++ "' under " ++ inputPath
  | .aborted e => e.message
  | .unreadable message => "Failed to read contracts: " ++ message
  | .unwritable _ e => "Failed to write output: " ++ e.message

/-- The wording of a failure in the log. -/
def logged : RunFailure → Text
  | .noFiles inputPath pattern => (noFiles inputPath pattern).message
  | .aborted e => "Generation aborted: " ++ e.message
  | .unreadable message => (unreadable message).message
  | .unwritable outputPath e => "Failed to write " ++ outputPath ++ ": " ++ e.message

end RunFailure

/-- Why a run breaks off without a result. -/
inductive Breakdown where
  /-- What is given as a path or as content is none. -/
  | file (e : FileError)
  /-- The reading of a contract file is given up. -/
  | reading (e : JsonFileError)

/-- The wording of a breakdown. -/
def Breakdown.message : Breakdown → Text
  | .file e => e.message
  | .reading e => e.message

/-- Why a run comes to an end before it has done everything. -/
inductive RunStop where
  | failed (failure : RunFailure)
  | broken (breakdown : Breakdown)

/-- The module of a run with its text. -/
structure Product where
  content : GeneratedModule
  text : Text

/-- The result of a run. -/
structure RunResult where
  settings : Settings
  /-- The contract files found. -/
  files : List Text
  dryRun : Bool
  outcome : Except RunFailure Product

namespace RunResult

/-- Whether the run ended with a module. -/
def ok (r : RunResult) : Bool :=
  match r.outcome with
  | .ok _ => true
  | .error _ => false

/-- The wording of the failure, empty if there is none. -/
def error (r : RunResult) : Text :=
  match r.outcome with
  | .ok _ => []
  | .error e => e.message

/-- The ids of the contracts in the module. -/
def contractIds (r : RunResult) : List Text :=
  match r.outcome with
  | .ok p => p.content.contracts.map (·.id)
  | .error _ => []

/-- The reference ids for which the user of the module supplies types. -/
def references (r : RunResult) : List Text :=
  match r.outcome with
  | .ok p => p.content.references
  | .error _ => []

/-- The text of the module, empty after a failure. -/
def moduleText (r : RunResult) : Text :=
  match r.outcome with
  | .ok p => p.text
  | .error _ => []

/-- Whether the module has been written. -/
def written (r : RunResult) : Bool := r.ok && !r.dryRun

/-- The numbers of contracts, references and lines. -/
def summary (r : RunResult) : List (Text × Json) :=
  match r.outcome with
  | .ok p =>
    ([("contracts", .int p.content.contracts.length),
      ("references", .int p.content.references.length),
      ("lines", .int (Text.countOf '\n' p.text))] : List (Text × Json))
  | .error _ => []

/-- The result as members of an object, with the summary given. -/
def membersWith (r : RunResult) (summary : List (Text × Json)) : List (Text × Json) :=
  let texts := fun ts : List Text => Json.arr (ts.map .str)
  ([("ok", .bool r.ok), ("error", .str r.error), ("input_path", .str r.settings.inputPath),
    ("output_path", .str r.settings.outputPath), ("transport", .str r.settings.transport),
    ("contract_files", texts r.files), ("contract_ids", texts r.contractIds),
    ("references", texts r.references), ("module_text", .str r.moduleText),
    ("written", .bool r.written), ("dry_run", .bool (r.ok && r.dryRun)),
    ("summary", .obj summary)] : List (Text × Json))

end RunResult

end CallBindings
