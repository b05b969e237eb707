import CallBindings.Json.Basic
import CallBindings.Logging.Record

set_option autoImplicit false

/-! # Notices of a run

While it works, a generation run gives notice of what it does: events for whoever watches its
progress, and records for the log. Events go to the watcher's sink if there is one. Without a
sink they are logged, those about a single contract as details.

Whoever reports an event gives its sink, stage and message in this order, its contract by name
and its further data by their own names, which must differ from these four.
-/

namespace CallBindings

/-- A progress event: the stage of the run, a description, the contract it is about if it is
about one, and further data. -/
structure Event where
  stage : Text
  message : Text
  contract : Option Text
  data : List (Text × Json)

/-- The names of what is given in its order when an event is reported. -/
def Event.ordered : List Text := ["sink", "stage", "message"]

/-- Why an event cannot be reported: its data have the name of what is given in its order, or
the name of the contract. -/
inductive ReportError where
  | ordered (name : Text)
  | contract

/-- The wording of the error. -/
def ReportError.message : ReportError → Text
  | .ordered name => "report() got multiple values for argument '" ++ name ++ "'"
  | .contract =>
    "contractbind.core.progress.report() got multiple values for keyword argument 'contract_id'"

/-- An event as it is reported, if the names of its data are free. -/
def Event.checked (e : Event) : Except ReportError Event :=
  if hasKey "contract_id" e.data then .error .contract
  else match e.data.find? fun d => Event.ordered.contains d.1 with
    | some d => .error (.ordered d.1)
    | none => .ok e

/-- The record by which an event without a sink is logged. -/
def Event.toRecord (e : Event) : LogRecord :=
  ⟨if (e.contract.getD []).isEmpty then .info else .debug, "contractbind.progress",
    "[" ++ e.stage ++ "] " ++ e.message⟩

/-- A progress event or a log record. -/
inductive Notice where
  | event (e : Event)
  | log (r : LogRecord)

namespace Notice

/-- The events among the notices. -/
def events (notices : List Notice) : List Event :=
  notices.filterMap fun n => match n with
    | .event e => some e
    | .log _ => none

/-- The log records among the notices, with events left out. -/
def records (notices : List Notice) : List LogRecord :=
  notices.filterMap fun n => match n with
    | .event _ => none
    | .log r => some r

/-- The log records of a run without a sink, events included. -/
def recordsWithEvents (notices : List Notice) : List LogRecord :=
  notices.map fun n => match n with
    | .event e => e.toRecord
    | .log r => r

end Notice

end CallBindings
