import CallBindings.Logging.Record
import CallBindings.Unicode.Blank
import CallBindings.Unicode.Case

set_option autoImplicit false

/-! # Levels by name

A level is named by a word in any case, with white space around it allowed. What names no level
means the level of ordinary information.
-/

namespace CallBindings.Severity

/-- The severities by name. -/
def byName : List (Text × Severity) :=
  [("DEBUG", .debug), ("INFO", .info), ("WARNING", .warning), ("WARN", .warning),
    ("ERROR", .error), ("CRITICAL", .critical)]

/-- The severity that a text names. -/
def ofName (t : Text) : Severity :=
  match byName.find? fun e => e.1 = t.trim.upper with
  | some e => e.2
  | none => .info

/-- Whether a record of severity `s` passes a threshold. -/
def reaches (s threshold : Severity) : Bool := threshold.number ≤ s.number

end CallBindings.Severity
