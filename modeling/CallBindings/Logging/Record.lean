import CallBindings.Text.Basic

set_option autoImplicit false

/-! # Log records

A record has a severity, the name of the logger it was sent to, and a message. Severities are
ordered by their numbers.
-/

namespace CallBindings

/-- The severities of log records. -/
inductive Severity where
  | debug | info | warning | error | critical
deriving DecidableEq

/-- The number by which severities are compared. -/
def Severity.number : Severity → Nat
  | .debug => 10
  | .info => 20
  | .warning => 30
  | .error => 40
  | .critical => 50

/-- The name of a severity in log lines. -/
def Severity.name : Severity → Text
  | .debug => "DEBUG"
  | .info => "INFO"
  | .warning => "WARNING"
  | .error => "ERROR"
  | .critical => "CRITICAL"

/-- A message sent to a logger. -/
structure LogRecord where
  severity : Severity
  logger : Text
  message : Text
deriving DecidableEq

end CallBindings
