import CallBindings.Files.Search
import CallBindings.Transport.Registry

set_option autoImplicit false

/-! # Settings

A generation run is governed by seven settings. They are stored and exchanged as the members
of an object, in a fixed order; further members pass through unused and stand after the
seven.
-/

namespace CallBindings

/-- The settings of a generation run. -/
structure Settings where
  inputPath : Text
  outputPath : Text
  pattern : Text
  transport : Text
  maxWorkers : Int
  logLevel : Text
  logFile : Text
  extra : List (Text × Json)

namespace Settings

/-- The names of the seven settings. -/
def fields : List Text :=
  ["input_path", "output_path", "pattern", "transport", "max_workers", "log_level",
    "log_file"].map Text.ofString

/-- The name of the module that is written where no other is given. -/
def defaultOutput : Text := "api_bindings.py"

/-- The settings in force where nothing else is said, for a current directory. -/
def defaults (current : Text) : Settings where
  inputPath := current
  outputPath := Path.join current defaultOutput
  pattern := defaultPattern
  transport := defaultTransport
  maxWorkers := 1
  logLevel := "INFO"
  logFile := []
  extra := []

/-- The settings as members of an object. -/
def members (s : Settings) : List (Text × Json) :=
  ([("input_path", .str s.inputPath), ("output_path", .str s.outputPath),
    ("pattern", .str s.pattern), ("transport", .str s.transport),
    ("max_workers", .int s.maxWorkers), ("log_level", .str s.logLevel),
    ("log_file", .str s.logFile)] : List (Text × Json)) ++ s.extra

end Settings

end CallBindings
