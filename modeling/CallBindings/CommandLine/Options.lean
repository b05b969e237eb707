import CallBindings.Transport.Registry

set_option autoImplicit false

/-! # Options of the command line

Each option has one or two names, a line of help and an effect: it switches something on,
records a text or a number, or asks for help. What the options of a command line record is
gathered in `Arguments`.

A value written as `--` in the word of its option is the mark that ends the options and no
value. The option then counts as given with no values, which is the empty list and neither a
text nor a number.
-/

namespace CallBindings

/-- What a command line says about one thing: nothing, a value, or that there are no values. -/
inductive Given (α : Type) where
  | absent
  | value (a : α)
  | noValues

/-- What is given as a member: null, the value, or the empty list. -/
def Given.json {α : Type} (ofValue : α → Json) : Given α → Json
  | .absent => .null
  | .value a => ofValue a
  | .noValues => .arr []

/-- The value, if there is one. -/
def Given.value? {α : Type} : Given α → Option α
  | .value a => some a
  | _ => none

/-- What a command line asks for. -/
structure Arguments where
  inputPath : Given Text := .absent
  outputPath : Given Text := .absent
  pattern : Given Text := .absent
  configPath : Given Text := .absent
  transport : Given Text := .absent
  maxWorkers : Given Int := .absent
  dryRun : Bool := false
  useDefaults : Bool := false
  dumpConfig : Bool := false
  debug : Bool := false
  logFile : Given Text := .absent
  jsonOutput : Bool := false
  printModule : Bool := false

/-- What an option does with the arguments read so far; texts and numbers are shown in help by
a placeholder. -/
inductive OptionEffect where
  | help
  | switch (set : Arguments → Arguments)
  | text (placeholder : Text) (set : Given Text → Arguments → Arguments)
  | number (placeholder : Text) (set : Given Int → Arguments → Arguments)

namespace OptionEffect

/-- The placeholder of an option that takes a value. -/
def placeholder? : OptionEffect → Option Text
  | .help => none
  | .switch _ => none
  | .text placeholder _ => some placeholder
  | .number placeholder _ => some placeholder

/-- Whether an option takes a value. -/
def takesValue (e : OptionEffect) : Bool := e.placeholder?.isSome

end OptionEffect

/-- An option of the command line. -/
structure CommandOption where
  names : List Text
  effect : OptionEffect
  help : Text

namespace CommandOption

/-- The options, in the order of the help. -/
def all (registry : Registry) : List CommandOption :=
  [⟨["-h", "--help"], .help, "show this help message and exit"⟩,
    ⟨["-i", "--input"], .text "INPUT_PATH" fun t a => { a with inputPath := t },
      "Directory searched for contract descriptor files."⟩,
    ⟨["-o", "--output"], .text "OUTPUT_PATH" fun t a => { a with outputPath := t },
      "Path of the generated Python module."⟩,
    ⟨["--pattern"], .text "PATTERN" fun t a => { a with pattern := t },
      "Recursive glob selecting contract files (default: **/*.contract.json)."⟩,
    ⟨["--config"], .text "CONFIG_PATH" fun t a => { a with configPath := t },
      "JSON configuration file (default: ./contractbind.json)."⟩,
    ⟨["--transport"], .text "TRANSPORT" fun t a => { a with transport := t },
      "Runtime transport linked by the module (" ++ Text.join ", " registry.names ++ ")."⟩,
    ⟨["--workers"], .number "MAX_WORKERS" fun n a => { a with maxWorkers := n },
      "Compile contracts on a thread pool of this size."⟩,
    ⟨["--dry-run"], .switch fun a => { a with dryRun := true },
      "Compile and report without writing the module."⟩,
    ⟨["--use-defaults"], .switch fun a => { a with useDefaults := true },
      "Ignore the configuration file."⟩,
    ⟨["--dump-config"], .switch fun a => { a with dumpConfig := true },
      "Print the effective configuration and exit."⟩,
    ⟨["--debug"], .switch fun a => { a with debug := true },
      "Elevate logging verbosity to DEBUG."⟩,
    ⟨["--log-file"], .text "LOG_FILE" fun t a => { a with logFile := t },
      "Also write logs to this rotating file."⟩,
    ⟨["--json"], .switch fun a => { a with jsonOutput := true },
      "Print the result as JSON."⟩,
    ⟨["--print"], .switch fun a => { a with printModule := true },
      "Print the generated module to stdout."⟩]

/-- The names of options, each with its option, in the order of the help. -/
def byName (options : List CommandOption) : List (Text × CommandOption) :=
  options.flatMap fun o => o.names.map fun name => (name, o)

/-- How an option is called in messages: by all its names. -/
def called (o : CommandOption) : Text := Text.join "/" o.names

end CommandOption

namespace Arguments

/-- The members that a command line sets, null where it says nothing. -/
def overrides (a : Arguments) : List (Text × Json) :=
  ([("input_path", a.inputPath.json .str), ("output_path", a.outputPath.json .str),
    ("pattern", a.pattern.json .str), ("transport", a.transport.json .str),
    ("max_workers", a.maxWorkers.json .int), ("log_file", a.logFile.json .str)] :
      List (Text × Json)) ++
    (if a.debug then [(Text.ofString "log_level", Json.str "DEBUG")] else [])

/-- All that a command line says, by name in alphabetical order. -/
def members (a : Arguments) : List (Text × Json) :=
  [("config_path", a.configPath.json .str), ("debug", .bool a.debug),
    ("dry_run", .bool a.dryRun), ("dump_config", .bool a.dumpConfig),
    ("input_path", a.inputPath.json .str), ("json_output", .bool a.jsonOutput),
    ("log_file", a.logFile.json .str), ("max_workers", a.maxWorkers.json .int),
    ("output_path", a.outputPath.json .str), ("pattern", a.pattern.json .str),
    ("print_module", .bool a.printModule), ("transport", a.transport.json .str),
    ("use_defaults", .bool a.useDefaults)]

end Arguments

end CallBindings
