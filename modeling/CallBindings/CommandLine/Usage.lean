import CallBindings.CommandLine.Options

set_option autoImplicit false

/-! # Usage and help

The usage names all options, the help adds a line for each. Both are laid out for a terminal of
80 columns, of which 78 are used: the usage in one paragraph after the name of the program, the
help in two columns, where a call that does not fit its column stands on a line of its own.
-/

namespace CallBindings.Usage

/-- The name of the program. -/
def program : Text := "contractbind"

/-- What the program does. -/
def description : Text := "Generate typed Python call bindings from HTTP contract descriptors."

/-- The columns used. -/
def columns : Nat := 78

/-- The column in which help begins. -/
def helpColumn : Nat := 24

/-- `n` blanks. -/
def blanks (n : Nat) : Text := List.replicate n (CodePoint.ofChar ' ')

/-- Parts one after another in lines of at most `width` columns, blanks between them; a part
that is longer has a line of its own. `line` holds the parts of the current line. -/
def fill (width : Nat) (line : List Text) : List Text → List Text
  | [] => if line.isEmpty then [] else [Text.join " " line]
  | part :: rest =>
    if !line.isEmpty && width < (Text.join " " line).length + 1 + part.length then
      Text.join " " line :: fill width [part] rest
    else fill width (line ++ [part]) rest

/-- How an option is written in the usage. -/
def usagePart (o : CommandOption) : Text :=
  "[" ++ o.names.headD [] ++
    (match o.effect.placeholder? with
     | some p => " " ++ p
     | none => []) ++ "]"

/-- The usage. -/
def usage (options : List CommandOption) : Text :=
  let start : Text := "usage: " ++ program ++ " "
  let lines := fill (columns - start.length) [] (options.map usagePart)
  start ++ Text.join ("\n" ++ blanks start.length) lines ++ "\n"

/-- How an option is called, in the first column of the help. -/
def call (o : CommandOption) : Text :=
  Text.join ", " (o.names.map fun name =>
    match o.effect.placeholder? with
    | some p => name ++ " " ++ p
    | none => name)

/-- The lines of help for an option. -/
def helpLines (o : CommandOption) : List Text :=
  let lines := fill (columns - helpColumn) [] (Text.splitAt ' ' o.help)
  let first := "  " ++ call o
  if first.length + 2 ≤ helpColumn then
    match lines with
    | [] => [first]
    | line :: rest =>
      (first ++ blanks (helpColumn - first.length) ++ line) :: rest.map (blanks helpColumn ++ ·)
  else first :: lines.map (blanks helpColumn ++ ·)

/-- The whole help. -/
def help (options : List CommandOption) : Text :=
  usage options ++ "\n" ++ description ++ "\n\noptions:\n" ++
    (options.flatMap helpLines).flatMap (· ++ "\n")

end CallBindings.Usage
