import CallBindings.Dispatch.Binding
import CallBindings.Module.Literal
import CallBindings.Module.Nesting
import CallBindings.Module.Render

set_option autoImplicit false

/-! # Running a generated module

A generated module is known to those who use it only by its text. Running it reads the names
of its type parameters, the name of its transport and the entries of its factory from that
text, and then builds the bindings of the entries in order.

Before anything runs, the module as a whole must be readable: brackets are nested only up to a
limit, and one name can be given to nothing. Readers of the module take identifiers by their
composed form, and a class cannot have the same type parameter twice.
-/

namespace CallBindings.GeneratedModule

/-- One entry of the factory: the key of the binding and the arguments it is built from. -/
structure Entry where
  key : Text
  url : Text
  method : Text
deriving DecidableEq

/-- Why running a module fails. Lines are counted from one. -/
inductive RunError where
  | unreadable
  | tooNested (line : Nat)
  | unassignable (line : Nat)
  | repeatedParameter
  | bind (e : BindError)

/-- The wording of an error. -/
def RunError.message : RunError → Text
  | .unreadable => "invalid syntax"
  | .tooNested _ => "too many nested parentheses"
  | .unassignable _ => "cannot assign to __debug__"
  | .repeatedParameter => "Parameters to Generic[...] must all be unique"
  | .bind e => e.message

/-- The text after a literal that stands at the beginning of `t` behind `before`. -/
def literalAfter? (before t : Text) : Option (Text × Text) :=
  match t.dropStart? before with
  | some rest => Literal.read? rest
  | none => none

/-- The entry written in a line of the factory. -/
def readEntry? (line : Text) : Option Entry := do
  let (key, rest) ← literalAfter? (indent ++ indent) line
  let (url, rest) ← literalAfter? ": bind(" rest
  let (method, rest) ← literalAfter? ", " rest
  if rest = ", options, transport=TRANSPORT)," then some ⟨key, url, method⟩ else none

/-- The entries written in lines. -/
def readEntries? : List Text → Option (List Entry)
  | [] => some []
  | line :: rest => do
    let e ← readEntry? line
    let es ← readEntries? rest
    some (e :: es)

/-- The entries of the factory of a module, given by its lines. -/
def entries? (lines : List Text) : Option (List Entry) :=
  readEntries?
    (((lines.dropWhile (· ≠ indent ++ "return \x7b")).drop 1).takeWhile (· ≠ indent ++ "\x7d"))

/-- The name of the transport in the line that holds it. -/
def transport? (lines : List Text) : Option Text :=
  lines.findSome? fun line => (literalAfter? "TRANSPORT = " line).map (·.1)

/-- The type parameter declared in a line. -/
def parameter? (line : Text) : Option Text :=
  let name := line.takeWhile (· ≠ CodePoint.ofChar ' ')
  match Text.dropStart? line (name ++ " = TypeVar(\"") with
  | some _ => some name
  | none => none

/-- The type parameters of a module as its readers take them. -/
def parameters (lines : List Text) : List Text := (lines.filterMap parameter?).map Text.normalize

/-- How deeply brackets can be nested in a module. -/
def nestingLimit : Nat := 200

/-- The name that can be given to nothing. -/
def unassignableName : Text := "__debug__"

/-- The name of the contract whose types a line of the first record class declares. -/
def declared? (line : Text) : Option Text := do
  let rest ← line.dropStart? indent
  let name := rest.takeWhile (· ≠ CodePoint.ofChar ':')
  let _ ← rest.dropStart? (name ++ ": ContractTypes[")
  some name

/-- Why a module cannot be read as a whole, if it cannot. -/
def unreadable? (lines : List Text) : Option RunError :=
  match lines.findIdx? fun line => nestingLimit < Nesting.ofLine line with
  | some i => some (.tooNested (i + 1))
  | none =>
    match lines.findIdx? fun line =>
        (declared? line).any fun name => name.normalize = unassignableName with
    | some i => some (.unassignable (i + 1))
    | none => none

/-- The bindings of entries, up to the first that cannot be built. -/
def bindEntries (registry : Registry) (transport : Text) (options : DispatchOptions) :
    List Entry → Except BindError (List (Text × Binding))
  | [] => .ok []
  | e :: rest => do
    let b ← Binding.bind registry e.url e.method options transport
    let bs ← bindEntries registry transport options rest
    .ok ((e.key, b) :: bs)

/-- Calls the factory of a module, given by its lines. -/
def callFactory (registry : Registry) (options : DispatchOptions) (lines : List Text) :
    Except RunError (List (Text × Binding)) :=
  match entries? lines, transport? lines with
  | some entries, some transport =>
    match bindEntries registry transport options entries with
    | .ok bs => .ok bs
    | .error e => .error (.bind e)
  | _, _ => .error .unreadable

/-- Runs the text of a module and calls its factory. -/
def run (registry : Registry) (options : DispatchOptions) (text : Text) :
    Except RunError (List (Text × Binding)) :=
  let lines := text.splitAt '\n'
  match unreadable? lines with
  | some e => .error e
  | none =>
    if distinct (parameters lines) ≠ parameters lines then .error .repeatedParameter
    else callFactory registry options lines

end CallBindings.GeneratedModule
