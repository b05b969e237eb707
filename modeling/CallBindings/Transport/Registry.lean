import CallBindings.GenerationError
import CallBindings.Json.Basic

set_option autoImplicit false

/-! # The registry of transports

Transports are registered under names, in an order that shows wherever the names are listed.
An entry holds a factory; an entry without one reserves a name that cannot be used. Registering
a name again replaces its factory in place. Whether a factory builds a transport turns out when
it is called: it may raise an exception of any kind, also that of an unknown name.
-/

namespace CallBindings

/-- Why a transport cannot be built: no name stands for one, or a factory raises another
exception with a message. -/
inductive FactoryError where
  | unknownTransport (name : Text)
  | failed (message : Text)
deriving DecidableEq

/-- The wording of an error. -/
def FactoryError.message : FactoryError → Text
  | .unknownTransport name => (GenerationError.unknownTransport name).message
  | .failed message => message

/-- What builds the transports registered under a name. -/
structure Factory where
  /-- What a call comes to: a transport, given by the name it shows, or an exception. -/
  call : Except FactoryError Text

/-- A factory whose transports show the name `label`. -/
def Factory.of (label : Text) : Factory := ⟨.ok label⟩

/-- Transport factories by name, in the order of registration. -/
abbrev Registry := List (Text × Option Factory)

/-- The transport used where none is named. -/
def defaultTransport : Text := "httpx"

namespace Registry

/-- The registry at the start: the two built-in transports. -/
def builtin : Registry := [("httpx", some (.of "httpx")), ("requests", some (.of "requests"))]

/-- Registers a factory, or reserves the name. -/
def register (r : Registry) (name : Text) (factory : Option Factory) : Registry :=
  assign name factory r

/-- Removes a name; an absent one is left alone. -/
def unregister (r : Registry) (name : Text) : Registry := r.filter fun e => e.1 ≠ name

/-- The registered names in order. -/
def names (r : Registry) : List Text := r.map (·.1)

/-- Whether a name is registered. -/
def lists (r : Registry) (name : Text) : Bool := r.names.contains name

/-- The factory that builds transports for `name`. -/
def factory? (r : Registry) (name : Text) : Option Factory := (lookup? name r).join

/-- Builds a transport: the name it shows. -/
def build (r : Registry) (name : Text) : Except FactoryError Text :=
  match r.factory? name with
  | some f => f.call
  | none => .error (.unknownTransport name)

end Registry

end CallBindings
