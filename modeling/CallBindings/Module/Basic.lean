import CallBindings.Contract.Compiled
import CallBindings.Module.Timestamp
import CallBindings.Transport.Registry

set_option autoImplicit false

/-! # Generated modules

A module gathers the compiled contracts of a batch. It has one type parameter for each
reference id of the batch, in the order of first occurrence, and is linked with one of the
registered transports.
-/

namespace CallBindings

/-- A module ready to be written. -/
structure GeneratedModule where
  contracts : List Compiled
  references : List Text
  transport : Text
  generatedAt : Timestamp
  typeParameters : List Text

namespace GeneratedModule

/-- The event reporting that a module is assembled. -/
def assembledEvent (m : GeneratedModule) : Event :=
  ⟨"assemble", "Assembled " ++ Text.ofNat m.contracts.length ++ " contract(s) with " ++
    Text.ofNat m.references.length ++ " model reference(s)", none, []⟩

/-- Assembles compiled contracts for a registered transport. -/
def assemble (registry : Registry) (transport : Text) (generatedAt : Timestamp)
    (compiled : List Compiled) : Except GenerationError GeneratedModule :=
  if registry.lists transport then
    let references := distinct (compiled.flatMap (·.references))
    .ok ⟨compiled, references, transport, generatedAt, references.map Text.typeName⟩
  else .error (.unknownTransport transport)

/-- Compiles and assembles a batch of contracts. -/
def generate (registry : Registry) (transport : Text) (workers : Int) (generatedAt : Timestamp)
    (contracts : List Contract) : List Notice × Except GenerationError GeneratedModule :=
  match Compiled.batch workers contracts with
  | (notices, .error e) => (notices, .error e)
  | (notices, .ok compiled) =>
    match assemble registry transport generatedAt compiled with
    | .error e => (notices, .error e)
    | .ok m => (notices ++ [.event m.assembledEvent], .ok m)

end GeneratedModule

end CallBindings
