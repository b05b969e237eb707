import CallBindings.Contract.Basic
import CallBindings.Generation.Notice
import CallBindings.Shape.References
import CallBindings.Shape.TypeText

set_option autoImplicit false

/-! # Compiled contracts

A contract compiles to the type expressions of its request, success and failures, the
reference ids it depends on, and the expression that binds it in the generated module.
Contracts compile independently of each other; only after all of them have compiled are
their ids compared.

A batch may be compiled by several workers. Each contract then reports when it is finished,
so the events come in the order in which the workers finish, while results and errors are
those of the order of the batch.
-/

namespace CallBindings

/-- What a contract compiles to. -/
structure Compiled where
  id : Text
  request : Text
  success : Text
  exceptions : Text
  binding : Text
  references : List Text

/-- The expression that binds a URL and a method in the generated module. -/
def bindingText (url method : Text) : Text :=
  "bind(" ++ url.quote ++ ", " ++ method.quote ++ ", options, transport=TRANSPORT)"

/-- Compiles one contract. -/
def Contract.compile (c : Contract) : Except GenerationError Compiled :=
  if !c.id.isContractId then .error (.invalidDescriptor (.badId c.id) none)
  else match c.success? with
    | none => .error (.missingSuccess c.id)
    | some success => do
      let request ← c.request.typeText
      let value ← success.body.typeText
      let failures ← Shape.typeTexts (c.failures.map (·.body))
      let references ← Shape.referencesOf c.bodies
      .ok ⟨c.id, request, value, unionText failures, bindingText c.url c.method, references⟩

/-- The event reporting that a contract has compiled. -/
def Contract.compiledEvent (c : Contract) : Event :=
  ⟨"compile", "Compiled '" ++ c.id ++ "' (" ++ c.method ++ " " ++ c.url ++ ")", some c.id, []⟩

namespace Compiled

/-- The first id that equals an earlier one. -/
def repeatedId? : List Text → List Compiled → Option Text
  | _, [] => none
  | seen, k :: rest => if seen.contains k.id then some k.id else repeatedId? (k.id :: seen) rest

/-- Compiles contracts one after another, up to the first that fails. -/
def each : List Contract → List Event × Except GenerationError (List Compiled)
  | [] => ([], .ok [])
  | c :: rest =>
    match c.compile with
    | .error e => ([], .error e)
    | .ok k =>
      let (events, ks) := each rest
      (c.compiledEvent :: events, ks.map (k :: ·))

/-- Compiles contracts on several workers, where `finished` lists the contracts in the order
in which their compilation ends: every contract that compiles reports, and the outcome is the
first error in the order of the batch, if there is one. -/
def pooled (finished contracts : List Contract) :
    List Event × Except GenerationError (List Compiled) :=
  (finished.filterMap fun c =>
      match c.compile with
      | .ok _ => some c.compiledEvent
      | .error _ => none,
    (each contracts).2)

/-- Whether a batch is compiled on several workers. -/
def usesPool (workers : Int) (contracts : List Contract) : Bool :=
  1 < workers && 1 < contracts.length

/-- Ends the compilation of a batch: ids must be distinct, and the number of contracts is
logged. -/
def conclude (compiled : List Event × Except GenerationError (List Compiled)) :
    List Notice × Except GenerationError (List Compiled) :=
  let events := compiled.1.map Notice.event
  match compiled.2 with
  | .error e => (events, .error e)
  | .ok ks =>
    match repeatedId? [] ks with
    | some id => (events, .error (.duplicateId id))
    | none =>
      (events ++ [.log ⟨.debug, "contractbind.core.compiler.contract_compiler",
        "Compiled " ++ Text.ofNat ks.length ++ " contract(s)."⟩], .ok ks)

/-- Compiles a batch on the given number of workers, the workers of a pool finishing in the
order of the batch. -/
def batch (workers : Int) (contracts : List Contract) :
    List Notice × Except GenerationError (List Compiled) :=
  conclude (if usesPool workers contracts then pooled contracts contracts else each contracts)

end Compiled

end CallBindings
