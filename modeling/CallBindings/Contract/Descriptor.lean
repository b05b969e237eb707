import CallBindings.Contract.Basic
import CallBindings.Shape.Descriptor
import CallBindings.Unicode.Blank
import CallBindings.Unicode.Case

set_option autoImplicit false

/-! # Contracts from descriptors

A contract descriptor is an object with an id, a URL, a method, a request body and a list of
responses. Its parts are checked in this order and the responses one by one; more than one
response for success is a fault found at the end. The method is kept in upper case without
white space around it. That a contract has a response for success at all is not asked here.
-/

namespace CallBindings.Contract

/-- The text under the member `part`, which must not be empty. -/
def textPart (source : Option Text) (part : Text) (members : List (Text × Json)) :
    Except GenerationError Text :=
  match lookup? part members with
  | some (.str (c :: t)) => .ok (c :: t)
  | _ => .error (.invalidDescriptor (.needsText part) source)

/-- The response at place `index` of the list of the contract `id`. -/
def readResponse (source : Option Text) (id : Text) (index : Nat) :
    Json → Except GenerationError Response
  | .obj entry =>
    match lookup? "code" entry with
    | some (.int code) =>
      match lookup? "body" entry with
      | none => .error (.invalidDescriptor (.responseWithoutBody code id) source)
      | some body => (Shape.ofJson source body).map fun s => ⟨code, s⟩
    | _ => .error (.invalidDescriptor (.responseWithoutCode index id) source)
  | _ => .error (.invalidDescriptor (.responseNotObject index id) source)

/-- The responses from place `index` on. -/
def readResponses (source : Option Text) (id : Text) (index : Nat) :
    List Json → Except GenerationError (List Response)
  | [] => .ok []
  | j :: rest => do
    let r ← readResponse source id index j
    let rs ← readResponses source id (index + 1) rest
    .ok (r :: rs)

/-- The id of a contract descriptor. -/
def readId (source : Option Text) (members : List (Text × Json)) : Except GenerationError Text := do
  let id ← textPart source "id" members
  if id.isContractId then .ok id else .error (.invalidDescriptor (.badId id) source)

/-- The shape of the request of the contract `id`. -/
def readRequest (source : Option Text) (id : Text) (members : List (Text × Json)) :
    Except GenerationError Shape :=
  match lookup? "requestBody" members with
  | none => .error (.invalidDescriptor (.missingRequest id) source)
  | some body => Shape.ofJson source body

/-- The list of responses of the contract `id`. -/
def readResponseList (source : Option Text) (id : Text) (members : List (Text × Json)) :
    Except GenerationError (List Response) :=
  match lookup? "responses" members with
  | some (.arr items) => readResponses source id 0 items
  | _ => .error (.invalidDescriptor (.missingResponses id) source)

/-- The contract a descriptor describes. `source` names the file for faults of the data. -/
def ofJson (source : Option Text) : Json → Except GenerationError Contract
  | .obj members => do
    let id ← readId source members
    let url ← textPart source "url" members
    let method ← textPart source "method" members
    let request ← readRequest source id members
    let responses ← readResponseList source id members
    if 1 < responses.countP (·.code = successCode) then
      .error (.invalidDescriptor (.repeatedSuccess id) source)
    else .ok ⟨id, url, method.trim.upper, request, responses⟩
  | j => .error (.invalidDescriptor (.contractNotObject j.kind) source)

end CallBindings.Contract
