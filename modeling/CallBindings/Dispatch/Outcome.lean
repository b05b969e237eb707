import CallBindings.Json.Basic

set_option autoImplicit false

/-! # Outcomes of a call

A call ends in one of three ways: with the payload of a successful response, with the payload
of a response of another status, or unexpectedly, when no usable response arrived. The last
reveals nothing about the cause; its status is zero.
-/

namespace CallBindings

/-- The outcome of a call. -/
inductive Outcome where
  | success (status : Int) (value : Json)
  | failure (status : Int) (error : Json)
  | unexpected

namespace Outcome

/-- Whether the call succeeded. -/
def ok : Outcome → Bool
  | .success _ _ => true
  | _ => false

/-- The status of the response; zero if there was none. -/
def status : Outcome → Int
  | .success status _ => status
  | .failure status _ => status
  | .unexpected => 0

/-- The payload of a success, null otherwise. -/
def value : Outcome → Json
  | .success _ value => value
  | _ => .null

/-- The description of an unexpected failure. -/
def unexpectedFailure : Json :=
  .obj [("code", .str "Unexpected"), ("message", .str "unexpected internal server error"),
    ("status", .int 0)]

/-- The payload of a failure or the description of an unexpected one, null for a success. -/
def error : Outcome → Json
  | .success _ _ => .null
  | .failure _ error => error
  | .unexpected => unexpectedFailure

/-- Whether no usable response arrived. -/
def isUnexpected : Outcome → Bool
  | .unexpected => true
  | _ => false

/-- Whether the server answered with another status than that of success. -/
def isDomainFailure (o : Outcome) : Bool := !o.ok && !o.isUnexpected

end Outcome

end CallBindings
