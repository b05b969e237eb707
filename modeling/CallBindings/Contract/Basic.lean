import CallBindings.Shape.Basic
import CallBindings.Unicode.Identifier

set_option autoImplicit false

/-! # Contracts

A contract describes one HTTP endpoint: a URL template, a method, the shape of the request
and the shapes of the responses by status code. The response with code 200 is the success;
all others are failures.
-/

namespace CallBindings

/-- The shape of the response with a status code. -/
structure Response where
  code : Int
  body : Shape

/-- The description of an endpoint. -/
structure Contract where
  id : Text
  url : Text
  method : Text
  request : Shape
  responses : List Response

/-- The status code of success. -/
def successCode : Int := 200

/-- The first response with the code of success. -/
def Contract.success? (c : Contract) : Option Response :=
  c.responses.find? (·.code = successCode)

/-- The responses with other codes than that of success, in order. -/
def Contract.failures (c : Contract) : List Response :=
  c.responses.filter (·.code ≠ successCode)

/-- The shapes of the request and of all responses, in order. -/
def Contract.bodies (c : Contract) : List Shape := c.request :: c.responses.map (·.body)

/-- Whether a text can be the id of a contract: ids become names in the generated module. -/
def Text.isContractId (id : Text) : Bool := id.isIdentifier && !id.isKeyword

end CallBindings
