import CallBindings.Dispatch.Headers
import CallBindings.Text.Encoding

set_option autoImplicit false

/-! # Requests and replies

What passes between a binding and a transport: a prepared request on the way out, and the
status, body and headers of a reply on the way back. A transport may also raise an exception
instead of replying; no more is known of it than the text it is logged with, and writing that
text may itself raise one.
-/

namespace CallBindings

/-- A request ready to be sent. -/
structure Request where
  method : Text
  url : Text
  headers : Headers
  /-- The payload, if one is sent. -/
  content : Option Text
  /-- Seconds before the transport gives up; null for no limit. -/
  timeout : Json
  /-- Further settings for the transport. -/
  options : List (Text × Json)

/-- The seconds before a transport gives up, where nothing else is said. -/
def defaultTimeout : Json := .float (Binary64.ofDecimal false 10 0)

/-- An exception of a kind this library does not know. -/
structure Raised where
  /-- The text of the exception; none if writing it raises another one. -/
  text : Option Text

/-- What a server answers. -/
structure Reply where
  status : Int
  content : Bytes
  headers : Headers

/-- How a transport answers a request. -/
abbrev Exchange := Request → Except Raised Reply

end CallBindings
