import CallBindings.Dispatch.Request
import CallBindings.Logging.Record
import CallBindings.Text.Utf8

set_option autoImplicit false

/-! # The built-in transports

Two transports hand a request to an HTTP library each. Both lay the options of the request over
those they were built with, and pass method, URL, headers, payload and timeout by themselves;
they differ in which of these go together with the options. The first opens a client with the
timeout and the options and then sends the rest through it, the second passes everything at
once. What is passed at once must not be passed twice, and the library decides which other
options it takes.
-/

namespace CallBindings

/-- The built-in transports. -/
inductive BuiltinTransport where
  | httpx
  | requests
deriving DecidableEq

/-- What a transport hands to its HTTP library. -/
structure Handover where
  timeout : Json
  options : List (Text × Json)
  method : Text
  url : Text
  headers : Headers
  content : Option Text

/-- An HTTP library: the names of the options it takes, and how it answers what it receives. -/
structure HttpLibrary where
  takes : Text → Bool
  exchange : Handover → Except Raised Reply

/-- Why an exchange fails: an option is passed twice, the library does not take it, or the
library raises an exception. -/
inductive ExchangeError where
  | repeatedOption (name : Text)
  | unknownOption (name : Text)
  | library (e : Raised)

namespace BuiltinTransport

/-- The name of a transport, in the registry and in the log. -/
def name : BuiltinTransport → Text
  | .httpx => "httpx"
  | .requests => "requests"

/-- What a transport passes together with the options. -/
def passed : BuiltinTransport → List Text
  | .httpx => ["timeout"]
  | .requests => ["method", "url", "headers", "data", "timeout"]

/-- What the library receives for a request, by a transport built with the options `fixed`. -/
def handover (t : BuiltinTransport) (library : HttpLibrary) (fixed : List (Text × Json))
    (r : Request) : Except ExchangeError Handover :=
  let options := assignAll fixed r.options
  match options.find? fun o => t.passed.contains o.1 with
  | some o => .error (.repeatedOption o.1)
  | none =>
    match options.find? fun o => !library.takes o.1 with
    | some o => .error (.unknownOption o.1)
    | none => .ok ⟨r.timeout, options, r.method, r.url, r.headers, r.content⟩

/-- The record of an exchange. -/
def record (t : BuiltinTransport) (r : Request) : LogRecord :=
  ⟨.debug, "contractbind.runtime.transports." ++ t.name ++ "_transport",
    t.name ++ ": " ++ r.method ++ " " ++ r.url⟩

/-- Sends a request through a library: what it receives, the reply or the failure, and what
is logged. -/
def send (t : BuiltinTransport) (library : HttpLibrary) (fixed : List (Text × Json))
    (r : Request) : Option Handover × Except ExchangeError Reply × List LogRecord :=
  match t.handover library fixed r with
  | .error e => (none, .error e, [t.record r])
  | .ok h =>
    match library.exchange h with
    | .error e => (some h, .error (.library e), [t.record r])
    | .ok reply => (some h, .ok reply, [t.record r])

end BuiltinTransport

/-- The body of a reply as text, read as strict UTF-8. -/
def Reply.text (r : Reply) : Except DecodeError Text := Utf8.decode r.content

end CallBindings
