import CallBindings.Dispatch.Outcome
import CallBindings.Dispatch.Request
import CallBindings.Json.Bytes
import CallBindings.Logging.Record
import CallBindings.Text.Shown
import CallBindings.Transport.Registry
import CallBindings.Unicode.Case
import CallBindings.Url.Query
import CallBindings.Url.Template

set_option autoImplicit false

/-! # Bindings

A binding is a contract ready to be called: its URL is resolved and its method, options and
transport are fixed. Building one may fail. In a call, whatever goes wrong between the body
and the decoded reply is the unexpected outcome, and its cause is logged; the status of a
failure is logged too. Writing these lines is outside that care, so a cause without a text and
a status too long to be written end the call with an exception.

Bodies of `GET` and `HEAD` calls become the query of the URL, all others a JSON payload. The
reply to `HEAD` has no body worth reading.
-/

namespace CallBindings

/-- Settings shared by all calls of a binding. -/
structure DispatchOptions where
  headers : Headers := []
  /-- Values for the placeholders of URLs. -/
  values : List (Text × Json) := []
  /-- A hook that may change URL and method before placeholders are resolved, or fail. -/
  overrider : Option (Text → Text → Except Text (Text × Text)) := none
  /-- What stands in front of every resolved URL. -/
  baseUrl : Text := []
  timeout : Json := defaultTimeout
  transportOptions : List (Text × Json) := []

/-- Settings of a single call, laid over those of the binding. -/
structure CallOverrides where
  headers : Headers := []
  timeout : Json := .null
  transportOptions : List (Text × Json) := []

/-- What a call is given as body: a JSON value, an object some of whose values are of a type
JSON cannot hold, given by their texts, or an object that raises an exception when its members
are asked for. -/
inductive Body where
  | json (value : Json)
  | unwritable (type : Text) (entries : List (Text × Text))
  | raising (e : Raised)

/-- Why a binding cannot be built. -/
inductive BindError where
  | overrider (message : Text)
  | url (e : UrlError)
  | transport (e : FactoryError)

/-- The wording of an error. -/
def BindError.message : BindError → Text
  | .overrider message => message
  | .url e => e.message
  | .transport e => e.message

/-- Why a request cannot be prepared. -/
inductive PrepareError where
  | query (e : QueryError)
  | integer (e : IntegerError)
  | unwritable (type : Text)
  | raised (e : Raised)

/-- The text of an error, if it has one. -/
def PrepareError.text : PrepareError → Option Text
  | .query e => some e.message
  | .integer e => some e.message
  | .unwritable type => some ("Object of type " ++ type ++ " is not JSON serializable")
  | .raised e => e.text

/-- Why a call ends unexpectedly. -/
inductive CallError where
  | prepare (e : PrepareError)
  | transport (e : Raised)
  | reply (e : BytesError)

/-- The text of an error, if it has one. -/
def CallError.text : CallError → Option Text
  | .prepare e => e.text
  | .transport e => e.text
  | .reply e => some e.message

/-- What a call raises: the cause of an unexpected outcome has no text, or the status of a
failure cannot be written. -/
inductive Uncaught where
  | cause
  | status (e : IntegerError)
deriving DecidableEq

/-- A contract bound to a URL, a method and a transport. -/
structure Binding where
  url : Text
  method : Text
  options : DispatchOptions
  /-- The name the transport shows. -/
  transport : Text

namespace Binding

/-- URL and method after the overrider, if there is one. -/
def override (options : DispatchOptions) (url method : Text) : Except BindError (Text × Text) :=
  match options.overrider with
  | none => .ok (url, method)
  | some f =>
    match f url method with
    | .ok r => .ok r
    | .error message => .error (.overrider message)

/-- Binds a URL template and a method to a transport that shows `transport`. -/
def onTransport (template method : Text) (options : DispatchOptions)
    (transport : Except BindError Text) : Except BindError Binding := do
  let (url, method) ← override options template method
  match Template.resolve options.values url with
  | .error e => .error (.url e)
  | .ok url =>
    let name ← transport
    .ok ⟨url, method.upper, options, name⟩

/-- Binds a URL template and a method to the transport registered under `name`. -/
def bind (registry : Registry) (template method : Text) (options : DispatchOptions)
    (name : Text) : Except BindError Binding :=
  onTransport template method options
    (match registry.build name with
     | .ok label => .ok label
     | .error e => .error (.transport e))

/-- The binding as messages show it. -/
def shown (b : Binding) : Text :=
  "Binding(" ++ b.method ++ " " ++ b.url ++ ", transport=" ++ b.transport.shown ++ ")"

/-- Whether the body of a call becomes the query of the URL. -/
def usesQuery (b : Binding) : Bool := b.method = "GET" || b.method = "HEAD"

/-- The query of a body. -/
def queryOf : Body → Except PrepareError Text
  | .json value =>
    match Query.ofBody value with
    | .ok t => .ok t
    | .error e => .error (.query e)
  | .unwritable _ entries =>
    match Query.ofBody (.obj (entries.map fun e => (e.1, .str e.2))) with
    | .ok t => .ok t
    | .error e => .error (.query e)
  | .raising e => .error (.raised e)

/-- The JSON payload of a body. -/
def payloadOf : Body → Except PrepareError Text
  | .json value =>
    match value.toCompact with
    | .ok t => .ok t
    | .error e => .error (.integer e)
  | .unwritable type _ => .error (.unwritable type)
  | .raising e => .error (.raised e)

/-- The request of a call. -/
def prepare (b : Binding) (body : Body) (overrides : CallOverrides) :
    Except PrepareError Request := do
  let o := b.options
  let headers := Headers.merge o.headers overrides.headers
  let (url, content) ←
    if b.usesQuery then (queryOf body).map fun q => (o.baseUrl ++ b.url ++ q, none)
    else (payloadOf body).map fun p => (o.baseUrl ++ b.url, some p)
  let timeout := if overrides.timeout.isNull then o.timeout else overrides.timeout
  .ok ⟨b.method, url, headers, content, timeout,
    assignAll o.transportOptions overrides.transportOptions⟩

/-- The payload of a reply. -/
def decode (b : Binding) (content : Bytes) : Except BytesError Json :=
  if b.method = "HEAD" then .ok .null else Json.readReply content

/-- What a call does: the request that reached the transport, if one did, and the decoded
reply or the cause of an unexpected outcome. -/
def attempt (b : Binding) (exchange : Exchange) (body : Body) (overrides : CallOverrides) :
    Option Request × Except CallError (Int × Json) :=
  match b.prepare body overrides with
  | .error e => (none, .error (.prepare e))
  | .ok request =>
    match exchange request with
    | .error e => (some request, .error (.transport e))
    | .ok reply =>
      match b.decode reply.content with
      | .error e => (some request, .error (.reply e))
      | .ok payload => (some request, .ok (reply.status, payload))

/-- A record of the log of calls. -/
def record (severity : Severity) (message : Text) : LogRecord :=
  ⟨severity, "contractbind.runtime.dispatch", message⟩

/-- The unexpected outcome, with a record of its cause. -/
def giveUp (b : Binding) (e : CallError) : Except Uncaught (Outcome × List LogRecord) :=
  match e.text with
  | none => .error .cause
  | some cause =>
    .ok (.unexpected,
      [record .warning (b.method ++ " " ++ b.url ++ " failed unexpectedly: " ++ cause)])

/-- The outcome of a reply with a decoded payload; a failure is recorded. -/
def classify (b : Binding) (status : Int) (payload : Json) :
    Except Uncaught (Outcome × List LogRecord) :=
  if status = 200 then .ok (.success status payload, [])
  else match Text.writeInt status with
    | .error e => .error (.status e)
    | .ok digits =>
      .ok (.failure status payload,
        [record .debug (b.method ++ " " ++ b.url ++ " answered " ++ digits)])

/-- Calls a binding: the request that reached the transport, and the outcome with what is
logged, or what the call raises. -/
def call (b : Binding) (exchange : Exchange) (body : Body) (overrides : CallOverrides) :
    Option Request × Except Uncaught (Outcome × List LogRecord) :=
  match b.attempt exchange body overrides with
  | (request, .error e) => (request, b.giveUp e)
  | (request, .ok (status, payload)) => (request, b.classify status payload)

end Binding

end CallBindings
