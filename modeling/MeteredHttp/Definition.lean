import MeteredHttp.Pool
import MeteredHttp.RequestOptions
import MeteredHttp.Response
import MeteredHttp.Transfer.Diagnosis
import MeteredHttp.Transfer.Perform

/-!
# Request definitions

A definition says what to send: a URL, options and a body.  It can be sent any number of times,
with any method and by any client.  The handles that it was sent with wait in its pool.

* `Definition.handleFor` takes a handle out of the pool or makes one.
* `Definition.loadBody` gives a handle the body for a method.
* `Definition.send` performs one transfer.
* `Definition.outcome` is what a caller gets for its result.
-/

namespace MeteredHttp

/-- The body of a definition. -/
inductive Payload where
  | none
  | bytes (content : Bytes)
  /-- The body is read from the source with this number. -/
  | stream (source : Nat)
  deriving DecidableEq

/-- What to send, and the handles that it was sent with. -/
structure Definition where
  url : Bytes
  options : RequestOptions := {}
  payload : Payload := .none
  pool : Pool Handle := {}

namespace Definition

/-- A definition; a source for the body takes the place of the body in the options. -/
def make (url : Bytes) (options : RequestOptions) (source : Option Nat) : Definition where
  url := url
  options := options
  payload :=
    match source, options.body with
    | some i, _ => .stream i
    | none, some content => .bytes content
    | none, none => .none

/-! ## Handles -/

/-- Gives a new handle what stays the same however often the definition is sent. -/
def address (d : Definition) (h : Handle) : Handle :=
  let h := h.withUrl d.url
  let h := if d.options.host = [] then h else h.withHost d.options.host
  h.withFields d.options.headers

/-- A handle of the transport for the next transfer, and the pool without it.  A handle that was
made by another transport is dropped. -/
def handleFor (d : Definition) (t : Transport) : Handle × Pool Handle :=
  match d.pool.take with
  | (some h, pool) => if t.owns h then (h, pool) else (d.address t.newHandle, pool)
  | (none, pool) => (d.address t.newHandle, pool)

/-- Gives a handle what may change from one transfer to the next, the body excepted. -/
def prepare (d : Definition) (method : Method) (h : Handle) : Handle :=
  (h.withKeepAlive !d.options.disableKeepAlive).withMethod method

/-- Whether a handle holds a body of bytes of a given length. -/
def holdsBytes (h : Handle) (length : Nat) : Bool :=
  match h.body with
  | .bytes content => content.length == length
  | _ => false

/-- Gives a handle the body for a method.  Bytes of the right length are those of an earlier
transfer and stay; a source is rewound. -/
def loadBody (d : Definition) (method : Method) (h : Handle) (sources : Sources) :
    Except Bytes (Handle × Sources) :=
  if method.isBodiless then .ok (h.withBody .none, sources)
  else
    match d.payload with
    | .none => .ok (h.withBody .none, sources)
    | .bytes content =>
      .ok (if holdsBytes h content.length then h else h.withBody (.bytes content), sources)
    | .stream i =>
      match sources[i]? with
      | some source =>
        source.rewind.map fun source => (h.withBody (.stream i), sources.set i source)
      | none => .ok (h.withBody .none, sources)

/-! ## Sending -/

/-- What became of a transfer. -/
inductive Transmission where
  /-- The source of the body could not be rewound, for this reason. -/
  | unrewound (reason : Bytes)
  | performed (result : Transfer.Result) (wire : Option Transfer.Wire)

/-- The effect of sending a definition. -/
structure Sent where
  transmission : Transmission
  /-- The sockets that were opened. -/
  sockets : List Transfer.SocketOffer
  definition : Definition
  sources : Sources

/-- Sends a definition.  The handle returns to the pool whatever happens. -/
def send (d : Definition) (t : Transport) (sources : Sources) (method : Method)
    (exchange : Transfer.Exchange) : Sent :=
  let (h, pool) := d.handleFor t
  let h := d.prepare method h
  match d.loadBody method h sources with
  | .error reason => ⟨.unrewound reason, [], { d with pool := pool.giveBack (some h) }, sources⟩
  | .ok (h, sources) =>
    let p := t.perform h sources d.options.responseType exchange
    ⟨.performed p.result p.wire, p.sockets, { d with pool := pool.giveBack (some p.handle) },
      p.sources⟩

/-! ## What the caller gets -/

/-- What a caller gets for a send. -/
inductive Outcome where
  | response (response : Response)
  /-- The round trip failed, and the definition wants failures to be raised. -/
  | raised (failure : Failure)
  /-- The source of the body could not be rewound, for this reason. -/
  | unrewound (reason : Bytes)

/-- The failure of a round trip, if it failed. -/
def failure? (d : Definition) (method : Method) (r : Transfer.Result) : Option Failure :=
  if r.failed || r.rejection.isSome then some (r.failure method d.url) else none

/-- The response to a round trip that failed before a head arrived. -/
def failedResponse (d : Definition) (failure : Failure) : Response where
  url := d.url
  type := d.options.responseType
  code := failure.classify.code
  error := failure.classify.message

/-- The head of a response. -/
def responseHead (d : Definition) (r : Transfer.Result) : Response where
  status := r.status
  remote := r.remote?.getD []
  url := if r.effectiveUrl = [] then d.url else r.effectiveUrl
  headers := r.headers
  type := d.options.responseType

/-- The response to a round trip that failed while the body was on its way. -/
def cutResponse (d : Definition) (r : Transfer.Result) (failure : Failure) : Response :=
  { d.responseHead r with code := failure.classify.code, error := failure.classify.message }

/-- The response to a round trip that did not fail. -/
def wholeResponse (d : Definition) (r : Transfer.Result) : Response :=
  { d.responseHead r with
    code := if 400 ≤ r.status then .ofStatus r.status else .success
    body :=
      if d.options.responseType = .none ∨ Response.lacksContent r.status then none
      else some r.body }

/-- What a caller gets for the result of a transfer. -/
def outcome (d : Definition) (method : Method) (r : Transfer.Result) : Outcome :=
  match d.failure? method r with
  | none => .response (d.wholeResponse r)
  | some failure =>
    if d.options.throwOnError then .raised failure
    else if r.failedInBody then .response (d.cutResponse r failure)
    else .response (d.failedResponse failure)

end Definition

end MeteredHttp
