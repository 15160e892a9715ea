import MeteredHttp.Transfer.Exchange
import MeteredHttp.Transfer.Result
import MeteredHttp.Transfer.Wire
import MeteredHttp.Transport
import MeteredHttp.Url

/-!
# Performing transfers

How a handle and an exchange become a request on the wire and a result.

* `Transfer.blockedHost?` stops requests to refused hosts before anything happens.
* `Transfer.permitted`, `Transfer.refusal?` and `Transfer.serveReads` are our own part in a
  transfer: opening sockets, refusing addresses and delivering the body.
* `Handle.apply` tells the engine what to send, and `Transfer.wire` is what it sends.
* `Transport.perform` is a whole transfer.
-/

namespace MeteredHttp.Transfer

/-! ## Our part in a transfer -/

/-- The refusal of a host, if the policy of the transport covers the host of the URL. -/
def blockedHost? (policy : Policy) (url : Bytes) : Option Failure :=
  (Url.host? url).bind fun host =>
    (policy.blockedHost? host).map fun pattern => .leaf (.blockedHost host pattern.text)

/-- The refusal of an address. -/
def refuse? (policy : Policy) : SocketOffer → Option Failure
  | .peer address =>
    (policy.blockedAddress? address).map fun network =>
      .leaf (.blockedAddress address.render network.text)
  | .other _ => none

/-- The offers that are not refused: a socket is opened for each of them. -/
def permitted (policy : Policy) (offers : List SocketOffer) : List SocketOffer :=
  offers.filter fun offer => (refuse? policy offer).isNone

/-- The last refusal among the addresses that were offered. -/
def refusal? (policy : Policy) (offers : List SocketOffer) : Option Failure :=
  (offers.filterMap (refuse? policy)).getLast?

/-- What the deliveries of a body came to. -/
structure Delivered where
  /-- What was delivered each time, nothing where the source failed. -/
  reads : List (Option Bytes)
  /-- The failure of the source, the last one if there were several. -/
  failure : Option Failure
  source : BodySource

/-- The failure of a transfer whose body could not be read, for a reason that ends at its first NUL
byte. -/
def readFailure (reason : Bytes) : Failure :=
  .because (.generic (utf8 "reading request body")) (.leaf (.generic reason.untilNul))

/-- Delivers a body in pieces of at most the given sizes.  After a failure the source is asked
again. -/
def deliver (source : BodySource) : List Nat → Delivered
  | [] => ⟨[], none, source⟩
  | size :: sizes =>
    match source.read size with
    | (.ok bytes, source) =>
      let rest := deliver source sizes
      { rest with reads := some bytes :: rest.reads }
    | (.error reason, source) =>
      let rest := deliver source sizes
      { rest with
        reads := none :: rest.reads
        failure := rest.failure <|> some (readFailure reason) }

/-- Delivers the body of a handle.  A body that is no stream has nothing to deliver. -/
def serveReads (body : Handle.Body) (sources : Sources) (sizes : List Nat) :
    List (Option Bytes) × Option Failure × Sources :=
  match body with
  | .stream i =>
    match sources[i]? with
    | some source =>
      let d := deliver source sizes
      (d.reads, d.failure, sources.set i d.source)
    | none => (sizes.map fun _ => some [], none, sources)
  | _ => (sizes.map fun _ => some [], none, sources)

/-! ## What is sent -/

/-- A length as 64 bits hold it; -1 if it is unknown. -/
def wireLength (length : Option Nat) : Int :=
  match length with
  | some n => (Int64.ofNat n).toInt
  | none => -1

/-- Tells the engine about a body.  A handle without one sends no bytes, but says so. -/
def tellBody (body : Handle.Body) (sources : Sources) (o : EngineOptions) : EngineOptions :=
  match body with
  | .stream i => o.asPost.withLength (wireLength (sources[i]?.bind BodySource.size))
  | .bytes content => (o.withLength content.length).withContent (some content)
  | .none => (o.withLength 0).withContent (some [])

/-- Tells the engine about a method and a body.  What is not said again stays as it was. -/
def tellMethod (method : Method) (body : Handle.Body) (sources : Sources) (o : EngineOptions) :
    EngineOptions :=
  match method with
  | .get => o
  | .head => o.withNoBody true
  | .post => tellBody body sources o
  | _ => (tellBody body sources o).withCustomVerb (some method.wireName)

/-- The request that the engine sends for a handle. -/
def wire (h : Handle) (reads : List (Option Bytes)) : Wire where
  url := h.options.url
  verb := h.options.verb
  headers := h.lines
  body := h.options.body
  forbidReuse := h.options.forbidReuse
  reads := reads

/-! ## What is known afterwards -/

/-- The fields of a response head sorted by name; those of one name keep their order. -/
def sortHeaders (headers : List (Bytes × Bytes)) : List (Bytes × Bytes) :=
  headers.mergeSort fun a b => !decide (b.1 < a.1)

/-- Texts that come from the transfer engine end at their first NUL byte. -/
def headersOf (exchange : Exchange) : List (Bytes × Bytes) :=
  if exchange.status = 0 then []
  else sortHeaders (exchange.headers.map fun (name, value) => (name.untilNul, value.untilNul))

/-- The room for the words on what went wrong. -/
def errorRoom : Nat := 255

/-- What went wrong, in words: those of the engine, or else those of the code. -/
def errorOf (code : Code) (words : Bytes) : Bytes :=
  if code = .completed then [] else if words = [] then code.text else words

/-- What is known after an exchange.  A failure on our own side counts only if the transfer
failed. -/
def resultOf (exchange : Exchange) (type : ResponseType) (words : Bytes)
    (rejection : Option Failure) : Result :=
  let times := exchange.times.getD {}
  { code := exchange.code
    error := errorOf exchange.code words
    osErrno := exchange.osErrno
    status := exchange.status
    headers := headersOf exchange
    body := if type = .none then [] else exchange.chunks.flatten
    bytesReceived := exchange.chunks.flatten.length
    effectiveUrl := (exchange.effectiveUrl.getD []).untilNul
    peerIp := (exchange.peerIp.getD []).untilNul
    peerPort := exchange.peerPort
    verification := exchange.verification
    resolvedAt := times.resolved
    connectedAt := times.connected
    handshakenAt := times.handshaken
    rejection := if exchange.code = .completed then none else rejection }

/-- What is known about a request to a refused host. -/
def blockedResult (rejection : Failure) : Result where
  code := .hostUnresolved
  error := utf8 "hostname is blocked"
  rejection := some rejection

end MeteredHttp.Transfer

namespace MeteredHttp

open Transfer

/-! ## A handle in a transfer -/

namespace Handle

/-- Tells the engine what the handle is to send. -/
def apply (h : Handle) (sources : Sources) : Handle :=
  let h := h.refresh
  let o := (h.options.withUrl h.url.untilNul).withForbidReuse !h.keepAlive
  { h with options := tellMethod h.method h.body sources o.plain }

/-- A handle when its transfer begins: so far nothing went wrong. -/
def begin (h : Handle) (sources : Sources) : Handle :=
  { h.apply sources with rejection := none, words := [] }

/-- A handle when the engine is done.  On our side the body may have failed, or else an address may
have been refused; if the engine has nothing to say it leaves the words alone. -/
def endure (h : Handle) (exchange : Exchange) (failure? : Option Failure) : Handle :=
  { h with
    rejection := failure? <|> refusal? h.owner.policy exchange.sockets <|> h.rejection
    words :=
      if exchange.error = [] then h.words
      else Bytes.untilNul (exchange.error.take errorRoom) }

end Handle

/-! ## Transfers -/

/-- The effect of a transfer. -/
structure Transfer.Performed where
  result : Transfer.Result
  /-- What was sent, if anything was. -/
  wire : Option Transfer.Wire
  /-- The sockets that were opened. -/
  sockets : List Transfer.SocketOffer
  handle : Handle
  sources : Sources

namespace Transport

/-- Performs the transfer that a handle describes.  Addresses are refused by the policy of the
transport that made the handle. -/
def perform (t : Transport) (h : Handle) (sources : Sources) (type : ResponseType)
    (exchange : Exchange) : Performed :=
  match blockedHost? t.policy h.url with
  | some rejection => ⟨blockedResult rejection, none, [], h, sources⟩
  | none =>
    let h := h.begin sources
    let (reads, failure?, after) := serveReads h.body sources exchange.reads
    let ended := h.endure exchange failure?
    ⟨resultOf exchange type ended.words ended.rejection, some (wire h reads),
      permitted h.owner.policy exchange.sockets, { ended with rejection := none }, after⟩

end Transport

end MeteredHttp
