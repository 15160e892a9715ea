import MeteredHttp.Failure.Classification
import MeteredHttp.Method
import MeteredHttp.Transfer.Result
import MeteredHttp.Url

/-!
# What went wrong in a transfer

A transfer that failed is described by its code, an error number and a message meant for people.
From these a chain of failures is built that says what happened.

* `Transfer.numberBehind?` and `Transfer.statedHttp2Code` find numbers in messages.
* `Transfer.Result.failure` is the chain of failures of a failed transfer.
* `Transfer.Result.failedInBody` says that the head of the response had arrived before.
-/

namespace MeteredHttp.Transfer

/-! ## Numbers in messages -/

/-- The number of 32 bits that a text starts with, after blanks; `0x` introduces base sixteen. -/
def leadingNumber? (text : Bytes) : Option UInt32 :=
  let rest := text.dropWhile (· == 32)
  let run? :=
    match Bytes.dropStart? rest (utf8 "0x") with
    | some digits => Numeral.readRun? 16 digits
    | none => Numeral.readRun? 10 rest
  match run? with
  | some (n, _) => if n < UInt32.size then some n.toUInt32 else none
  | none => none

/-- The number behind the first occurrence of a key. -/
def numberBehind? (text : Bytes) (key : String) : Option UInt32 :=
  (Bytes.cut? text (utf8 key)).bind fun parts => leadingNumber? parts.2

/-- The HTTP/2 error code that a message states as a number or by name.  A message that states none
yields a code that is not known, 255. -/
def statedHttp2Code (text : Bytes) : UInt32 :=
  match numberBehind? text "err " with
  | some code => code
  | none =>
    match numberBehind? text "error code" with
    | some code => code
    | none => (Http2.codeNames.findIdx? fun name => text.contains name).elim 255 (·.toUInt32)

/-- Whether one of the keys occurs in a message. -/
def mentions (text : Bytes) (keys : List String) : Bool :=
  keys.any fun key => text.contains (utf8 key)

namespace Result

/-! ## The failures of the stages -/

/-- A host name was not resolved.  A reason in parentheses is kept unless it says that the name
does not exist. -/
def lookupFailure (r : Result) : Failure :=
  let missing := ¬mentions r.error ["("]
    ∨ mentions r.error ["not found", "NXDOMAIN", "Name or service not known"]
  .leaf (.lookup (Url.host r.effectiveUrl) (if missing then utf8 "no such host" else r.error))

/-- The error number of the last socket operation, of which 32 bits count. -/
def errno (r : Result) : Int32 := Int32.ofInt r.osErrno

/-- An operation on the connection failed because of `cause`. -/
def networkFailure (r : Result) (operation : String) (cause : Failure) : Failure :=
  .because (.network (utf8 operation) (utf8 "tcp") (r.remote?.getD [])) cause

/-- The connection could not be opened. -/
def connectFailure (r : Result) : Failure :=
  r.networkFailure "dial" <| .leaf <|
    if r.osErrno = 0 then .generic r.error else .systemCall (utf8 "connect") r.errno

/-- Sending or receiving failed on an open connection. -/
def socketFailure (r : Result) (operation : String) : Failure :=
  r.networkFailure operation <| .leaf <|
    if r.errno = SystemError.brokenPipe ∨ r.errno = SystemError.connectionReset then
      .systemCall (utf8 operation) r.errno
    else if r.errno = 0 then .generic r.error
    else .systemError r.errno

/-- The outcomes of the verification that mean that the authority is not known: the issuer is
missing, or a certificate is signed by itself. -/
def unknownAuthorities : List Int := [2, 18, 19, 20, 21]

/-- The outcome of the verification that means that the certificate is for another host. -/
def hostMismatch : Int := 62

/-- The certificate was not accepted. -/
def certificateFailure (r : Result) : Failure :=
  .leaf <|
    if r.verification = hostMismatch ∨ mentions r.error ["subject name", "does not match"] then
      .certificateHost (Url.host r.effectiveUrl)
    else if r.verification ∈ unknownAuthorities
        ∨ mentions r.error ["issuer", "unknown ca", "self-signed", "self signed"] then
      .unknownAuthority r.error
    else .generic r.error

/-- The TLS handshake failed. -/
def handshakeFailure (r : Result) : Failure :=
  if mentions r.error ["wrong version number", "record"] then .leaf (.tlsRecord r.error)
  else r.certificateFailure

/-- The time was up. -/
def timeoutFailure (r : Result) : Failure :=
  .leaf <|
    if r.connected then .classified .requestTimeout (utf8 "request timeout")
    else .classified .dialTimeout (utf8 "dial: i/o timeout")

/-- The HTTP/2 connection failed. -/
def http2Failure (r : Result) : Failure :=
  .leaf <|
    if mentions r.error ["GOAWAY", "GoAway"] then .goAway (statedHttp2Code r.error) []
    else .connection (statedHttp2Code r.error)

/-- The HTTP/2 stream failed. -/
def streamFailure (r : Result) : Failure :=
  .leaf (.stream ((numberBehind? r.error "stream").getD 0) (statedHttp2Code r.error))

/-! ## The failure of a transfer -/

/-- What the code of a failed transfer stands for. -/
def codeFailure (r : Result) : Failure :=
  match r.code with
  | .hostUnresolved =>
    .because (.network (utf8 "dial") (utf8 "tcp") []) r.lookupFailure
  | .proxyUnresolved => .leaf (.lookup (utf8 "proxy") r.error)
  | .connectFailed => r.connectFailure
  | .timedOut => r.timeoutFailure
  | .sendFailed => r.socketFailure "write"
  | .receiveFailed => r.socketFailure "read"
  | .certificateRejected => r.certificateFailure
  | .handshakeFailed => r.handshakeFailure
  | .http2Failed => r.http2Failure
  | .streamFailed => r.streamFailure
  | .badEncoding =>
    .because (.classified .decompression (utf8 "error decompressing response body"))
      (.leaf (.generic r.error))
  | .malformedUrl | .unsupportedScheme =>
    .because (.classified .invalidUrl (utf8 "invalid URL")) (.leaf (.generic r.error))
  | code => .leaf (.generic (if r.error = [] then code.text else r.error))

/-- What a failure raised on our own side stands for: to be refused by the network policy is to
fail to connect. -/
def rejectionFailure (r : Result) (rejection : Failure) : Failure :=
  match rejection.node with
  | .blockedAddress _ _ | .blockedHost _ _ => r.networkFailure "dial" rejection
  | _ => rejection

/-- The failure of a transfer for a request with the given method and URL.  A failure raised on our
own side takes precedence over the code. -/
def failure (r : Result) (method : Method) (url : Bytes) : Failure :=
  .because (.url method.operation url) <|
    match r.rejection with
    | some rejection => r.rejectionFailure rejection
    | none => r.codeFailure

/-- The codes of transfers that can fail after the head of the response has arrived. -/
def bodyCodes : List Code :=
  [.badEncoding, .partialBody, .receiveFailed, .timedOut, .streamFailed, .deliveryFailed]

/-- Whether the transfer failed while the body was on its way. -/
def failedInBody (r : Result) : Bool :=
  decide (0 < r.status) && r.rejection.isNone && decide (r.code ∈ bodyCodes)

end Result

end MeteredHttp.Transfer
