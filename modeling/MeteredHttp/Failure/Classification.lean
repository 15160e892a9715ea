import MeteredHttp.Failure

/-!
# Classification of failures

Every chain of failures has one error code and one short message.  Links that say what went wrong
decide; links that only wrap something leave the decision to their cause, so the most specific
link wins.

* `Failure.classify` is the classification of a chain.
-/

namespace MeteredHttp

/-- What a failure is reported as. -/
structure Classification where
  code : ErrorCode
  message : Bytes
  deriving DecidableEq

namespace Failure

/-- A failure of which nothing more specific is known is reported by its text. -/
def unspecific (failure : Failure) : Classification := ⟨.unspecific, failure.text⟩

/-- An HTTP/2 failure: the code of its band, and the name of the error code. -/
def http2Classification (band : ErrorCode) (what : String) (code : UInt32) : Classification :=
  ⟨⟨band.number + Http2.codeOffset code⟩,
    utf8 "http2: " ++ utf8 what ++ utf8 " with http2 ErrCode " ++ Http2.codeName code⟩

/-- Opening a connection failed because of `cause?`, which was classified as `inner?`. -/
def classifyDial (failure : Failure) (cause? : Option Failure) (inner? : Option Classification) :
    Classification :=
  match cause?.map node with
  | some (.systemCall _ errno) =>
    if errno = SystemError.connectionRefused then
      ⟨.dialRefused, utf8 "dial: connection refused"⟩
    else if errno ≠ 0 then
      ⟨.dialSystemError, utf8 "dial: unknown errno " ++ Numeral.decimal errno.toInt
        ++ utf8 " error with msg `" ++ SystemError.text errno ++ utf8 "`"⟩
    else ⟨.dial, failure.text⟩
  | _ =>
    match inner? with
    | some inner => if inner.code = .unspecific then ⟨.dial, failure.text⟩ else inner
    | none => ⟨.dial, failure.text⟩

/-- An operation on an open connection failed because of `cause?`. -/
def classifyConnected (failure : Failure) (operation : Bytes) (cause? : Option Failure) :
    Classification :=
  match cause?.map node with
  | some (.systemError errno) =>
    ⟨.tcpSystemError, operation ++ utf8 ": unknown errno `" ++ Numeral.decimal errno.toInt
      ++ utf8 "` on " ++ SystemError.platform ++ utf8 " with message `"
      ++ SystemError.text errno ++ utf8 "`"⟩
  | _ => ⟨.tcp, failure.text⟩

/-- An operation on a network failed.  Whatever the operation was, the system call that it failed
in tells whether the peer reset the connection. -/
def classifyNetwork (failure : Failure) (operation net : Bytes) (cause? : Option Failure)
    (inner? : Option Classification) : Classification :=
  if net ≠ utf8 "tcp" ∧ net ≠ utf8 "tcp6" then ⟨.notTcp, failure.text⟩
  else
    match cause?.map node with
    | some (.systemCall _ 104) =>
      ⟨.connectionReset, operation ++ utf8 ": connection reset by peer"⟩
    | some (.systemCall _ 32) => ⟨.brokenPipe, operation ++ utf8 ": broken pipe"⟩
    | _ =>
      if operation = utf8 "dial" then classifyDial failure cause? inner?
      else classifyConnected failure operation cause?

/-- The classification of a failure by its outermost link, where `inner?` is the classification of
its cause. -/
def classifyOuter (failure : Failure) (inner? : Option Classification) : Classification :=
  match failure.node with
  | .classified code message => ⟨code, message⟩
  | .lookup _ reason =>
    if reason = utf8 "no such host" then ⟨.noSuchHost, utf8 "lookup: no such host"⟩
    else ⟨.lookup, failure.text⟩
  | .blockedAddress _ _ => ⟨.blockedAddress, utf8 "ip is blacklisted"⟩
  | .blockedHost _ _ => ⟨.blockedHost, utf8 "hostname is blocked"⟩
  | .goAway code _ => http2Classification .http2GoAway "received GoAway" code
  | .stream _ code => http2Classification .http2Stream "stream error" code
  | .connection code => http2Classification .http2Connection "connection error" code
  | .network operation net _ => classifyNetwork failure operation net failure.cause? inner?
  | .systemCall _ errno =>
    if errno = 0 then failure.unspecific else ⟨.unspecific, SystemError.text errno⟩
  | .unknownAuthority _ => ⟨.unknownAuthority, utf8 "x509: unknown authority"⟩
  | .certificateHost _ =>
    ⟨.certificateHost, utf8 "x509: certificate doesn't match hostname"⟩
  | .tlsRecord _ => ⟨.tlsRecord, failure.text⟩
  | .generic _ | .systemError _ | .url _ _ => inner?.getD failure.unspecific

/-- The classification of a chain. -/
def classify : Failure → Classification
  | .leaf node => classifyOuter (.leaf node) none
  | .because node cause => classifyOuter (.because node cause) (some cause.classify)

end Failure

end MeteredHttp
