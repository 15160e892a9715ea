import MeteredHttp.ErrorCode
import MeteredHttp.Http2
import MeteredHttp.SystemError

/-!
# Failures

A failed request is described by a chain of failures, the outermost first: the request failed
because an operation on the network failed, because a system call failed.

* `Failure.Node` is one link of the chain, `Failure` the chain.
* `Failure.text` is the chain in words.
-/

namespace MeteredHttp

/-- One link of a chain of failures. -/
inductive Failure.Node where
  /-- A message of its own, often put before a cause. -/
  | generic (message : Bytes)
  /-- A failure whose error code is already known. -/
  | classified (code : ErrorCode) (message : Bytes)
  /-- The name of a host could not be resolved. -/
  | lookup (host reason : Bytes)
  /-- The address of the peer lies in a refused range. -/
  | blockedAddress (address range : Bytes)
  /-- The host matches a refused pattern. -/
  | blockedHost (host pattern : Bytes)
  /-- An HTTP/2 peer goes away. -/
  | goAway (code : UInt32) (debug : Bytes)
  /-- An HTTP/2 stream was closed. -/
  | stream (id code : UInt32)
  /-- An HTTP/2 connection broke its protocol. -/
  | connection (code : UInt32)
  /-- An operation on a network failed. -/
  | network (operation net address : Bytes)
  /-- A system call failed. -/
  | systemCall (name : Bytes) (errno : Int32)
  /-- An error number of which nothing else is known. -/
  | systemError (errno : Int32)
  /-- A certificate is signed by an unknown authority. -/
  | unknownAuthority (detail : Bytes)
  /-- A certificate does not cover the host. -/
  | certificateHost (host : Bytes)
  /-- The peer does not speak TLS. -/
  | tlsRecord (detail : Bytes)
  /-- An operation on a URL failed. -/
  | url (operation target : Bytes)
  deriving DecidableEq

/-- A chain of failures, the outermost first. -/
inductive Failure where
  /-- A failure without a cause. -/
  | leaf (node : Failure.Node)
  /-- A failure with its cause. -/
  | because (node : Failure.Node) (cause : Failure)
  deriving DecidableEq

namespace Failure

/-- The outermost link. -/
def node : Failure → Node
  | .leaf node => node
  | .because node _ => node

/-- What the outermost link wraps. -/
def cause? : Failure → Option Failure
  | .leaf _ => none
  | .because _ cause => some cause

/-! ## Text -/

/-- Two texts with a colon between them, or the one that is not empty. -/
def joinTexts (outer inner : Bytes) : Bytes :=
  if outer = [] then inner
  else if inner = [] then outer
  else outer ++ utf8 ": " ++ inner

/-- A text followed by a detail in parentheses, if there is one. -/
def withDetail (text detail : Bytes) : Bytes :=
  if detail = [] then text else text ++ utf8 " (" ++ detail ++ utf8 ")"

/-- A link in words, where `inner` is the text of its cause, or empty. -/
def Node.text (inner : Bytes) : Node → Bytes
  | .generic message => joinTexts message inner
  | .classified _ message => message
  | .lookup host reason => utf8 "lookup " ++ host ++ utf8 ": " ++ reason
  | .blockedAddress address range =>
    utf8 "IP (" ++ address ++ utf8 ") is in a blacklisted range (" ++ range ++ utf8 ")"
  | .blockedHost host pattern =>
    utf8 "hostname (" ++ host ++ utf8 ") is in a blocked pattern (" ++ pattern ++ utf8 ")"
  | .goAway code debug =>
    utf8 "http2: server sent GOAWAY and closed the connection; ErrCode=" ++ Http2.codeName code
      ++ utf8 ", debug=\"" ++ debug ++ utf8 "\""
  | .stream id code =>
    utf8 "stream error: stream ID " ++ Numeral.decimal id.toNat ++ utf8 "; "
      ++ Http2.codeName code
  | .connection code => utf8 "connection error: " ++ Http2.codeName code
  | .network operation net address =>
    joinTexts
      (operation ++ utf8 " " ++ net ++ if address = [] then [] else utf8 " " ++ address) inner
  | .systemCall name errno => name ++ utf8 ": " ++ SystemError.text errno
  | .systemError errno => SystemError.text errno
  | .unknownAuthority detail =>
    withDetail (utf8 "x509: certificate signed by unknown authority") detail
  | .certificateHost host => utf8 "x509: certificate is not valid for " ++ host
  | .tlsRecord detail =>
    if detail = [] then utf8 "tls: first record does not look like a TLS handshake"
    else utf8 "tls: " ++ detail
  | .url operation target => operation ++ utf8 " \"" ++ target ++ utf8 "\": " ++ inner

/-- A chain in words. -/
def text : Failure → Bytes
  | .leaf node => node.text []
  | .because node cause => node.text cause.text

/-- A chain in the words of an error: its text up to the first NUL byte. -/
def errorText (failure : Failure) : Bytes := failure.text.untilNul

end Failure

end MeteredHttp
