import MeteredHttp.Failure
import MeteredHttp.HostPort
import MeteredHttp.Transfer.Code

/-!
# Results of transfers

What is known about a transfer when it has ended, well or badly.
-/

namespace MeteredHttp.Transfer

/-- What is known about a transfer that has ended.  A positive status together with a failing code
means that the head of the response arrived and that its body did not. -/
structure Result where
  code : Code := .completed
  /-- What went wrong, in words. -/
  error : Bytes := []
  /-- The error number of the last socket operation that failed. -/
  osErrno : Int := 0
  status : Int := 0
  /-- The fields of the response head, sorted by name. -/
  headers : List (Bytes × Bytes) := []
  body : Bytes := []
  /-- The length of the body, whether it was kept or not. -/
  bytesReceived : Nat := 0
  effectiveUrl : Bytes := []
  /-- The address and the port of the peer; the address is empty as long as it is unknown. -/
  peerIp : Bytes := []
  peerPort : Int := 0
  /-- The outcome of the verification of the certificate; zero is good. -/
  verification : Int := 0
  /-- The times since the start, in microseconds, after which the name was resolved, the connection
  opened and the TLS handshake done. -/
  resolvedAt : Int := 0
  connectedAt : Int := 0
  handshakenAt : Int := 0
  /-- A failure raised on our own side: by the network policy or by the source of the body. -/
  rejection : Option Failure := none

namespace Result

/-- Whether the transfer failed. -/
def failed (r : Result) : Bool := r.code ≠ .completed

/-- Whether a connection to the peer was opened. -/
def connected (r : Result) : Bool :=
  0 < r.status || (!r.peerIp.isEmpty && 0 < r.connectedAt)

/-- How long it took to connect, in microseconds, TLS included and the lookup excluded. -/
def connectDuration (r : Result) : Int :=
  max 0 (max r.connectedAt r.handshakenAt - r.resolvedAt)

/-- The address of the peer with its port. -/
def remote? (r : Result) : Option Bytes :=
  if r.peerIp = [] then none else some (HostPort.join r.peerIp r.peerPort)

end Result

end MeteredHttp.Transfer
