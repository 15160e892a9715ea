import MeteredHttp.Address
import MeteredHttp.Bytes
import MeteredHttp.Transfer.Code

/-!
# Exchanges

Everything that the network and the peer contribute to one transfer.  Given what they do, the rest
of a transfer is determined.
-/

namespace MeteredHttp.Transfer

/-- A socket that we are asked to open. -/
inductive SocketOffer where
  /-- For a connection to the peer. -/
  | peer (address : SocketAddress)
  /-- For anything else. -/
  | other (address : SocketAddress)

/-- The times since the start, in microseconds, after which the name was resolved, the connection
opened and the TLS handshake done. -/
structure Times where
  resolved : Int := 0
  connected : Int := 0
  handshaken : Int := 0
  deriving DecidableEq

/-- What the network and the peer do in one transfer. -/
structure Exchange where
  code : Code := .completed
  /-- What went wrong, in words, if that is known. -/
  error : Bytes := []
  /-- The error number of the last socket operation.  The engine keeps it on its handle, also from
  one transfer to the next; here it is fixed for each transfer, as what it reports afterwards. -/
  osErrno : Int := 0
  status : Int := 0
  /-- The fields of the response head, in the order of their arrival. -/
  headers : List (Bytes × Bytes) := []
  /-- The body of the response, in the pieces in which it arrives. -/
  chunks : List Bytes := []
  /-- The address of the peer, if it is known. -/
  peerIp : Option Bytes := none
  peerPort : Int := 0
  verification : Int := 0
  effectiveUrl : Option Bytes := none
  /-- The times, unless they were not measured. -/
  times : Option Times := some {}
  /-- The sockets that we are asked to open, before anything is sent. -/
  sockets : List SocketOffer := []
  /-- How many bytes of the request body are asked for each time. -/
  reads : List Nat := []

end MeteredHttp.Transfer
