import MeteredHttp.Bytes

/-!
# Error codes

Stable numbers for the ways in which a request can fail.  They come in bands: 1000 for failures
that fit nowhere else, 1100 for name resolution and network policy, 1200 for TCP, 1300 for TLS,
1600 for HTTP/2 and 1700 for contents.  A response whose status is an error has the code 1000 plus
its status.
-/

namespace MeteredHttp

/-- The number of a kind of failure. -/
structure ErrorCode where
  number : UInt32
  deriving DecidableEq

namespace ErrorCode

/-- Nothing failed. -/
def success : ErrorCode := ⟨0⟩

/-- A failure that fits nowhere else. -/
def unspecific : ErrorCode := ⟨1000⟩

/-- An operation on a network that is not TCP. -/
def notTcp : ErrorCode := ⟨1010⟩

def invalidUrl : ErrorCode := ⟨1020⟩

def requestTimeout : ErrorCode := ⟨1050⟩

/-- A host name could not be resolved. -/
def lookup : ErrorCode := ⟨1100⟩

def noSuchHost : ErrorCode := ⟨1101⟩

def blockedAddress : ErrorCode := ⟨1110⟩

def blockedHost : ErrorCode := ⟨1111⟩

/-- A connection failed after it was opened. -/
def tcp : ErrorCode := ⟨1200⟩

def brokenPipe : ErrorCode := ⟨1201⟩

/-- A connection failed with a system error that has no code of its own. -/
def tcpSystemError : ErrorCode := ⟨1202⟩

/-- A connection could not be opened. -/
def dial : ErrorCode := ⟨1210⟩

def dialTimeout : ErrorCode := ⟨1211⟩

def dialRefused : ErrorCode := ⟨1212⟩

/-- A connection could not be opened, with a system error that has no code of its own. -/
def dialSystemError : ErrorCode := ⟨1213⟩

def connectionReset : ErrorCode := ⟨1220⟩

/-- The peer does not speak TLS. -/
def tlsRecord : ErrorCode := ⟨1301⟩

def unknownAuthority : ErrorCode := ⟨1310⟩

def certificateHost : ErrorCode := ⟨1311⟩

/-- The first of the codes for an HTTP/2 peer that goes away. -/
def http2GoAway : ErrorCode := ⟨1610⟩

/-- The first of the codes for an HTTP/2 stream that is closed. -/
def http2Stream : ErrorCode := ⟨1630⟩

/-- The first of the codes for an HTTP/2 connection that breaks its protocol. -/
def http2Connection : ErrorCode := ⟨1650⟩

/-- A response body could not be decompressed. -/
def decompression : ErrorCode := ⟨1701⟩

/-- The code of a response with the given status. -/
def ofStatus (status : Int) : ErrorCode := ⟨UInt32.ofInt (1000 + status)⟩

end ErrorCode

end MeteredHttp
