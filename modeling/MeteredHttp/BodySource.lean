import MeteredHttp.FileStream

/-!
# Sources of request bodies

A body that is not known beforehand is read from a source while it is sent.

* `BodySource.size` is the length of a body that knows it.
* `BodySource.rewind` goes back to the first byte, `BodySource.read` takes the next bytes.
-/

namespace MeteredHttp

/-- Where the body of a request comes from. -/
inductive BodySource where
  | file (stream : FileStream)
  /-- Bytes at hand; their total length may be kept from the receiver. -/
  | memory (content unread : Bytes) (size : Option Nat)
  /-- A source that fails for the given reason. -/
  | broken (reason : Bytes) (size : Option Nat)
  deriving DecidableEq

namespace BodySource

/-- The total length, if it is known. -/
def size : BodySource → Option Nat
  | .file stream => some stream.size
  | .memory _ _ size => size
  | .broken _ size => size

/-- Goes back to the first byte. -/
def rewind : BodySource → Except Bytes BodySource
  | .file stream => stream.rewind.map .file
  | .memory content _ size => .ok (.memory content content size)
  | .broken reason size => .ok (.broken reason size)

/-- Takes the next bytes. -/
def read (source : BodySource) (size : Nat) : Except Bytes Bytes × BodySource :=
  match source with
  | .file stream =>
    let (bytes, stream) := stream.read size
    (bytes, .file stream)
  | .memory content unread total =>
    (.ok (unread.take size), .memory content (unread.drop size) total)
  | .broken reason total => (.error reason, .broken reason total)

end BodySource

/-- The sources of a run, by number. -/
abbrev Sources := List BodySource

end MeteredHttp
