import MeteredHttp.Files

/-!
# File streams

A file opened for reading from front to back, as often as its reader rewinds it.

A stream has flags, which are raised by calls that do not do all they were asked for.  They stay up,
and while one is up nothing more is read.

* `FileStream.openFile` opens a file.
* `FileStream.rewind` takes the flags back (`FileStream.clear`) and goes back to the first byte
  (`FileStream.seekStart`).
* `FileStream.read` takes the next bytes (`FileStream.extract`).
-/

namespace MeteredHttp

/-- What a stream remembers of calls that did not do all they were asked for. -/
structure StreamFlags where
  /-- A read met the end of the file. -/
  ended : Bool := false
  /-- A call failed. -/
  failed : Bool := false
  /-- The file could not be read. -/
  broken : Bool := false
  deriving DecidableEq

namespace StreamFlags

/-- Whether any flag is up. -/
def raised (flags : StreamFlags) : Bool := flags.ended || flags.failed || flags.broken

end StreamFlags

/-- A file that is open for reading. -/
structure FileStream where
  path : Bytes
  node : FileNode
  /-- What has not been read yet. -/
  unread : Bytes
  flags : StreamFlags := {}
  deriving DecidableEq

namespace FileStream

/-- The bytes of a node that can be read. -/
def content : FileNode → Bytes
  | .regular content => content
  | _ => []

/-- Opens a file.  Directories can be opened but not read. -/
def openFile (files : Files) (path : Bytes) : Except Int32 FileStream :=
  (files.find path).map fun node => { path, node, unread := content node }

/-- What the log says about a file that cannot be opened. -/
def openReport (path : Bytes) (errno : Int32) : Bytes :=
  utf8 "failed to open file " ++ path ++ utf8 ": " ++ SystemError.text errno

/-- The text of the error about a file that cannot be opened: the report up to its first NUL
byte. -/
def openFailure (path : Bytes) (errno : Int32) : Bytes := (openReport path errno).untilNul

/-- The length of the file.  Where there is none it is taken to be zero. -/
def size (stream : FileStream) : Nat := (content stream.node).length

/-! ## Rewinding -/

/-- Takes all flags back. -/
def clear (stream : FileStream) : FileStream := { stream with flags := {} }

/-- Moves to the first byte.  That the file ended does not matter, but no other flag may be up, and
in a pipe nothing moves. -/
def seekStart (stream : FileStream) : FileStream :=
  let flags := { stream.flags with ended := false }
  match flags.raised, stream.node with
  | true, _ | _, .pipe => { stream with flags := { flags with failed := true } }
  | false, node => { stream with unread := content node, flags }

/-- Goes back to the first byte, if the file permits it.  A stream that does not go back is left as
it was: it is a pipe, out of which nothing comes whatever flags are up. -/
def rewind (stream : FileStream) : Except Bytes FileStream :=
  let stream := stream.clear.seekStart
  if stream.flags.failed || stream.flags.broken then
    .error (utf8 "failed to rewind " ++ stream.path.untilNul)
  else .ok stream

/-! ## Reading -/

/-- What the file yields when `size` bytes are asked for, unless it cannot be read. -/
def fetch? (stream : FileStream) (size : Nat) : Option Bytes :=
  match stream.node with
  | .directory => if size = 0 then some [] else none
  | _ => some (stream.unread.take size)

/-- Extracts the next bytes, none if a flag is up. -/
def extract (stream : FileStream) (size : Nat) : Bytes × FileStream :=
  if stream.flags.raised then
    ([], { stream with flags := { stream.flags with failed := true } })
  else
    match stream.fetch? size with
    | none => ([], { stream with flags := { stream.flags with broken := true } })
    | some bytes =>
      -- to come short of the size is a failure as well
      let short := decide (bytes.length < size)
      (bytes,
        { stream with
          unread := stream.unread.drop bytes.length
          flags := { stream.flags with ended := short, failed := short } })

/-- Takes the next bytes, as many as a buffer of the given size holds unless the file ends before.
Only a file that could not be read makes this fail.  A buffer lies in memory, so its size is less
than `2 ^ 63` and is asked for as it is. -/
def read (stream : FileStream) (size : Nat) : Except Bytes Bytes × FileStream :=
  let (bytes, stream) := stream.extract size
  if stream.flags.broken then
    (.error (utf8 "failed to read " ++ stream.path.untilNul), stream)
  else (.ok bytes, stream)

end FileStream

end MeteredHttp
