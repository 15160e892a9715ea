import MeteredHttp.FileStream
import MeteredHttp.Sink

/-!
# Outlets

What a run lends to its clients and checks to report on: a sink for samples, and a log.

* `Outlets.publish` hands samples to the sink unless the run is over.
* `Outlets.warn` and `Outlets.fail` write to the log.
* `Outlets.openFile` opens a file and writes to the log if that fails.
-/

namespace MeteredHttp

/-- How grave a log entry is. -/
inductive LogLevel where
  | warning
  | error
  deriving DecidableEq

/-- Which log an entry went to. -/
inductive LogTarget where
  /-- The log of the run. -/
  | run
  /-- The log that is shared by all who have none of their own. -/
  | shared
  deriving DecidableEq

/-- An entry of a log. -/
structure LogEntry where
  target : LogTarget
  level : LogLevel
  text : Bytes
  deriving DecidableEq

/-- Where reports go. -/
structure Outlets where
  sink : Option Sink := some .buffered
  target : LogTarget := .run
  /-- The entries of the log, the oldest first. -/
  log : List LogEntry := []

namespace Outlets

/-- Writes an entry to the log. -/
def record (outlets : Outlets) (level : LogLevel) (text : Bytes) : Outlets :=
  { outlets with log := outlets.log ++ [⟨outlets.target, level, text⟩] }

/-- Writes a warning to the log. -/
def warn (outlets : Outlets) (text : Bytes) : Outlets := outlets.record .warning text

/-- Writes an error to the log. -/
def fail (outlets : Outlets) (text : Bytes) : Outlets := outlets.record .error text

/-- Hands a batch to the sink, if there is one and the run is not over. -/
def publish (outlets : Outlets) (ended : Bool) (batch : Batch) : Outlets × Option Sink.PushError :=
  match ended, outlets.sink with
  | false, some sink =>
    let (sink, error) := sink.push batch
    ({ outlets with sink := some sink }, error)
  | _, _ => (outlets, none)

/-- Hands a batch to the sink; if the sink does not take it, a warning that starts with `complaint`
is written. -/
def publishOrWarn (outlets : Outlets) (ended : Bool) (batch : Batch) (complaint : Bytes) :
    Outlets :=
  match outlets.publish ended batch with
  | (outlets, none) => outlets
  | (outlets, some error) => outlets.warn (complaint ++ utf8 ": " ++ error.message)

/-- Opens a file.  If that fails the log says why, as does the text of the error. -/
def openFile (outlets : Outlets) (files : Files) (path : Bytes) :
    Except Bytes FileStream × Outlets :=
  match FileStream.openFile files path with
  | .ok stream => (.ok stream, outlets)
  | .error errno =>
    (.error (FileStream.openFailure path errno), outlets.fail (FileStream.openReport path errno))

/-- The batches that the sink holds. -/
def batches (outlets : Outlets) : List Batch := (outlets.sink.map Sink.batches).getD []

end Outlets

end MeteredHttp
