import MeteredHttp.Sample.Line

/-!
# Sinks

Where samples go.

* `Sink.push` hands over a batch.
* `Sink.batches` and `Sink.text` are what a sink has received.
-/

namespace MeteredHttp

/-- A destination of samples. -/
inductive Sink where
  /-- Keeps the batches in the order of their arrival; once closed it drops what arrives. -/
  | buffer (held : List Batch) (closed : Bool)
  /-- Writes a line for every sample to a stream.  What is pending is in the stream, and shows when
  the stream is flushed. -/
  | lines (written : Bytes) (pending : Bytes := [])
  /-- Refuses every batch with an error that gives the reason.  Only such errors are considered:
  nobody who pushes is prepared for anything else that a sink might raise. -/
  | refusing (reason : Bytes)

namespace Sink

/-- Why a sink did not take a batch. -/
inductive PushError where
  /-- The sink refuses everything, for this reason. -/
  | refused (reason : Bytes)
  /-- A sample cannot be written. -/
  | unwritable (fault : Json.Fault)
  deriving DecidableEq

/-- The reason in words, which end at their first NUL byte.  About samples that cannot be written
nothing more is said. -/
def PushError.message : PushError → Bytes
  | .refused reason => reason.untilNul
  | .unwritable _ => []

/-- An open buffer that holds nothing. -/
def buffered : Sink := .buffer [] false

/-- The lines of the samples up to the first that cannot be written. -/
def linesOf : Batch → Bytes × Option PushError
  | [] => ([], none)
  | sample :: rest =>
    match sample.line with
    | .ok line =>
      let (others, error) := linesOf rest
      (line ++ others, error)
    | .error fault => ([], some (.unwritable fault))

/-- Hands a batch to a sink.  A stream is flushed after the last line, and not at all if a sample
cannot be written. -/
def push (sink : Sink) (batch : Batch) : Sink × Option PushError :=
  match sink with
  | .buffer held false => (.buffer (held ++ [batch]) false, none)
  | .buffer held true => (.buffer held true, none)
  | .lines written pending =>
    match linesOf batch with
    | (new, none) => (.lines (written ++ pending ++ new), none)
    | (new, some error) => (.lines written (pending ++ new), some error)
  | .refusing reason => (.refusing reason, some (.refused reason))

/-- Makes a buffer drop what arrives from now on. -/
def close : Sink → Sink
  | .buffer held _ => .buffer held true
  | sink => sink

/-- The batches that a buffer holds. -/
def batches : Sink → List Batch
  | .buffer held _ => held
  | _ => []

/-- Takes all batches out of a buffer. -/
def drain : Sink → List Batch × Sink
  | .buffer held closed => (held, .buffer [] closed)
  | sink => ([], sink)

/-- The text that shows. -/
def text : Sink → Bytes
  | .lines written _ => written
  | _ => []

end Sink

end MeteredHttp
