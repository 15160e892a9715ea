import MeteredHttp.Sample

/-!
# Telemetry

The facts about one round trip that its samples are made of.  They are sealed when the first
samples are made, which happens once.
-/

namespace MeteredHttp

/-- The facts about a round trip, and its samples. -/
structure Telemetry where
  finishedAt : Timestamp := default
  /-- How long it took to connect, TLS included, in nanoseconds. -/
  connectDuration : Int := 0
  /-- How long the whole round trip took, in nanoseconds. -/
  duration : Int := 0
  /-- The address of the peer with its port, if there was a connection. -/
  remote : Option Bytes := none
  /-- Whether the status was unexpected, if it was judged. -/
  failed : Option Bool := none
  tags : Tags := .empty
  metadata : Tags := .empty
  samples : Batch := []
  isSealed : Bool := false

namespace Telemetry

/-- A sample of this round trip. -/
def sample (t : Telemetry) (ctx : TagContext) (series : Series) (value : Binary64) : Sample :=
  { series := some series
    tags := ctx.tags
    metadata := ctx.metadata
    time := t.finishedAt
    value }

/-- Makes the samples that every round trip has, unless that has been done before. -/
def record (t : Telemetry) (ctx : TagContext) : Telemetry :=
  if t.isSealed then t
  else
    { t with
      isSealed := true
      tags := ctx.tags
      metadata := ctx.metadata
      samples := t.samples ++ [
        t.sample ctx .requests .one,
        t.sample ctx .duration (milliseconds t.duration)] }

/-- Adds the verdict on the status and its sample. -/
def judge (t : Telemetry) (ctx : TagContext) (expected : Bool) : Telemetry :=
  { t with
    failed := some !expected
    samples := t.samples ++ [
      t.sample ctx .failed (if expected then .zero else .one)] }

end Telemetry

end MeteredHttp
