import MeteredHttp.Failure.Classification
import MeteredHttp.Telemetry

/-!
# Round trips

A request that was sent, together with what became of it.

* `RoundTrip.verdict` is what a round trip is reported as.
-/

namespace MeteredHttp

/-- What was known of a request when it was sent. -/
structure RequestFacts where
  method : Bytes
  url : Bytes
  /-- The tags of this request alone. -/
  tags : Tags := .empty

/-- A round trip. -/
structure RoundTrip where
  request : RequestFacts
  /-- The status, if the head of a response arrived. -/
  status : Option Int := none
  telemetry : Telemetry := {}
  failure : Option Failure := none

/-- A round trip that has been reported, and what it was reported as. -/
structure Finished where
  source : RoundTrip
  code : ErrorCode := .success
  error : Bytes := []

namespace RoundTrip

/-- The status that is judged and reported: zero unless there was a response and no failure. -/
def reportedStatus (trip : RoundTrip) : Int :=
  match trip.failure with
  | some _ => 0
  | none => trip.status.getD 0

/-- The code and the message that a round trip is reported with. -/
def verdict (trip : RoundTrip) : Classification :=
  match trip.failure with
  | some failure => failure.classify
  | none => ⟨if 400 ≤ trip.reportedStatus then .ofStatus trip.reportedStatus else .success, []⟩

end RoundTrip

end MeteredHttp
