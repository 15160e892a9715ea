import MeteredHttp.Client
import MeteredHttp.Proofs.Reporter.History

/-!
# The calls of one send

A send that reaches its transfer has the reporter cleared, stages its round trip and, if the body
of the response failed, settles that failure at once.

* `Sending` is such a send, as far as its reporter is concerned, and `Sending.phases` are its calls.
* `Sending.report_eq_calls` says that `Client.report` consists of these calls: it leads to the same
  reporter and the same sink, and differs in what it writes to the log.
* `Sending.report_slot` and `Sending.report_given` are the effect of a whole send: it reports
  the round trip before, and leaves its own in the slot unless it reports that as well.
-/

namespace MeteredHttp

namespace Reporter

/-- A send that reached its transfer. -/
structure Sending where
  definition : Definition
  method : Method
  result : Transfer.Result
  measured : Measured := {}

/-- What a send calls its reporter for. -/
inductive Phase where
  /-- To complete the round trip before. -/
  | clear
  | stage
  /-- To report that the body failed. -/
  | settle
  deriving DecidableEq

namespace Sending

/-- The failure that the send ended in, if it failed. -/
def failure? (s : Sending) : Option Failure := s.definition.failure? s.method s.result

/-- Whether it failed while the body was on its way. -/
def cut (s : Sending) : Bool := s.result.failedInBody

/-- The round trip that it stages. -/
def trip (s : Sending) : RoundTrip :=
  Client.roundTrip s.definition s.method s.result s.measured

/-- The round trip with all that is known once the send has ended. -/
def wholeTrip (s : Sending) : RoundTrip := { s.trip with failure := s.failure? }

/-- The calls of the send, in the order in which it makes them. -/
def phases (s : Sending) : List Phase :=
  if s.cut then [.clear, .stage, .settle] else [.clear, .stage]

/-- The call of the send for one of its phases. -/
def call (s : Sending) (ended : Bool) : Phase → Call
  | .clear => .drain ended none
  | .stage => .stage ended s.trip
  | .settle => .drain ended s.failure?

/-- A body can only fail if the transfer does. -/
lemma exists_failure_of_cut {s : Sending} (h : s.cut = true) :
    ∃ failure, s.failure? = some failure := by
  have hcode : s.result.code ∈ Transfer.Result.bodyCodes := by
    simp only [cut, Transfer.Result.failedInBody, Bool.and_eq_true, decide_eq_true_eq] at h
    exact h.2
  have hne : s.result.code ≠ .completed := by
    rintro heq
    rw [heq] at hcode
    exact absurd hcode (by decide)
  exact ⟨s.result.failure s.method s.definition.url, by
    simp [failure?, Definition.failure?, Transfer.Result.failed, hne]⟩

/-- A round trip whose body failed is staged without its failure. -/
lemma trip_failure_of_cut {s : Sending} (h : s.cut = true) : s.trip.failure = none := by
  simp only [cut] at h
  simp [trip, Client.roundTrip, h]

lemma trip_failure_of_not_cut {s : Sending} (h : s.cut = false) : s.trip.failure = s.failure? := by
  simp only [cut] at h
  simp [trip, Client.roundTrip, h, failure?]

/-- What is settled makes a round trip whole. -/
lemma settle_trip {s : Sending} (h : s.cut = true) :
    { s.trip with failure := s.trip.failure.or s.failure? } = s.wholeTrip := by
  rw [trip_failure_of_cut h]
  rfl

lemma trip_eq_wholeTrip {s : Sending} (h : s.cut = false) : s.trip = s.wholeTrip := by
  rw [wholeTrip, ← trip_failure_of_not_cut h]

/-- What a complaint does to the log is no concern of the sink. -/
lemma complain_sink (d : Definition) (what : String) (failure : Failure) (outlets : Outlets) :
    (Client.complain d what failure outlets).sink = outlets.sink := by
  simp only [Client.complain]
  split <;> rfl

/-- A send is reported by its calls, one after the other. -/
lemma report_eq_calls (s : Sending) (ended : Bool) (r : Reporter) (outlets : Outlets) :
    let reported := Client.report s.definition s.method s.result s.measured ended r outlets
    let after := r.calls outlets (s.phases.map (s.call ended))
    reported.1 = after.reporter ∧ reported.2.sink = after.outlets.sink := by
  cases hcut : s.cut with
  | true =>
    obtain ⟨failure, hfailure⟩ := exists_failure_of_cut hcut
    have hfailure' : s.definition.failure? s.method s.result = some failure := hfailure
    have hcut' : s.result.failedInBody = true := hcut
    simp only [Client.report, Client.reportFailure, hfailure', hcut', phases, hcut, if_true,
      List.map_cons, List.map_nil, call, calls, Reporter.call, hfailure, complain_sink]
    exact ⟨rfl, rfl⟩
  | false =>
    have hcut' : s.result.failedInBody = false := hcut
    simp only [Client.report, Client.reportFailure, hcut', phases, hcut, Bool.false_eq_true,
      if_false, List.map_cons, List.map_nil, call, calls, Reporter.call]
    cases s.definition.failure? s.method s.result with
    | none => exact ⟨rfl, rfl⟩
    | some failure => exact ⟨rfl, complain_sink _ _ _ _⟩

/-! ## The effect of a send -/

/-- What a send reports before it ends: the round trip before, and its own if its body failed. -/
def reported (s : Sending) (before : Option RoundTrip) : List RoundTrip :=
  before.toList ++ if s.cut then [s.wholeTrip] else []

/-- What a send leaves in the slot. -/
def left? (s : Sending) : Option RoundTrip := if s.cut then none else some s.wholeTrip

lemma report_slot (s : Sending) (ended : Bool) (r : Reporter) (outlets : Outlets) :
    (Client.report s.definition s.method s.result s.measured ended r outlets).1
      = { r with staged := s.left? } := by
  rw [(s.report_eq_calls ended r outlets).1, left?]
  cases hcut : s.cut with
  | true => simp [phases, hcut, call, calls, Reporter.call]
  | false => simp [phases, hcut, call, calls, Reporter.call, trip_eq_wholeTrip hcut]

/-- The calls of a send release what the send reports. -/
lemma calls_released (s : Sending) (ended : Bool) (r : Reporter) (outlets : Outlets) :
    (r.calls outlets (s.phases.map (s.call ended))).released.map (·.finished.batch)
      = r.batchesOf (s.reported r.staged) := by
  cases hcut : s.cut with
  | true =>
    cases hslot : r.staged with
    | none =>
      simp [phases, hcut, call, calls, Reporter.call, drain, stage, hslot, reported, batchesOf,
        settle_trip hcut]
    | some before =>
      simp [phases, hcut, call, calls, Reporter.call, drain, stage, hslot, reported, batchesOf,
        settle_trip hcut]
  | false =>
    cases hslot : r.staged with
    | none =>
      simp [phases, hcut, call, calls, Reporter.call, drain, stage, hslot, reported, batchesOf]
    | some before =>
      simp [phases, hcut, call, calls, Reporter.call, drain, stage, hslot, reported, batchesOf]

/-- A send hands the sink the samples of what it reports. -/
lemma report_given (s : Sending) (ended : Bool) (r : Reporter) (outlets : Outlets) :
    Outlets.Given ended (r.batchesOf (s.reported r.staged)) outlets
      (Client.report s.definition s.method s.result s.measured ended r outlets).2 := by
  have hended : ∀ c ∈ s.phases.map (s.call ended), c.ended = ended := by
    intro c hc
    obtain ⟨phase, -, rfl⟩ := List.mem_map.1 hc
    cases phase <;> rfl
  have hgiven := r.calls_given outlets hended
  rw [calls_released] at hgiven
  rw [Outlets.Given, (s.report_eq_calls ended r outlets).2]
  exact hgiven

lemma complain_logs {what : String} (h : ¬ occupiedText <+: utf8 what)
    (h' : ¬ utf8 what <+: occupiedText) (d : Definition) (failure : Failure) (outlets : Outlets) :
    Outlets.Logs NotOccupied outlets (Client.complain d what failure outlets) := by
  simp only [Client.complain]
  split
  · exact .refl outlets
  · rw [List.append_assoc]
    exact outlets.logs_record _ _ (notOccupied_append h h' _ _ _)

/-- The slot is empty by the time a send stages its round trip, so that there is nothing to warn
of. -/
lemma report_logs_of_open (s : Sending) (r : Reporter) {outlets : Outlets} {held : List Batch}
    (hopen : outlets.sink = some (.buffer held false)) :
    Outlets.Logs NotOccupied outlets
      (Client.report s.definition s.method s.result s.measured false r outlets).2 := by
  have hdrain := r.drain_logs none hopen
  have hopen' := r.drain_sink_of_open hopen
  have hempty : (r.drain false none outlets).reporter.staged = none := by rw [drain_staged]
  simp only [Client.report, stage_of_empty hempty]
  split
  next => exact hdrain
  next failure _ =>
    simp only [Client.reportFailure]
    split
    · have hsettle := drain_logs
        { (r.drain false none outlets).reporter with staged := some s.trip } (some failure) hopen'
      exact (hdrain.trans hsettle).trans (complain_logs (by decide) (by decide) _ _ _)
    · exact hdrain.trans (complain_logs (by decide) (by decide) _ _ _)

end Sending

end Reporter

end MeteredHttp
