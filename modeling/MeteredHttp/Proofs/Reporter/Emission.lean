import MeteredHttp.Reporter
import Mathlib.Tactic.Lemma

/-!
# What a reporter emits

`Reporter.emit` hands the samples of a round trip to the outlets and returns the round trip as it
was reported.  The two effects are told apart here.

**The report.**  `Reporter.finish` is what `emit` returns.  It depends on the reporter and on the
round trip alone, never on the outlets (`emit_fst`), and apart from the samples and what goes with
them it is the round trip that was staged (`finish_completes`).

**The outlets.**  The sink is handed exactly the samples of the report as one batch, whatever it
does with them (`emit_given`), and the log gets no entry that begins like the warning about an
occupied slot (`emit_logs`).
-/

namespace MeteredHttp

/-! ## The report -/

/-- The samples that a round trip was reported with. -/
def Finished.batch (f : Finished) : Batch := f.source.telemetry.samples

/-- What was measured of a round trip, without the things that reporting it adds. -/
def Telemetry.measured (t : Telemetry) : Telemetry :=
  { t with failed := none, tags := .empty, metadata := .empty, samples := [], isSealed := false }

/-- **A report of a staged round trip.**  It is the staged one in all that was known and measured,
and it has the failure that was offered if it had none of its own. -/
structure Finished.Completes (f : Finished) (trip : RoundTrip) (offered : Option Failure) :
    Prop where
  request : f.source.request = trip.request
  status : f.source.status = trip.status
  measured : f.source.telemetry.measured = trip.telemetry.measured
  failure : f.source.failure = (trip.failure <|> offered)

lemma Telemetry.measured_record (t : Telemetry) (ctx : TagContext) :
    (t.record ctx).measured = t.measured := by
  simp only [Telemetry.record]
  split <;> rfl

namespace Reporter

/-- What the judge says about a round trip.  A judge that fails has not expected the status. -/
def verdict? (r : Reporter) (trip : RoundTrip) : Option Bool :=
  r.judge.map fun judge => (judge trip.reportedStatus).toOption.getD false

/-- A round trip as it is reported. -/
def finish (r : Reporter) (trip : RoundTrip) : Finished where
  source := { trip with telemetry := r.complete trip (r.verdict? trip) }
  code := trip.verdict.code
  error := trip.verdict.message

/-- The batches that a reporter makes of round trips. -/
def batchesOf (r : Reporter) (trips : List RoundTrip) : List Batch :=
  trips.map fun trip => (r.finish trip).batch

lemma expected?_fst (r : Reporter) (trip : RoundTrip) (outlets : Outlets) :
    (r.expected? trip outlets).1 = r.verdict? trip := by
  cases hjudge : r.judge with
  | none => simp [expected?, verdict?, hjudge]
  | some judge =>
    cases hstatus : judge trip.reportedStatus with
    | ok expected => simp [expected?, verdict?, hjudge, hstatus, Except.toOption]
    | error reason => simp [expected?, verdict?, hjudge, hstatus, Except.toOption]

/-- The report does not depend on where it goes. -/
@[simp] lemma emit_fst (r : Reporter) (ended : Bool) (trip : RoundTrip) (outlets : Outlets) :
    (r.emit ended trip outlets).1 = r.finish trip := by
  simp only [emit, finish, expected?_fst]

/-- The slot has no part in a report. -/
@[simp] lemma finish_staged (r : Reporter) (staged : Option RoundTrip) (trip : RoundTrip) :
    { r with staged }.finish trip = r.finish trip := rfl

lemma measured_complete (r : Reporter) (trip : RoundTrip) (expected : Option Bool) :
    (r.complete trip expected).measured = trip.telemetry.measured := by
  cases expected with
  | none => exact trip.telemetry.measured_record _
  | some expected => exact trip.telemetry.measured_record _

lemma finish_completes (r : Reporter) (trip : RoundTrip) (offered : Option Failure) :
    (r.finish { trip with failure := trip.failure <|> offered }).Completes trip offered where
  request := rfl
  status := rfl
  measured := measured_complete r _ _
  failure := rfl

/-- A round trip to which nothing is offered keeps the failure it has. -/
lemma finish_completes_none (r : Reporter) (trip : RoundTrip) :
    (r.finish trip).Completes trip none where
  request := rfl
  status := rfl
  measured := measured_complete r trip _
  failure := by cases h : trip.failure <;> simp [finish, h]

end Reporter

/-! ## The outlets -/

namespace Sink

/-- A sink after several batches were handed to it, in this order. -/
def pushAll (sink : Sink) (batches : List Batch) : Sink :=
  batches.foldl (fun sink batch => (sink.push batch).1) sink

lemma pushAll_append (sink : Sink) (first second : List Batch) :
    sink.pushAll (first ++ second) = (sink.pushAll first).pushAll second := List.foldl_append

/-- An open buffer keeps everything. -/
lemma pushAll_of_open (held batches : List Batch) :
    (buffer held false).pushAll batches = .buffer (held ++ batches) false := by
  induction batches generalizing held with
  | nil => simp [pushAll]
  | cons batch rest ih =>
    show (buffer (held ++ [batch]) false).pushAll rest = _
    rw [ih, List.append_assoc, List.singleton_append]

end Sink

namespace Outlets

/-- Between `before` and `after` the sink was handed these batches, unless the run was over. -/
def Given (ended : Bool) (batches : List Batch) (before after : Outlets) : Prop :=
  after.sink = if ended then before.sink else before.sink.map (·.pushAll batches)

lemma Given.of_eq {ended : Bool} {before after : Outlets} (h : after.sink = before.sink) :
    Given ended [] before after := by
  have hnothing : (Sink.pushAll · []) = id := rfl
  simp [Given, h, hnothing]

lemma Given.trans {ended : Bool} {batches others : List Batch} {first second third : Outlets}
    (h : Given ended batches first second) (h' : Given ended others second third) :
    Given ended (batches ++ others) first third := by
  cases ended with
  | true =>
    simp only [Given, if_true] at h h' ⊢
    rw [h', h]
  | false =>
    simp only [Given, Bool.false_eq_true, if_false] at h h' ⊢
    rw [h', h, Option.map_map]
    simp [Function.comp_def, Sink.pushAll_append]

lemma Given.sink_of_open {batches held : List Batch} {before after : Outlets}
    (h : Given false batches before after) (hopen : before.sink = some (.buffer held false)) :
    after.sink = some (.buffer (held ++ batches) false) := by
  rw [Given, hopen] at h
  simpa [Sink.pushAll_of_open] using h

lemma publishOrWarn_given (outlets : Outlets) (ended : Bool) (batch : Batch) (complaint : Bytes) :
    Given ended [batch] outlets (outlets.publishOrWarn ended batch complaint) := by
  cases ended with
  | true => simp [Given, publishOrWarn, publish]
  | false =>
    cases hsink : outlets.sink with
    | none => simp [Given, publishOrWarn, publish, hsink]
    | some sink =>
      cases herror : (sink.push batch).2 with
      | none => simp [Given, publishOrWarn, publish, hsink, herror, Sink.pushAll]
      | some error =>
        simp [Given, publishOrWarn, publish, hsink, herror, Sink.pushAll, warn, record]

/-- The log of `after` is that of `before` with entries added, each of which satisfies `P`. -/
def Logs (P : LogEntry → Prop) (before after : Outlets) : Prop :=
  ∃ new, after.log = before.log ++ new ∧ ∀ entry ∈ new, P entry

variable {P : LogEntry → Prop} {first second third : Outlets}

lemma Logs.of_eq (h : second.log = first.log) : Logs P first second :=
  ⟨[], by simp [h], by simp⟩

lemma Logs.refl (outlets : Outlets) : Logs P outlets outlets := .of_eq rfl

lemma Logs.trans (h : Logs P first second) (h' : Logs P second third) : Logs P first third := by
  obtain ⟨new, hnew, hP⟩ := h
  obtain ⟨more, hmore, hP'⟩ := h'
  refine ⟨new ++ more, by rw [hmore, hnew, List.append_assoc], ?_⟩
  intro entry hentry
  rcases List.mem_append.1 hentry with hentry | hentry
  · exact hP entry hentry
  · exact hP' entry hentry

lemma logs_record (outlets : Outlets) (level : LogLevel) (text : Bytes)
    (h : P ⟨outlets.target, level, text⟩) : Logs P outlets (outlets.record level text) :=
  ⟨[⟨outlets.target, level, text⟩], rfl, by simpa using h⟩

/-- A buffer that is open takes every batch of a run that goes on. -/
lemma publishOrWarn_of_open (outlets : Outlets) {held : List Batch}
    (hopen : outlets.sink = some (.buffer held false)) (batch : Batch) (complaint : Bytes) :
    outlets.publishOrWarn false batch complaint
      = { outlets with sink := some (.buffer (held ++ [batch]) false) } := by
  simp [publishOrWarn, publish, hopen, Sink.push]

end Outlets

namespace Reporter

/-- How the warning about an occupied slot begins. -/
def occupiedText : Bytes := utf8 "metric dispatcher: unexpected unprocessed request for "

/-- A log entry that is not the warning about an occupied slot. -/
def NotOccupied (entry : LogEntry) : Prop := ¬ occupiedText <+: entry.text

/-- A text that begins otherwise is not the warning, whatever follows. -/
lemma notOccupied_append {start : Bytes} (h : ¬ occupiedText <+: start)
    (h' : ¬ start <+: occupiedText) (rest : Bytes) (target : LogTarget) (level : LogLevel) :
    NotOccupied ⟨target, level, start ++ rest⟩ := by
  intro hoccupied
  rcases List.prefix_or_prefix_of_prefix hoccupied (List.prefix_append start rest) with hp | hp
  · exact h hp
  · exact h' hp

lemma expected?_sink (r : Reporter) (trip : RoundTrip) (outlets : Outlets) :
    (r.expected? trip outlets).2.sink = outlets.sink := by
  simp only [expected?]
  split
  · rfl
  · split <;> rfl

lemma expected?_logs (r : Reporter) (trip : RoundTrip) (outlets : Outlets) :
    Outlets.Logs NotOccupied outlets (r.expected? trip outlets).2 := by
  simp only [expected?]
  split
  · exact .refl outlets
  · split
    · exact .refl outlets
    · rw [List.append_assoc, List.append_assoc]
      exact outlets.logs_record _ _ (notOccupied_append (by decide) (by decide) _ _ _)

/-- The sink is handed the samples of the report. -/
lemma emit_given (r : Reporter) (ended : Bool) (trip : RoundTrip) (outlets : Outlets) :
    Outlets.Given ended [(r.finish trip).batch] outlets (r.emit ended trip outlets).2 := by
  have hjudged : Outlets.Given ended [] outlets (r.expected? trip outlets).2 :=
    .of_eq (r.expected?_sink trip outlets)
  refine hjudged.trans ?_
  simp only [emit, expected?_fst]
  exact Outlets.publishOrWarn_given _ ended _ _

/-- To emit a round trip to an open buffer is no reason to warn of an occupied slot. -/
lemma emit_logs (r : Reporter) (trip : RoundTrip) (outlets : Outlets) {held : List Batch}
    (hopen : outlets.sink = some (.buffer held false)) :
    Outlets.Logs NotOccupied outlets (r.emit false trip outlets).2 := by
  have hopen' : (r.expected? trip outlets).2.sink = some (.buffer held false) := by
    rw [expected?_sink, hopen]
  refine (r.expected?_logs trip outlets).trans (.of_eq ?_)
  simp only [emit]
  rw [Outlets.publishOrWarn_of_open _ hopen']

end Reporter

end MeteredHttp
