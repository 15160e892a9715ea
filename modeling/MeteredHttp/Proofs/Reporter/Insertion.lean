import MeteredHttp.Client
import Mathlib.Tactic.Lemma

/-!
# Nobody reads the log

Reporters write to the log, and none of them looks at what is there.  So an entry that is inserted
somewhere stays where it is, and nothing else is different from then on.

* `Outlets.Inserted` relates outlets that differ in one entry of their logs.
* `Reporter.drain_inserted` and `Reporter.stage_inserted` say that a reporter does the same with
  both, `Client.report_inserted` and `Client.flush_inserted` the same of a client.
-/

namespace MeteredHttp

/-! ## Outlets -/

namespace Outlets

/-- Outlets that have one more entry in their log, behind the entries `before`. -/
def Inserted (before : List LogEntry) (entry : LogEntry) (outlets outlets' : Outlets) : Prop :=
  ∃ later, outlets.log = before ++ later
    ∧ outlets' = { outlets with log := before ++ entry :: later }

variable {before : List LogEntry} {entry : LogEntry} {outlets outlets' : Outlets}

lemma Inserted.record (h : Inserted before entry outlets outlets') (level : LogLevel)
    (text : Bytes) : Inserted before entry (outlets.record level text)
      (outlets'.record level text) := by
  obtain ⟨later, hlog, rfl⟩ := h
  exact ⟨later ++ [⟨outlets.target, level, text⟩], by simp [Outlets.record, hlog],
    by simp [Outlets.record]⟩

lemma Inserted.publish (h : Inserted before entry outlets outlets') (ended : Bool)
    (batch : Batch) :
    (outlets'.publish ended batch).2 = (outlets.publish ended batch).2
      ∧ Inserted before entry (outlets.publish ended batch).1
          (outlets'.publish ended batch).1 := by
  obtain ⟨later, hlog, rfl⟩ := h
  simp only [Outlets.publish]
  split
  · exact ⟨rfl, later, hlog, rfl⟩
  · exact ⟨rfl, later, hlog, rfl⟩

lemma Inserted.publishOrWarn (h : Inserted before entry outlets outlets') (ended : Bool)
    (batch : Batch) (complaint : Bytes) :
    Inserted before entry (outlets.publishOrWarn ended batch complaint)
      (outlets'.publishOrWarn ended batch complaint) := by
  obtain ⟨herror, hpublished⟩ := h.publish ended batch
  rcases hpublish : outlets.publish ended batch with ⟨next, error⟩
  rcases hpublish' : outlets'.publish ended batch with ⟨next', error'⟩
  simp only [hpublish, hpublish'] at herror hpublished
  subst herror
  simp only [Outlets.publishOrWarn, hpublish, hpublish']
  cases error' with
  | none => exact hpublished
  | some error => exact hpublished.record _ _

end Outlets

open Outlets (Inserted)

variable {before : List LogEntry} {entry : LogEntry} {outlets outlets' : Outlets}

/-! ## Reporters -/

namespace Reporter

lemma expected?_inserted (r : Reporter) (trip : RoundTrip)
    (h : Inserted before entry outlets outlets') :
    (r.expected? trip outlets').1 = (r.expected? trip outlets).1
      ∧ Inserted before entry (r.expected? trip outlets).2 (r.expected? trip outlets').2 := by
  simp only [expected?]
  split
  · exact ⟨rfl, h⟩
  · split
    · exact ⟨rfl, h⟩
    · exact ⟨rfl, h.record _ _⟩

lemma emit_inserted (r : Reporter) (ended : Bool) (trip : RoundTrip)
    (h : Inserted before entry outlets outlets') :
    Inserted before entry (r.emit ended trip outlets).2 (r.emit ended trip outlets').2 := by
  obtain ⟨hexpected, hjudged⟩ := r.expected?_inserted trip h
  simp only [emit, hexpected]
  exact hjudged.publishOrWarn _ _ _

lemma drain_inserted (r : Reporter) (ended : Bool) (failure : Option Failure)
    (h : Inserted before entry outlets outlets') :
    (r.drain ended failure outlets').reporter = (r.drain ended failure outlets).reporter
      ∧ Inserted before entry (r.drain ended failure outlets).outlets
          (r.drain ended failure outlets').outlets := by
  simp only [drain]
  split
  · exact ⟨rfl, h⟩
  · exact ⟨rfl, r.emit_inserted ended _ h⟩

lemma stage_inserted (r : Reporter) (ended : Bool) (trip : RoundTrip)
    (h : Inserted before entry outlets outlets') :
    (r.stage ended trip outlets').reporter = (r.stage ended trip outlets).reporter
      ∧ Inserted before entry (r.stage ended trip outlets).outlets
          (r.stage ended trip outlets').outlets := by
  simp only [stage]
  split
  · exact ⟨rfl, h⟩
  · exact ⟨rfl, r.emit_inserted ended _ (h.record _ _)⟩

end Reporter

/-! ## Clients -/

namespace Client

lemma complain_inserted (d : Definition) (what : String) (failure : Failure)
    (h : Inserted before entry outlets outlets') :
    Inserted before entry (complain d what failure outlets)
      (complain d what failure outlets') := by
  simp only [complain]
  split
  · exact h
  · exact h.record _ _

lemma reportFailure_inserted (d : Definition) (result : Transfer.Result) (failure : Failure)
    (ended : Bool) (r : Reporter) (h : Inserted before entry outlets outlets') :
    (reportFailure d result failure ended r outlets').1
        = (reportFailure d result failure ended r outlets).1
      ∧ Inserted before entry (reportFailure d result failure ended r outlets).2
          (reportFailure d result failure ended r outlets').2 := by
  simp only [reportFailure]
  split
  · obtain ⟨hreporter, hdrained⟩ := r.drain_inserted ended (some failure) h
    exact ⟨hreporter, complain_inserted d _ failure hdrained⟩
  · exact ⟨rfl, complain_inserted d _ failure h⟩

lemma report_inserted (d : Definition) (method : Method) (result : Transfer.Result)
    (measured : Measured) (ended : Bool) (r : Reporter)
    (h : Inserted before entry outlets outlets') :
    (report d method result measured ended r outlets').1
        = (report d method result measured ended r outlets).1
      ∧ Inserted before entry (report d method result measured ended r outlets).2
          (report d method result measured ended r outlets').2 := by
  obtain ⟨hreporter, hdrained⟩ := r.drain_inserted ended none h
  obtain ⟨hreporter', hstaged⟩ := Reporter.stage_inserted (r.drain ended none outlets).reporter
    ended (roundTrip d method result measured) hdrained
  simp only [report, hreporter]
  split
  · exact ⟨hreporter', hstaged⟩
  · rw [hreporter']
    exact reportFailure_inserted d result _ ended _ hstaged

/-- A client that reports what is staged is left in the same state, and so is the run. -/
lemma flush_inserted (c : Client) (run : RunContext)
    (h : Inserted before entry run.outlets outlets') :
    (c.flush { run with outlets := outlets' }).1 = (c.flush run).1
      ∧ ∃ next, (c.flush { run with outlets := outlets' }).2
            = { (c.flush run).2 with outlets := next }
          ∧ Inserted before entry (c.flush run).2.outlets next := by
  obtain ⟨hreporter, hdrained⟩ := c.reporter.drain_inserted run.ended none h
  simp only [flush, hreporter, true_and]
  exact ⟨_, rfl, hdrained⟩

lemma reportTransmission_inserted (d : Definition) (method : Method)
    (transmission : Definition.Transmission) (measured : Measured) (c : Client)
    (run : RunContext) (h : Inserted before entry run.outlets outlets') :
    let reported := reportTransmission d method transmission measured c run
    let reported' :=
      reportTransmission d method transmission measured c { run with outlets := outlets' }
    reported'.1 = reported.1
      ∧ ∃ next, reported'.2 = { reported.2 with outlets := next }
          ∧ Inserted before entry reported.2.outlets next := by
  cases transmission with
  | unrewound reason => exact ⟨rfl, _, rfl, h.record _ _⟩
  | performed result wire =>
    obtain ⟨hreporter, hreported⟩ :=
      report_inserted d method result measured run.ended c.reporter h
    simp only [reportTransmission, hreporter, true_and]
    exact ⟨_, rfl, hreported⟩

end Client

end MeteredHttp
