import MeteredHttp.Proofs.Reporter.Emission
import Mathlib.Data.List.Forall2

/-!
# Histories of a reporter

A reporter has one slot, and both `stage` and `drain` can empty it.  Here are arbitrary histories
of calls, with whatever sink and whether or not the run is over.

* `Reporter.call` is one call, `Reporter.calls` a history of them; a `Release` is a round trip that
  left the slot, with the failure that the call offered which took it out.
* `Reporter.call_slot` says what one call does to the slot: what is in it before the call and what
  the call stages is what the call releases and what is in it afterwards.
* **`Reporter.calls_release_in_order`** carries this through every history: no round trip is lost,
  doubled, reordered or given a failure that it should not have.
-/

namespace MeteredHttp

namespace Reporter

/-! ## Calls -/

/-- A call of a reporter; `ended` says whether the run is over by then. -/
inductive Call where
  | stage (ended : Bool) (trip : RoundTrip)
  | drain (ended : Bool) (failure : Option Failure)
  | setJudge (judge : Option Judge)

namespace Call

/-- The round trip that a call puts into the slot. -/
def staged? : Call → Option RoundTrip
  | .stage _ trip => some trip
  | _ => none

/-- The failure that a call offers to the round trip it takes out of the slot. -/
def offered : Call → Option Failure
  | .drain _ failure => failure
  | _ => none

/-- Whether the run is over when the call is made. -/
def ended : Call → Bool
  | .stage ended _ => ended
  | .drain ended _ => ended
  | .setJudge _ => false

end Call

def call (r : Reporter) (outlets : Outlets) : Call → Effect
  | .stage ended trip => r.stage ended trip outlets
  | .drain ended failure => r.drain ended failure outlets
  | .setJudge judge => ⟨r.setJudge judge, outlets, none⟩

/-- A round trip that left the slot, and the failure offered by the call that took it out. -/
structure Release where
  offered : Option Failure
  finished : Finished

/-- What a history of calls leads to. -/
structure History where
  reporter : Reporter
  outlets : Outlets
  /-- What left the slot, the first in front. -/
  released : List Release

/-- Several calls, one after the other. -/
def calls (r : Reporter) (outlets : Outlets) : List Call → History
  | [] => ⟨r, outlets, []⟩
  | c :: rest =>
    let effect := r.call outlets c
    let after := effect.reporter.calls effect.outlets rest
    { after with
      released := effect.finished.toList.map (Release.mk c.offered) ++ after.released }

def Releases (trip : RoundTrip) (release : Release) : Prop :=
  release.finished.Completes trip release.offered

/-! ## One call -/

@[simp] lemma drain_staged (r : Reporter) (ended : Bool) (failure : Option Failure)
    (outlets : Outlets) : (r.drain ended failure outlets).reporter = { r with staged := none } := by
  simp only [drain]
  split
  next h => rw [← h]
  next => rfl

@[simp] lemma stage_staged (r : Reporter) (ended : Bool) (trip : RoundTrip) (outlets : Outlets) :
    (r.stage ended trip outlets).reporter = { r with staged := some trip } := by
  simp only [stage]
  split <;> rfl

/-- What was in the slot and what a call stages is what the call releases and what is in the slot
afterwards, in this order. -/
lemma call_slot (r : Reporter) (outlets : Outlets) (c : Call) :
    ∃ done, r.staged.toList ++ c.staged?.toList
        = done ++ (r.call outlets c).reporter.staged.toList
      ∧ List.Forall₂ Releases done
          ((r.call outlets c).finished.toList.map (Release.mk c.offered)) := by
  cases c with
  | stage ended trip =>
    refine ⟨r.staged.toList, by simp [call, Call.staged?], ?_⟩
    cases hslot : r.staged with
    | none => simp [call, stage, hslot]
    | some previous =>
      simp only [call, stage, hslot, Option.toList_some, List.map_cons, List.map_nil, emit_fst]
      exact .cons (r.finish_completes_none previous) .nil
  | drain ended failure =>
    refine ⟨r.staged.toList, by simp [call, Call.staged?], ?_⟩
    cases hslot : r.staged with
    | none => simp [call, drain, hslot]
    | some trip =>
      simp only [call, drain, hslot, Option.toList_some, List.map_cons, List.map_nil, emit_fst]
      exact .cons (r.finish_completes trip failure) .nil
  | setJudge judge => exact ⟨[], by simp [call, setJudge, Call.staged?], .nil⟩

/-- Any call but one that installs a judge releases what is in the slot, with the failure that it
offers if there was none. -/
lemma call_finished (r : Reporter) (outlets : Outlets) {c : Call}
    (hc : ∀ judge, c ≠ .setJudge judge) :
    (r.call outlets c).finished.map (·.source.failure)
      = r.staged.map fun trip => trip.failure <|> c.offered := by
  cases c with
  | stage ended trip =>
    cases hslot : r.staged with
    | none => simp [call, stage, hslot]
    | some previous =>
      cases hf : previous.failure <;> simp [call, stage, hslot, Call.offered, finish, hf]
  | drain ended failure =>
    cases hslot : r.staged with
    | none => simp [call, drain, hslot]
    | some trip => simp [call, drain, hslot, Call.offered, finish]
  | setJudge judge => exact absurd rfl (hc judge)

/-- A call hands the sink the samples of what it releases. -/
lemma call_given (r : Reporter) (outlets : Outlets) (c : Call) :
    Outlets.Given c.ended ((r.call outlets c).finished.toList.map Finished.batch) outlets
      (r.call outlets c).outlets := by
  cases c with
  | stage ended trip =>
    cases hslot : r.staged with
    | none => simpa [call, stage, hslot] using .of_eq rfl
    | some previous =>
      simp only [call, stage, hslot, Option.toList_some, List.map_cons, List.map_nil, emit_fst]
      exact r.emit_given ended previous _
  | drain ended failure =>
    cases hslot : r.staged with
    | none => simpa [call, drain, hslot] using .of_eq rfl
    | some trip =>
      simp only [call, drain, hslot, Option.toList_some, List.map_cons, List.map_nil, emit_fst]
      exact r.emit_given ended _ outlets
  | setJudge judge => exact .of_eq rfl

/-- Staging into an empty slot is not seen outside. -/
lemma stage_of_empty {r : Reporter} (hslot : r.staged = none) (ended : Bool) (trip : RoundTrip)
    (outlets : Outlets) :
    r.stage ended trip outlets = ⟨{ r with staged := some trip }, outlets, none⟩ := by
  simp [stage, hslot]

/-- To drain a reporter hands over what is in the slot. -/
lemma drain_given (r : Reporter) (ended : Bool) (outlets : Outlets) :
    Outlets.Given ended (r.batchesOf r.staged.toList) outlets
      (r.drain ended none outlets).outlets := by
  have hgiven := r.call_given outlets (.drain ended none)
  cases hslot : r.staged with
  | none => simpa [call, drain, hslot, Call.ended, batchesOf] using hgiven
  | some trip => simpa [call, drain, hslot, Call.ended, batchesOf] using hgiven

lemma drain_sink_of_open (r : Reporter) {outlets : Outlets} {held : List Batch}
    (hopen : outlets.sink = some (.buffer held false)) :
    (r.drain false none outlets).outlets.sink
      = some (.buffer (held ++ r.batchesOf r.staged.toList) false) :=
  (r.drain_given false outlets).sink_of_open hopen

lemma drain_logs (r : Reporter) (failure : Option Failure) {outlets : Outlets} {held : List Batch}
    (hopen : outlets.sink = some (.buffer held false)) :
    Outlets.Logs NotOccupied outlets (r.drain false failure outlets).outlets := by
  simp only [drain]
  split
  · exact .refl outlets
  · exact r.emit_logs _ outlets hopen

/-! ## Histories -/

lemma calls_slot (r : Reporter) (outlets : Outlets) (history : List Call) :
    ∃ done, r.staged.toList ++ history.filterMap Call.staged?
        = done ++ (r.calls outlets history).reporter.staged.toList
      ∧ List.Forall₂ Releases done (r.calls outlets history).released := by
  induction history generalizing r outlets with
  | nil => exact ⟨[], by simp [calls], .nil⟩
  | cons c rest ih =>
    obtain ⟨first, hfirst, hreleased⟩ := r.call_slot outlets c
    obtain ⟨others, hothers, hreleased'⟩ :=
      ih (r.call outlets c).reporter (r.call outlets c).outlets
    refine ⟨first ++ others, ?_, List.rel_append hreleased hreleased'⟩
    calc r.staged.toList ++ (c :: rest).filterMap Call.staged?
        = (r.staged.toList ++ c.staged?.toList) ++ rest.filterMap Call.staged? := by
          cases h : c.staged? <;> simp [h]
      _ = first ++ (others
            ++ ((r.call outlets c).reporter.calls
              (r.call outlets c).outlets rest).reporter.staged.toList) := by
          rw [hfirst, List.append_assoc, hothers]
      _ = (first ++ others) ++ (r.calls outlets (c :: rest)).reporter.staged.toList := by
          rw [List.append_assoc]
          rfl

/-- A history all of which lies before or after the end of the run hands the sink the samples of
what it releases. -/
lemma calls_given (r : Reporter) (outlets : Outlets) {ended : Bool} {history : List Call}
    (hended : ∀ c ∈ history, c.ended = ended) :
    Outlets.Given ended ((r.calls outlets history).released.map (·.finished.batch)) outlets
      (r.calls outlets history).outlets := by
  induction history generalizing r outlets with
  | nil => exact .of_eq rfl
  | cons c rest ih =>
    have hfirst := r.call_given outlets c
    rw [hended c List.mem_cons_self] at hfirst
    have hrest := ih (r.call outlets c).reporter (r.call outlets c).outlets fun c' h =>
      hended c' (List.mem_cons_of_mem c h)
    simp only [calls, List.map_append, List.map_map]
    exact hfirst.trans hrest

lemma calls_sink_of_open (r : Reporter) {outlets : Outlets} {held : List Batch}
    (hopen : outlets.sink = some (.buffer held false)) {history : List Call}
    (hlive : ∀ c ∈ history, c.ended = false) :
    (r.calls outlets history).outlets.sink
      = some (.buffer
          (held ++ (r.calls outlets history).released.map (·.finished.batch)) false) :=
  (r.calls_given outlets hlive).sink_of_open hopen

/-- **Every staged round trip is released once, in order, and whole.**  Whatever calls are made and
whatever becomes of the samples, the round trips that a history stages, behind the one that was in
the slot before, are those that it releases, followed by the one that is in the slot afterwards.
Each is released as it was staged, except that it takes on the failure that was offered if it had
none.  An open buffer gets one batch for each, in the same order, as long as the run goes on. -/
theorem calls_release_in_order (r : Reporter) (outlets : Outlets) (history : List Call) :
    (∃ done, r.staged.toList ++ history.filterMap Call.staged?
        = done ++ (r.calls outlets history).reporter.staged.toList
      ∧ List.Forall₂ Releases done (r.calls outlets history).released)
    ∧ ∀ held, outlets.sink = some (.buffer held false) → (∀ c ∈ history, c.ended = false) →
        (r.calls outlets history).outlets.sink
          = some (.buffer
              (held ++ (r.calls outlets history).released.map (·.finished.batch)) false) :=
  ⟨r.calls_slot outlets history, fun _ hopen hlive => r.calls_sink_of_open hopen hlive⟩

/-- The second round trip displaces the first, and is drained itself. -/
def displacement : List Call :=
  [.stage false { request := { method := utf8 "GET", url := utf8 "http://a/" } },
    .stage false { request := { method := utf8 "GET", url := utf8 "http://b/" } },
    .drain false none]

theorem calls_release_in_order_displacement :
    let after := Reporter.calls { base := {}, enabled := .default } {} displacement
    after.released.length = 2
      ∧ after.outlets.sink = some (.buffer (after.released.map (·.finished.batch)) false) := by
  intro after
  have hlive : ∀ c ∈ displacement, c.ended = false := by
    simp [displacement, Call.ended]
  refine ⟨rfl, ?_⟩
  exact (calls_release_in_order _ {} displacement).2 [] rfl hlive

end Reporter

end MeteredHttp
