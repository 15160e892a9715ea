import MeteredHttp.Proofs.Run.Lockstep

/-!
# Raised failures

A definition can have its failures raised instead of getting them in a response.  By then the round
trip has been staged, and if its body failed it has been reported, so that this is a matter between
the send and its caller.

`Run.raising` switches the option on and off in any definitions of a run, `Run.Delivered` is what
this does to what a send shows, and **`Run.raising_changes_delivery_only`** says that it does
nothing else, after any history.
-/

namespace MeteredHttp

open Reporter (Sending)

namespace Definition

def raising (wants : Bool) (d : Definition) : Definition :=
  { d with options := { d.options with throwOnError := wants } }

/-- A failure as its caller gets it: raised, or in a response. -/
def deliver (raises : Bool) (failure : Failure) (response : Response) : Outcome :=
  if raises then .raised failure else .response response

/-- The response that a failure is returned in. -/
def returned (d : Definition) (r : Transfer.Result) (failure : Failure) : Response :=
  if r.failedInBody then d.cutResponse r failure else d.failedResponse failure

variable {d d' : Definition} {r : Transfer.Result} {method : Method} {failure : Failure}

lemma outcome_of_failure (h : d.failure? method r = some failure) :
    d.outcome method r = deliver d.options.throwOnError failure (d.returned r failure) := by
  simp only [outcome, h, deliver, returned]
  split
  · rfl
  · split <;> rfl

lemma returned_code (d : Definition) (r : Transfer.Result) (failure : Failure) :
    (d.returned r failure).code = failure.classify.code
      ∧ (d.returned r failure).error = failure.classify.message := by
  simp only [returned]
  split <;> exact ⟨rfl, rfl⟩

/-- The response to a failed round trip does not depend on whether it is raised. -/
lemma SameRequest.returned (h : d.SameRequest d')
    (htype : d'.options.responseType = d.options.responseType) (r : Transfer.Result)
    (failure : Failure) : d'.returned r failure = d.returned r failure := by
  simp only [Definition.returned, cutResponse, responseHead, failedResponse, h.url, htype]

lemma SameRequest.wholeResponse (h : d.SameRequest d')
    (htype : d'.options.responseType = d.options.responseType) (r : Transfer.Result) :
    d'.wholeResponse r = d.wholeResponse r := by
  simp only [Definition.wholeResponse, responseHead, h.url, htype]

end Definition

namespace Run

open Definition (deliver)

/-- The run whose definitions raise their failures where `wants` says so. -/
def raising (wants : Nat → Bool) (run : Run) : Run :=
  { run with definitions := run.definitions.mapIdx fun j d => d.raising (wants j) }

/-- Whether a failure of a step is raised. -/
def raises (run : Run) : Step → Bool
  | .send _ j _ _ _ => (run.definitions[j]?).any (·.options.throwOnError)
  | _ => false

/-- The failure of the round trip of a step, if it makes one that fails. -/
def failure? (run : Run) (step : Step) : Option Failure :=
  match run.event step with
  | .performed _ s => s.failure?
  | _ => none

/-- What a step shows in two runs which differ in whether its failure is raised.  If there is no
failure they show the same.  Otherwise the same request was sent, and one and the same failure is
raised with the code and the message that are returned where it is not. -/
inductive Delivered (raises raises' : Bool) : Option Failure → Shown → Shown → Prop
  | unfailed (shown : Shown) : Delivered raises raises' none shown shown
  | failed (failure : Failure) (response : Response) (wire : Option Transfer.Wire)
      (code : response.code = failure.classify.code)
      (error : response.error = failure.classify.message) :
    Delivered raises raises' (some failure) (.sent (deliver raises failure response) wire)
      (.sent (deliver raises' failure response) wire)

variable {run : Run} {wants : Nat → Bool} {history : List Step} {j : Nat} {d d' : Definition}

/-- Whether failures are raised is decided in the beginning. -/
lemma raises_eq (h : (run.steps history).2.definitions[j]? = some d) (i : Nat) (method : Method)
    (exchange : Transfer.Exchange) (measured : Measured) :
    run.raises (.send i j method exchange measured) = d.options.throwOnError := by
  have hoptions := options_of_mem_steps h
  obtain ⟨first, hfirst, heq⟩ := Option.map_eq_some_iff.1 hoptions
  simp [raises, hfirst, heq]

lemma responseType_raising (h : (run.steps history).2.definitions[j]? = some d)
    (h' : ((run.raising wants).steps history).2.definitions[j]? = some d') :
    d'.options.responseType = d.options.responseType := by
  obtain ⟨first, hfirst, heq⟩ := Option.map_eq_some_iff.1 (options_of_mem_steps h)
  have hoptions := options_of_mem_steps h'
  simp only [raising, List.getElem?_mapIdx, hfirst, Option.map_some, Option.some.injEq,
    Definition.raising] at hoptions
  rw [← hoptions, ← heq]

/-- Sends that went alike differ in the delivery of their failure. -/
lemma delivered_of_alike {s s' : Sending} (h : s.Alike s')
    (htype : s'.definition.options.responseType = s.definition.options.responseType)
    (wire : Option Transfer.Wire) :
    Delivered s.definition.options.throwOnError s'.definition.options.throwOnError s.failure?
      (.sent s.outcome wire) (.sent s'.outcome wire) := by
  have hresult : s'.result = s.result := h.result.same htype
  have hfailure' := h.failure?
  cases hfailure : s.failure? with
  | none =>
    rw [hfailure] at hfailure'
    rw [Sending.outcome_of_whole hfailure, Sending.outcome_of_whole hfailure', hresult,
      h.definition.wholeResponse htype]
    exact .unfailed _
  | some failure =>
    rw [hfailure] at hfailure'
    have houtcome : s.outcome = _ := Definition.outcome_of_failure hfailure
    have houtcome' : s'.outcome = _ := Definition.outcome_of_failure hfailure'
    rw [houtcome, houtcome', hresult, h.definition.returned htype]
    obtain ⟨hcode, herror⟩ := s.definition.returned_code s.result failure
    exact .failed failure _ wire hcode herror

/-- To switch the option is not seen in what is sent. -/
lemma lockstep_raising (run : Run) (wants : Nat → Bool) : Lockstep run (run.raising wants) := by
  refine ⟨⟨rfl, rfl, rfl, rfl⟩, rfl, rfl, ?_, rfl⟩
  intro j
  simp only [raising, List.getElem?_mapIdx]
  cases run.definitions[j]? with
  | none => exact .none
  | some d => exact .some ⟨rfl, rfl, rfl, rfl, rfl, rfl, rfl, rfl⟩

lemma ShowsAlike.delivered {step : Step} {shown shown' : Shown}
    (h : ShowsAlike (run.steps history).2 ((run.raising wants).steps history).2 step shown shown') :
    Delivered (run.raises step) ((run.raising wants).raises step)
      ((run.steps history).2.failure? step) shown shown' := by
  cases h with
  | performed hs hd hd' hevent wire =>
    rw [raises_eq hd, raises_eq hd', failure?, hevent]
    exact delivered_of_alike hs (responseType_raising hd hd') wire
  | other shown hevent =>
    have hfailure : (run.steps history).2.failure? step = none := by
      rw [failure?]
      split
      next i s hperformed => exact absurd hperformed (hevent i s)
      next => rfl
    rw [hfailure]
    exact .unfailed shown

/-- **Raising a failure changes nothing but its delivery.**  Of two runs the one is the other with
the option to raise failures switched on or off in any of the definitions.  After any history of
steps and for any further step:

* the sinks hold the same, so that the step emitted the same batches in both;
* as many handles wait in the pool of each definition;
* the same was sent; and
* the two show the same unless the round trip failed, and then they show the same failure as
  `Delivered` says. -/
theorem raising_changes_delivery_only (run : Run) (wants : Nat → Bool) (history : List Step)
    (step : Step) :
    let before := (run.steps history).2
    let after := before.step step
    let after' := ((run.raising wants).steps history).2.step step
    after'.2.context.outlets.sink = after.2.context.outlets.sink
      ∧ after'.2.requests.poolSizes = after.2.requests.poolSizes
      ∧ after'.1.wire? = after.1.wire?
      ∧ Delivered (run.raises step) ((run.raising wants).raises step) (before.failure? step)
          after.1 after'.1 := by
  intro before after after'
  have hbefore : Lockstep before ((run.raising wants).steps history).2 :=
    (lockstep_raising run wants).steps history
  obtain ⟨hafter, hshows⟩ := hbefore.step step
  exact ⟨hafter.context.sink, hafter.poolSizes, hshows.wire?, hshows.delivered⟩

end Run

end MeteredHttp
