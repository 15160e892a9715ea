import MeteredHttp.Proofs.Run.Agreement
import MeteredHttp.Proofs.Run.Raising

/-!
# The type of bodies

A definition says what is to become of the body of a response.  The body is received whatever it
says, and handed on or not when everything else is over.

**One run.**  `Transfer.Result.Received` is what a transfer says of the body that it received.
`Run.body_of_response` says which responses have it as their body.

**Two runs.**  `Run.retyping` changes the types of any definitions of a run.  By
**`Run.type_affects_body_only`** the responses differ in their bodies and types, and nothing else
differs, after any history.
-/

namespace MeteredHttp

open Transfer (Exchange)
open Reporter (Sending)

/-! ## What was received -/

/-- A result of a transfer that received a body: it is counted in full, and kept if it is wanted. -/
structure Transfer.Result.Received (chunks : List Bytes) (type : ResponseType)
    (r : Transfer.Result) : Prop where
  counted : r.bytesReceived = (chunks.map List.length).sum
  kept : type ≠ .none → r.body = chunks.flatten

/-- A response of a type and a status that go with a body. -/
structure Response.Bears (response : Response) : Prop where
  type : response.type ≠ .none
  informational : ¬(100 ≤ response.status ∧ response.status ≤ 199)
  noContent : response.status ≠ 204
  notModified : response.status ≠ 304

lemma Response.bears_iff (response : Response) :
    response.Bears ↔ ¬(response.type = .none ∨ lacksContent response.status = true) := by
  constructor
  · rintro ⟨htype, hinformational, hnoContent, hnotModified⟩
    simp [htype, lacksContent, hinformational, hnoContent, hnotModified]
  · intro h
    simp only [lacksContent, Bool.or_eq_true, decide_eq_true_eq, beq_iff_eq, not_or] at h
    exact ⟨h.1, h.2.1.1, h.2.1.2, h.2.2⟩

lemma Transport.perform_received (t : Transport) (h : Handle) (sources : Sources)
    (type : ResponseType) (exchange : Exchange) :
    let p := t.perform h sources type exchange
    (p.wire = none → p.result.rejection.isSome = true)
      ∧ (p.wire.isSome = true → p.result.Received exchange.chunks type) := by
  simp only [perform]
  split
  · exact ⟨fun _ => rfl, by simp⟩
  · refine ⟨by simp, fun _ => ⟨List.length_flatten, ?_⟩⟩
    intro htype
    exact if_neg htype

namespace Definition

lemma send_received {d : Definition} {t : Transport} {sources : Sources} {method : Method}
    {exchange : Exchange} {result : Transfer.Result} {wire : Option Transfer.Wire}
    (h : (d.send t sources method exchange).transmission = .performed result wire) :
    (wire = none → result.rejection.isSome = true)
      ∧ (wire.isSome = true → result.Received exchange.chunks d.options.responseType) := by
  simp only [send] at h
  split at h
  · cases h
  · cases h
    exact t.perform_received _ _ _ exchange

/-- Definitions that differ in what is to become of bodies. -/
def retyping (type : ResponseType) (d : Definition) : Definition :=
  { d with options := { d.options with responseType := type } }

end Definition

namespace Reporter.Sending

/-- What becomes of the body of a response.  It is counted whatever its type is.  If nothing failed
it is handed on in full wherever there is to be one, and if something failed nothing of it is. -/
structure Surfaces (s : Sending) (chunks : List Bytes) (wire : Option Transfer.Wire)
    (response : Response) : Prop where
  type : response.type = s.definition.options.responseType
  counted : wire.isSome = true → s.result.bytesReceived = (chunks.map List.length).sum
  sent : s.failure? = none → wire.isSome = true
  whole : s.failure? = none →
    ∀ body, response.body = some body ↔ response.Bears ∧ body = chunks.flatten
  failed : s.failure? ≠ none → response.body = none

variable {s : Sending} {chunks : List Bytes} {wire : Option Transfer.Wire}

lemma body_of_whole (h : s.result.Received chunks s.definition.options.responseType)
    (body : Bytes) :
    let response := s.definition.wholeResponse s.result
    response.body = some body ↔ response.Bears ∧ body = chunks.flatten := by
  intro response
  rw [response.bears_iff]
  have hbody : response.body
      = if response.type = .none ∨ Response.lacksContent response.status then none
        else some s.result.body := rfl
  rw [hbody]
  split
  next hlacks => simp [hlacks]
  next hbears =>
    obtain ⟨htype, -⟩ := not_or.1 hbears
    rw [h.kept htype, Option.some.injEq]
    exact ⟨fun heq => ⟨hbears, heq.symm⟩, fun heq => heq.2.symm⟩

/-- Of a body that failed nothing is handed on. -/
lemma returned_body (d : Definition) (r : Transfer.Result) (failure : Failure) :
    (d.returned r failure).body = none
      ∧ (d.returned r failure).type = d.options.responseType := by
  simp only [Definition.returned]
  split <;> exact ⟨rfl, rfl⟩

lemma surfaces {response : Response} (houtcome : s.outcome = .response response)
    (hrefused : wire = none → s.result.rejection.isSome = true)
    (hreceived : wire.isSome = true →
      s.result.Received chunks s.definition.options.responseType) :
    s.Surfaces chunks wire response := by
  cases hfailure : s.failure? with
  | none =>
    -- A refused host would have been a failure.
    have hsent : wire.isSome = true := by
      rw [Option.isSome_iff_ne_none]
      intro hwire
      obtain ⟨rejection, hrejection⟩ := Option.isSome_iff_exists.1 (hrefused hwire)
      have hfails : s.failure? = some _ := Definition.failure?_of_rejection hrejection
      rw [hfailure] at hfails
      cases hfails
    rw [outcome_of_whole hfailure] at houtcome
    obtain rfl := Definition.Outcome.response.inj houtcome
    refine ⟨rfl, fun h => (hreceived h).counted, fun _ => hsent, fun _ => ?_, ?_⟩
    · exact body_of_whole (hreceived hsent)
    · exact fun hfails => absurd hfailure hfails
  | some failure =>
    have hreturned : s.outcome = _ := Definition.outcome_of_failure hfailure
    rw [hreturned, Definition.deliver] at houtcome
    split at houtcome
    · cases houtcome
    · obtain rfl := Definition.Outcome.response.inj houtcome
      obtain ⟨hbody, htype⟩ := returned_body s.definition s.result failure
      refine ⟨htype, fun h => (hreceived h).counted, ?_, ?_, fun _ => hbody⟩
      · exact fun hwhole => absurd (hfailure.symm.trans hwhole) (by simp)
      · exact fun hwhole => absurd (hfailure.symm.trans hwhole) (by simp)

end Reporter.Sending

/-! ## What is shown -/

/-- Responses that differ in their bodies and in their types at most. -/
def Response.SameButBody (response response' : Response) : Prop :=
  response' = { response with body := response'.body, type := response'.type }

/-- What two steps show that differ in this at most. -/
inductive Shown.SameButBody : Shown → Shown → Prop
  | same (shown : Shown) : SameButBody shown shown
  | response {response response' : Response} (h : response.SameButBody response')
      (wire : Option Transfer.Wire) :
    SameButBody (.sent (.response response) wire) (.sent (.response response') wire)

lemma Shown.exists_of_status? {shown : Shown} {status : Int} (h : shown.status? = some status) :
    ∃ response wire, shown = .sent (.response response) wire ∧ response.status = status := by
  cases shown with
  | sent outcome wire =>
    cases outcome with
    | response response => exact ⟨response, wire, rfl, Option.some.inj h⟩
    | raised failure => cases h
    | unrewound reason => cases h
  | nothing => cases h
  | rejected error => cases h

namespace Definition

variable {d d' : Definition} {r r' : Transfer.Result}

lemma SameRequest.wholeResponse_sameButBody (h : d.SameRequest d')
    (hhead : r' = { r with body := r'.body }) :
    (d.wholeResponse r).SameButBody (d'.wholeResponse r') := by
  rw [Response.SameButBody, hhead]
  simp only [Definition.wholeResponse, responseHead, h.url]
  rfl

lemma SameRequest.returned_sameButBody (h : d.SameRequest d')
    (hhead : r' = { r with body := r'.body }) (failure : Failure) :
    (d.returned r failure).SameButBody (d'.returned r' failure) := by
  have hcut : r'.failedInBody = r.failedInBody := by
    rw [hhead]
    rfl
  simp only [Definition.returned, hcut]
  split
  · rw [Response.SameButBody, hhead]
    simp only [cutResponse, responseHead, h.url]
    rfl
  · simp only [Response.SameButBody, failedResponse, h.url]

end Definition

namespace Run

/-- The run whose definitions want of bodies what `types` says. -/
def retyping (types : Nat → ResponseType) (run : Run) : Run :=
  { run with definitions := run.definitions.mapIdx fun j d => d.retyping (types j) }

variable {run : Run} {types : Nat → ResponseType} {history : List Step}

/-- To change a type is not seen in what is sent. -/
lemma lockstep_retyping (run : Run) (types : Nat → ResponseType) :
    Lockstep run (run.retyping types) := by
  refine ⟨⟨rfl, rfl, rfl, rfl⟩, rfl, rfl, ?_, rfl⟩
  intro j
  simp only [retyping, List.getElem?_mapIdx]
  cases run.definitions[j]? with
  | none => exact .none
  | some d => exact .some ⟨rfl, rfl, rfl, rfl, rfl, rfl, rfl, rfl⟩

lemma throwOnError_retyping {j : Nat} {d d' : Definition}
    (h : (run.steps history).2.definitions[j]? = some d)
    (h' : ((run.retyping types).steps history).2.definitions[j]? = some d') :
    d'.options.throwOnError = d.options.throwOnError := by
  obtain ⟨first, hfirst, heq⟩ := Option.map_eq_some_iff.1 (options_of_mem_steps h)
  have hoptions := options_of_mem_steps h'
  simp only [retyping, List.getElem?_mapIdx, hfirst, Option.map_some, Option.some.injEq,
    Definition.retyping] at hoptions
  rw [← hoptions, ← heq]

/-- Sends that went alike are answered alike, if their failures are delivered alike. -/
lemma sameButBody_of_alike {s s' : Sending} (h : s.Alike s')
    (hthrow : s'.definition.options.throwOnError = s.definition.options.throwOnError)
    (wire : Option Transfer.Wire) :
    Shown.SameButBody (.sent s.outcome wire) (.sent s'.outcome wire) := by
  have hfailure' := h.failure?
  cases hfailure : s.failure? with
  | none =>
    rw [hfailure] at hfailure'
    rw [Sending.outcome_of_whole hfailure, Sending.outcome_of_whole hfailure']
    exact .response (h.definition.wholeResponse_sameButBody h.result.head) wire
  | some failure =>
    rw [hfailure] at hfailure'
    have houtcome : s.outcome = _ := Definition.outcome_of_failure hfailure
    have houtcome' : s'.outcome = _ := Definition.outcome_of_failure hfailure'
    rw [houtcome, houtcome', hthrow]
    simp only [Definition.deliver]
    split
    · exact .same _
    · exact .response (h.definition.returned_sameButBody h.result.head failure) wire

lemma ShowsAlike.sameButBody {step : Step} {shown shown' : Shown}
    (h : ShowsAlike (run.steps history).2 ((run.retyping types).steps history).2 step shown
      shown') :
    shown.SameButBody shown' := by
  cases h with
  | performed hs hd hd' _ wire => exact sameButBody_of_alike hs (throwOnError_retyping hd hd') wire
  | other shown _ => exact .same shown

/-- **What becomes of the body** of a response that a send shows. -/
lemma body_of_response {run : Run} {i j : Nat} {method : Method} {exchange : Exchange}
    {measured : Measured} {response : Response} {wire : Option Transfer.Wire}
    (h : (run.step (.send i j method exchange measured)).1 = .sent (.response response) wire) :
    ∃ s : Sending, run.event (.send i j method exchange measured) = .performed i s
      ∧ run.definitions[j]? = some s.definition
      ∧ s.Surfaces exchange.chunks wire response := by
  obtain ⟨c, d, hc, hd, hshown⟩ := exists_of_step_sent h
  cases hsent : (d.send c.transport run.sources method exchange).transmission with
  | unrewound reason =>
    rw [hsent] at hshown
    cases hshown
  | performed result wire' =>
    rw [hsent] at hshown
    obtain ⟨houtcome, rfl⟩ := Shown.sent.inj hshown
    obtain ⟨hrefused, hreceived⟩ := Definition.send_received hsent
    refine ⟨⟨d, method, result, measured⟩, ?_, hd,
      Sending.surfaces houtcome hrefused hreceived⟩
    simp only [event, action, hc, hd, Action.event, hsent]

/-- **The type of bodies affects nothing but bodies.**  Of two runs the one is the other with the
types of bodies changed in any of the definitions.  After any history of steps and for any further
step:

* the sinks hold the same, so that the step emitted the same batches in both;
* as many handles wait in the pool of each definition;
* the same was sent;
* the two show the same, failures that are raised among it, or else responses that differ in their
  bodies and types; and
* a response has a body as `Sending.Surfaces` says, for what the peer sent in the exchange. -/
theorem type_affects_body_only (run : Run) (types : Nat → ResponseType) (history : List Step)
    (step : Step) :
    let before := (run.steps history).2
    let after := before.step step
    let after' := ((run.retyping types).steps history).2.step step
    after'.2.context.outlets.sink = after.2.context.outlets.sink
      ∧ after'.2.requests.poolSizes = after.2.requests.poolSizes
      ∧ after'.1.wire? = after.1.wire?
      ∧ after.1.SameButBody after'.1
      ∧ ∀ i j method exchange measured response wire,
          step = .send i j method exchange measured →
          after.1 = .sent (.response response) wire →
          ∃ s : Sending, before.event step = .performed i s
            ∧ before.definitions[j]? = some s.definition
            ∧ s.Surfaces exchange.chunks wire response := by
  intro before after after'
  have hbefore : Lockstep before ((run.retyping types).steps history).2 :=
    (lockstep_retyping run types).steps history
  obtain ⟨hafter, hshows⟩ := hbefore.step step
  refine ⟨hafter.context.sink, hafter.poolSizes, hshows.wire?, hshows.sameButBody, ?_⟩
  rintro i j method exchange measured response wire rfl hshown
  exact body_of_response hshown

/-- A body that is received in two pieces is handed on in one, and where none is wanted nothing else
changes. -/
theorem type_affects_body_only_pieces :
    let exchange : Exchange := { status := 200, chunks := [utf8 "he", utf8 "llo"] }
    let step : Step := .send 0 0 .get exchange {}
    let shown := ((lone.steps [.create {}]).2.step step).1
    let shown' := (((lone.retyping fun _ => .none).steps [.create {}]).2.step step).1
    (∃ response wire, shown = .sent (.response response) wire
        ∧ response.body = some (utf8 "hello"))
      ∧ shown.SameButBody shown' := by
  intro exchange step shown shown'
  obtain ⟨-, -, -, hsame, hbody⟩ :=
    type_affects_body_only lone (fun _ => .none) [.create {}] step
  refine ⟨?_, hsame⟩
  have hstatus : shown.status? = some 200 := by decide +kernel
  have hwhole : ((lone.steps [.create {}]).2.failure? step).isNone = true := by decide +kernel
  have htype : ((lone.steps [.create {}]).2.definitions[0]?).map (·.options.responseType)
      = some .text := by decide +kernel
  obtain ⟨response, wire, hshown, hresponse⟩ := Shown.exists_of_status? hstatus
  obtain ⟨s, hevent, hd, hsurfaces⟩ := hbody 0 0 .get exchange {} response wire rfl hshown
  have hfailure : s.failure? = none := by simpa [failure?, hevent] using hwhole
  have hbears : response.Bears := by
    rw [hd, Option.map_some, ← hsurfaces.type, Option.some.injEq] at htype
    refine ⟨?_, ?_, ?_, ?_⟩ <;> simp [htype, hresponse]
  exact ⟨response, wire, hshown, (hsurfaces.whole hfailure _).2 ⟨hbears, by decide⟩⟩

end Run

end MeteredHttp
