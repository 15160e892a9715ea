import MeteredHttp.Proofs.Run.Candidates
import MeteredHttp.Proofs.Run.Event
import MeteredHttp.Proofs.Run.Independence

/-!
# Runs in lockstep

Some options of a definition say what to send, the others what to do with the response: whether a
failure is raised and what becomes of the body.  Two runs that differ in the latter alone take the
same steps.

**Sends.**  `Definition.SameRequest` relates two definitions, and `SameRequest.send` says that they
are sent alike: nothing but the body of the result can differ.  What is reported of the sends does
not differ at all (`Sending.Alike.wholeTrip`).

**Runs.**  The options of a definition never change (`Run.options_steps`).  `Run.Lockstep` relates
two runs, whose logs may differ.  By **`Run.Lockstep.step`** a step keeps it, and what the two show
are the outcomes of sends that went alike; `Run.Lockstep.steps` is the same for a history.
-/

namespace MeteredHttp

open Transfer (Exchange)
open Reporter (Sending)

/-! ## Definitions -/

/-- Options that ask for the same request, whatever is done with the response. -/
structure RequestOptions.SameRequest (o o' : RequestOptions) : Prop where
  disableKeepAlive : o'.disableKeepAlive = o.disableKeepAlive
  host : o'.host = o.host
  headers : o'.headers = o.headers
  body : o'.body = o.body
  tags : o'.tags = o.tags

/-- Results that can differ in the body alone, and in nothing if the same is to be done with it. -/
structure Transfer.Result.SameHead (type type' : ResponseType) (r r' : Transfer.Result) :
    Prop where
  head : r' = { r with body := r'.body }
  same : type' = type → r' = r

lemma Transport.perform_sameHead (t : Transport) (h : Handle) (sources : Sources)
    (type type' : ResponseType) (exchange : Exchange) :
    ∃ r', t.perform h sources type' exchange
        = { t.perform h sources type exchange with result := r' }
      ∧ (t.perform h sources type exchange).result.SameHead type type' r' := by
  refine ⟨(t.perform h sources type' exchange).result, ?_, ?_, ?_⟩
  · simp only [perform]
    split <;> rfl
  · simp only [perform]
    split <;> rfl
  · rintro rfl
    rfl

namespace Definition

/-- Definitions of the same request with the same handles. -/
structure SameRequest (d d' : Definition) : Prop where
  url : d'.url = d.url
  payload : d'.payload = d.payload
  pool : d'.pool = d.pool
  options : d.options.SameRequest d'.options

inductive Transmission.Alike (type type' : ResponseType) : Transmission → Transmission → Prop
  | unrewound (reason : Bytes) : Alike type type' (.unrewound reason) (.unrewound reason)
  | performed {r r' : Transfer.Result} (h : r.SameHead type type' r')
      (wire : Option Transfer.Wire) :
    Alike type type' (.performed r wire) (.performed r' wire)

variable {d d' : Definition}

lemma SameRequest.handleFor (h : d.SameRequest d') (t : Transport) :
    d'.handleFor t = d.handleFor t := by
  have haddress : ∀ handle, d'.address handle = d.address handle := by
    intro handle
    simp only [address, h.url, h.options.host, h.options.headers]
  simp only [Definition.handleFor, h.pool, haddress]

lemma SameRequest.prepare (h : d.SameRequest d') (method : Method) (handle : Handle) :
    d'.prepare method handle = d.prepare method handle := by
  simp only [Definition.prepare, h.options.disableKeepAlive]

lemma SameRequest.loadBody (h : d.SameRequest d') (method : Method) (handle : Handle)
    (sources : Sources) : d'.loadBody method handle sources = d.loadBody method handle sources := by
  simp only [Definition.loadBody, h.payload]

/-- Definitions of the same request are sent alike. -/
lemma SameRequest.send (h : d.SameRequest d') (t : Transport) (sources : Sources) (method : Method)
    (exchange : Exchange) :
    let sent := d.send t sources method exchange
    let sent' := d'.send t sources method exchange
    sent.definition.SameRequest sent'.definition ∧ sent'.sources = sent.sources
      ∧ sent.transmission.Alike d.options.responseType d'.options.responseType
          sent'.transmission := by
  simp only [Definition.send, h.handleFor, h.prepare, h.loadBody]
  split
  next reason _ => exact ⟨⟨h.url, h.payload, rfl, h.options⟩, rfl, .unrewound reason⟩
  next handle sources _ =>
    obtain ⟨r', hperform, hresult⟩ := t.perform_sameHead handle sources d.options.responseType
      d'.options.responseType exchange
    rw [hperform]
    exact ⟨⟨h.url, h.payload, rfl, h.options⟩, rfl, .performed hresult _⟩

end Definition

/-! ## Reports -/

namespace Reporter.Sending

/-- Sends of the same request that went the same way. -/
structure Alike (s s' : Sending) : Prop where
  definition : s.definition.SameRequest s'.definition
  method : s'.method = s.method
  result : s.result.SameHead s.definition.options.responseType s'.definition.options.responseType
    s'.result
  measured : s'.measured = s.measured

variable {s s' : Sending}

lemma Alike.failure? (h : s.Alike s') : s'.failure? = s.failure? := by
  simp only [Sending.failure?, Definition.failure?, h.method, h.definition.url]
  rw [h.result.head]
  rfl

lemma Alike.cut (h : s.Alike s') : s'.cut = s.cut := by
  rw [Sending.cut, h.result.head]
  rfl

/-- The reports of the two cannot be told apart. -/
lemma Alike.wholeTrip (h : s.Alike s') : s'.wholeTrip = s.wholeTrip := by
  simp only [Sending.wholeTrip, Sending.trip, Client.roundTrip, h.failure?, h.method, h.measured,
    h.definition.url, h.definition.options.tags]
  rw [h.result.head]
  rfl

lemma Alike.left? (h : s.Alike s') : s'.left? = s.left? := by
  simp only [Sending.left?, h.cut, h.wholeTrip]

lemma Alike.reported (h : s.Alike s') (before : Option RoundTrip) :
    s'.reported before = s.reported before := by
  simp only [Sending.reported, h.cut, h.wholeTrip]

end Reporter.Sending

/-- Surroundings that differ in nothing but what was logged. -/
structure RunContext.SameButLog (context context' : RunContext) : Prop where
  enabled : context'.enabled = context.enabled
  base : context'.base = context.base
  ended : context'.ended = context.ended
  sink : context'.outlets.sink = context.outlets.sink

/-- Equal sinks that are handed the same stay equal. -/
lemma Outlets.Given.sink_eq {ended : Bool} {batches : List Batch}
    {before before' after after' : Outlets} (h : Given ended batches before after)
    (h' : Given ended batches before' after') (hsink : before'.sink = before.sink) :
    after'.sink = after.sink := by
  rw [h, h', hsink]

namespace Client

variable {context context' : RunContext}

lemma flush_sameButLog (c : Client) (h : context.SameButLog context') :
    (c.flush context').1 = (c.flush context).1
      ∧ (c.flush context).2.SameButLog (c.flush context').2 := by
  have hgiven := c.reporter.drain_given context.ended context.outlets
  have hgiven' := c.reporter.drain_given context'.ended context'.outlets
  rw [h.ended] at hgiven'
  rw [Run.flush_eq, Run.flush_eq, h.ended]
  exact ⟨rfl, h.enabled, h.base, rfl, hgiven.sink_eq hgiven' h.sink⟩

lemma reportTransmission_sameButLog {d d' : Definition} (hd : d.SameRequest d')
    {t t' : Definition.Transmission}
    (ht : t.Alike d.options.responseType d'.options.responseType t') (method : Method)
    (measured : Measured) (c : Client) (h : context.SameButLog context') :
    let reported := reportTransmission d method t measured c context
    let reported' := reportTransmission d' method t' measured c context'
    reported'.1 = reported.1 ∧ reported.2.SameButLog reported'.2 := by
  cases ht with
  | unrewound reason => exact ⟨rfl, h.enabled, h.base, h.ended, h.sink⟩
  | @performed r r' hr wire =>
    let s : Sending := ⟨d, method, r, measured⟩
    let s' : Sending := ⟨d', method, r', measured⟩
    have hs : s.Alike s' := ⟨hd, rfl, hr, rfl⟩
    have hgiven := s.report_given context.ended c.reporter context.outlets
    have hgiven' := s'.report_given context'.ended c.reporter context'.outlets
    rw [hs.reported, h.ended] at hgiven'
    rw [Run.reportTransmission_performed, Run.reportTransmission_performed, h.ended, hs.left?]
    exact ⟨rfl, h.enabled, h.base, rfl, hgiven.sink_eq hgiven' h.sink⟩

lemma make_sameButLog (h : context.SameButLog context') (id : Nat) (config : ClientConfig)
    (files : Files) : make id config files context' = make id config files context := by
  simp only [make, h.base, h.enabled]

end Client

namespace Run

/-! ## Options -/

/-- The options of a definition never change. -/
lemma options_of_stepped {run next : Run} {action : Action} (h : Stepped run action next) :
    next.definitions.map (·.options) = run.definitions.map (·.options) := by
  cases h with
  | @sent i j method exchange measured c d hc hd =>
    refine map_set_of_eq hd ?_
    simp only [Definition.send]
    split <;> rfl
  | _ => rfl

lemma options_steps (run : Run) (history : List Step) :
    (run.steps history).2.definitions.map (·.options) = run.definitions.map (·.options) :=
  steps_invariant
    (P := fun next => next.definitions.map (·.options) = run.definitions.map (·.options))
    (fun next step h => (options_of_stepped (next.stepped_step step)).trans h) rfl history

lemma options_of_mem_steps {run : Run} {history : List Step} {j : Nat} {d : Definition}
    (h : (run.steps history).2.definitions[j]? = some d) :
    (run.definitions[j]?).map (·.options) = some d.options := by
  rw [← List.getElem?_map, ← options_steps run history, List.getElem?_map, h]
  rfl

/-! ## Runs -/

/-- Runs of the same requests, with the same clients and the same sink. -/
structure Lockstep (run run' : Run) : Prop where
  context : run.context.SameButLog run'.context
  files : run'.files = run.files
  clients : run'.clients = run.clients
  definitions : ∀ j : Nat,
    Option.Rel Definition.SameRequest run.definitions[j]? run'.definitions[j]?
  sources : run'.sources = run.sources

/-- What two runs show of one step: the same, unless it is the outcome of a transfer. -/
inductive ShowsAlike (run run' : Run) : Step → Shown → Shown → Prop
  | performed {i j method exchange measured} {s s' : Sending} (hs : s.Alike s')
      (hd : run.definitions[j]? = some s.definition)
      (hd' : run'.definitions[j]? = some s'.definition)
      (hevent : run.event (.send i j method exchange measured) = .performed i s)
      (wire : Option Transfer.Wire) :
    ShowsAlike run run' (.send i j method exchange measured) (.sent s.outcome wire)
      (.sent s'.outcome wire)
  | other {step} (shown : Shown) (hevent : ∀ i s, run.event step ≠ .performed i s) :
    ShowsAlike run run' step shown shown

variable {run run' : Run} {i j : Nat} {c : Client} {d d' : Definition}

lemma Lockstep.client? (h : Lockstep run run') (i : Nat) : run'.client? i = run.client? i := by
  simp only [Run.client?, h.clients]

lemma Lockstep.exists_definition (h : Lockstep run run') (hd : run.definitions[j]? = some d) :
    ∃ d', run'.definitions[j]? = some d' ∧ d.SameRequest d' := by
  have hrel := h.definitions j
  rw [hd] at hrel
  generalize run'.definitions[j]? = found at hrel
  cases hrel with
  | some hrequest => exact ⟨_, rfl, hrequest⟩

lemma Lockstep.definition_eq_none (h : Lockstep run run') (hd : run.definitions[j]? = none) :
    run'.definitions[j]? = none := by
  have hrel := h.definitions j
  rw [hd] at hrel
  generalize run'.definitions[j]? = found at hrel
  cases hrel
  rfl

/-- The definitions that were sent take the places of the old ones. -/
lemma Lockstep.set_definition (h : Lockstep run run') (hd : run.definitions[j]? = some d)
    (hd' : run'.definitions[j]? = some d') {sent sent' : Definition}
    (hsent : sent.SameRequest sent') (k : Nat) :
    Option.Rel Definition.SameRequest (run.definitions.set j sent)[k]?
      (run'.definitions.set j sent')[k]? := by
  have hlt := (List.getElem?_eq_some_iff.1 hd).1
  have hlt' := (List.getElem?_eq_some_iff.1 hd').1
  by_cases hk : j = k
  · subst hk
    rw [List.getElem?_set_self hlt, List.getElem?_set_self hlt']
    exact .some hsent
  · rw [List.getElem?_set_ne hk, List.getElem?_set_ne hk]
    exact h.definitions k

lemma Lockstep.poolSizes (h : Lockstep run run') :
    run'.requests.poolSizes = run.requests.poolSizes := by
  refine List.ext_getElem? ?_
  intro j
  simp only [Requests.poolSizes, requests, List.getElem?_map]
  have hrel := h.definitions j
  generalize run.definitions[j]? = found at hrel
  generalize run'.definitions[j]? = found' at hrel
  cases hrel with
  | none => rfl
  | some hrequest => simp only [Option.map_some, hrequest.pool]

lemma ShowsAlike.wire? {step : Step} {shown shown' : Shown}
    (h : ShowsAlike run run' step shown shown') : shown'.wire? = shown.wire? := by
  cases h with
  | performed => rfl
  | other => rfl

/-! ## Steps -/

lemma Lockstep.setClient (h : Lockstep run run') (i : Nat) (c : Option Client) :
    Lockstep (run.setClient i c) (run'.setClient i c) where
  context := h.context
  files := h.files
  clients := by simp only [Run.setClient, h.clients]
  definitions := h.definitions
  sources := h.sources

lemma Lockstep.flush (h : Lockstep run run') (i : Nat) (c : Client) :
    Lockstep (run.flush i c) (run'.flush i c) := by
  obtain ⟨hclient, hcontext⟩ := c.flush_sameButLog h.context
  refine ⟨hcontext, h.files, ?_, h.definitions, h.sources⟩
  rw [flush_clients, flush_clients, h.clients, hclient]

lemma Lockstep.send (h : Lockstep run run') (hd : run.definitions[j]? = some d)
    (hd' : run'.definitions[j]? = some d') (hrequest : d.SameRequest d') (i : Nat) (c : Client)
    (method : Method) (exchange : Exchange) (measured : Measured) :
    Lockstep (run.send i c j d method exchange measured).2
      (run'.send i c j d' method exchange measured).2 := by
  obtain ⟨hdefinition, hsources, htransmission⟩ :=
    hrequest.send c.transport run.sources method exchange
  obtain ⟨hclient, hcontext⟩ :=
    Client.reportTransmission_sameButLog hrequest htransmission method measured c h.context
  simp only [Run.send, h.sources, h.clients, hclient]
  exact ⟨hcontext, h.files, rfl, h.set_definition hd hd' hdefinition, hsources⟩

lemma Lockstep.showsAlike_send (h : Lockstep run run') (hc : run.client? i = some c)
    (hd : run.definitions[j]? = some d) (hd' : run'.definitions[j]? = some d')
    (hrequest : d.SameRequest d') (method : Method) (exchange : Exchange) (measured : Measured) :
    ShowsAlike run run' (.send i j method exchange measured)
      (run.send i c j d method exchange measured).1
      (run'.send i c j d' method exchange measured).1 := by
  obtain ⟨-, -, htransmission⟩ := hrequest.send c.transport run.sources method exchange
  have hevent : run.event (.send i j method exchange measured)
      = (Action.send i c j d method exchange measured).event run := by
    simp only [event, action, hc, hd]
  simp only [Action.event] at hevent
  simp only [Run.send, h.sources]
  generalize (d.send c.transport run.sources method exchange).transmission = t at *
  generalize (d'.send c.transport run.sources method exchange).transmission = t' at *
  cases htransmission with
  | unrewound reason =>
    refine .other _ ?_
    intro k s hperformed
    rw [hevent] at hperformed
    cases hperformed
  | @performed r r' hresult wire =>
    let s : Sending := ⟨d, method, r, measured⟩
    let s' : Sending := ⟨d', method, r', measured⟩
    have hs : s.Alike s' := ⟨hrequest, rfl, hresult, rfl⟩
    exact .performed hs hd hd' hevent wire

lemma ShowsAlike.of_not_send {step : Step}
    (hstep : ∀ i j method exchange measured, step ≠ .send i j method exchange measured)
    (shown : Shown) : ShowsAlike run run' step shown shown := by
  refine .other shown ?_
  intro i s hevent
  obtain ⟨j, exchange, c, wire, hsend, -⟩ := exists_of_performed hevent
  exact hstep i j _ exchange _ hsend

/-- **A step keeps two runs in lockstep.** -/
theorem Lockstep.step (h : Lockstep run run') (step : Step) :
    Lockstep (run.step step).2 (run'.step step).2
      ∧ ShowsAlike run run' step (run.step step).1 (run'.step step).1 := by
  cases step with
  | send i j method exchange measured =>
    have hclient := h.client? i
    cases hc : run.client? i with
    | none =>
      rw [hc] at hclient
      simp only [Run.step, hc, hclient]
      refine ⟨h, .other _ ?_⟩
      simp [event, action, hc, Action.event]
    | some c =>
      rw [hc] at hclient
      cases hd : run.definitions[j]? with
      | none =>
        simp only [Run.step, hc, hclient, hd, h.definition_eq_none hd]
        refine ⟨h, .other _ ?_⟩
        simp [event, action, hc, hd, Action.event]
      | some d =>
        obtain ⟨d', hd', hrequest⟩ := h.exists_definition hd
        rw [step_send hc hd, step_send hclient hd']
        exact ⟨h.send hd hd' hrequest i c method exchange measured,
          h.showsAlike_send hc hd hd' hrequest method exchange measured⟩
  | flush i =>
    refine ⟨?_, ?_⟩
    · simp only [Run.step, h.client?]
      split
      · exact h.flush i _
      · exact h
    · simp only [Run.step, h.client?]
      split <;> exact .of_not_send (by simp) _
  | setJudge i judge =>
    refine ⟨?_, ?_⟩
    · simp only [Run.step, h.client?]
      split
      · exact h.setClient i _
      · exact h
    · simp only [Run.step, h.client?]
      split <;> exact .of_not_send (by simp) _
  | create config =>
    simp only [Run.step, Run.create, h.clients, h.files, Client.make_sameButLog h.context]
    split
    next c _ =>
      exact ⟨⟨h.context, rfl, rfl, h.definitions, h.sources⟩, .of_not_send (by simp) _⟩
    next error _ => exact ⟨h, .of_not_send (by simp) _⟩
  | destroy i =>
    refine ⟨?_, .of_not_send (by simp) _⟩
    simp only [Run.step, Run.destroy, h.client?]
    split
    · exact (h.flush i _).setClient i none
    · exact h
  | stop =>
    refine ⟨⟨?_, h.files, h.clients, h.definitions, h.sources⟩, .of_not_send (by simp) _⟩
    exact ⟨h.context.enabled, h.context.base, rfl, h.context.sink⟩

lemma Lockstep.steps (h : Lockstep run run') (history : List Step) :
    Lockstep (run.steps history).2 (run'.steps history).2 := by
  induction history generalizing run run' with
  | nil => exact h
  | cons step rest ih => exact ih (h.step step).1

end Run

end MeteredHttp
