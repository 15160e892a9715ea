import MeteredHttp.Proofs.Reporter.Insertion
import MeteredHttp.Proofs.Run.Policy
import MeteredHttp.Proofs.Transfer.Reuse

/-!
# Sends that fail before they begin

A send that cannot rewind the source of its body gives up when its handle is half configured.  The
handle goes back to the pool like that, and the one of another client, if there was one, is lost.

* `Definition.send_congr` says that a send does not depend on what waits in the pool, as long as the
  handles there serve the definition and the one that is used belongs to the same transport.
* `Run.Beside` relates a run to one with a send that failed in this way: the log has one more entry,
  and one definition has another pool.  By `Run.Beside.step` both show the same and stay like that.
* **`Run.failed_rewind_is_atomic`** says that every such send has no other effect.
-/

namespace MeteredHttp

open Transfer
open Outlets (Inserted)

/-! ## Sends -/

namespace Definition

variable {d : Definition} {t : Transport} {pool : Pool Handle} {sources : Sources}
  {method : Method} {reason : Bytes}

/-- The body is to be read from a source that cannot be rewound. -/
def Unrewindable (d : Definition) (method : Method) (sources : Sources) (reason : Bytes) : Prop :=
  method.isBodiless = false ∧ ∃ k source, d.payload = .stream k ∧ sources[k]? = some source
    ∧ source.rewind = .error reason

lemma opened_of_unrewindable (h : d.Unrewindable method sources reason) :
    d.opened method sources = .error reason := by
  obtain ⟨hmethod, k, source, hpayload, hsource, hrewind⟩ := h
  simp [opened, hmethod, hpayload, hsource, hrewind, Except.map]

/-- Nothing is sent, and no source has moved. -/
lemma send_of_unrewindable (hserve : ∀ h ∈ d.pool.idle, h.Serves d)
    (h : d.Unrewindable method sources reason) (t : Transport) (exchange : Exchange) :
    let sent := d.send t sources method exchange
    sent.transmission = .unrewound reason ∧ sent.sources = sources := by
  simp only [send_eq hserve, opened_of_unrewindable h, and_self]

lemma agree_of_serves {h h' : Handle} (hs : h.Serves d) (hs' : h'.Serves d) (method : Method)
    (body : Handle.Body) (s : Handle.Setting) :
    Handle.Agree ((d.prepare method h).withBody body) ((d.prepare method h').withBody body) s := by
  cases s with
  | url => exact hs.url.trans hs'.url.symm
  | host => exact hs.host.trans hs'.host.symm
  | fields => exact hs.fields.trans hs'.fields.symm
  | _ => rfl

/-- **What waits in the pool does not matter for a send**, but for the transport that made the
handle. -/
lemma send_congr (hserve : ∀ h ∈ d.pool.idle, h.Serves d) (hserve' : ∀ h ∈ pool.idle, h.Serves d)
    (howner : (({ d with pool } : Definition).handleFor t).1.owner = (d.handleFor t).1.owner)
    (sources : Sources) (method : Method) (exchange : Exchange) :
    let sent := d.send t sources method exchange
    let sent' := ({ d with pool } : Definition).send t sources method exchange
    sent'.transmission = sent.transmission ∧ sent'.sources = sent.sources := by
  have hpool : ∀ h ∈ pool.idle, h.Serves { d with pool } :=
    fun h hmem => (hserve' h hmem).withPool pool
  have hs := handleFor_serves hserve t
  have hs' : Handle.Serves (({ d with pool } : Definition).handleFor t).1 d :=
    (handleFor_serves hpool t).withPool d.pool
  intro sent sent'
  have hsent : sent = _ := send_eq hserve t sources method exchange
  have hsent' : sent' = _ := send_eq hpool t sources method exchange
  cases hopened : d.opened method sources with
  | error reason =>
    have hopened' : ({ d with pool } : Definition).opened method sources = .error reason := hopened
    rw [hopened] at hsent
    rw [hopened'] at hsent'
    rw [hsent, hsent']
    exact ⟨rfl, rfl⟩
  | ok opened =>
    obtain ⟨body, after⟩ := opened
    have hopened' : ({ d with pool } : Definition).opened method sources = .ok (body, after) :=
      hopened
    let h := (d.prepare method (d.handleFor t).1).withBody body
    let h' := (d.prepare method (({ d with pool } : Definition).handleFor t).1).withBody body
    have hmade : h'.owner = h.owner := howner
    have hcurrent : h.Current := (hs.prepare method).current
    have hcurrent' : h'.Current := (hs'.prepare method).current
    obtain ⟨hwire, hresult, hsources⟩ := Transport.perform_congr hmade
      (agree_of_serves hs' hs method body) hcurrent' hcurrent t after d.options.responseType
      exchange
    rw [hopened] at hsent
    rw [hopened'] at hsent'
    rw [hsent, hsent']
    exact ⟨congrArg₂ Transmission.performed hresult hwire, hsources⟩

end Definition

namespace Run

/-! ## Runs beside each other -/

/-- A run with a send that failed, beside the run without it.  There is one more entry in the log,
and one definition has a handle of the transport `t`, or of the one that made the handle that is
next in the other run. -/
inductive Beside (before : List LogEntry) (entry : LogEntry) (j : Nat) (t : Transport)
    (run : Run) : Run → Prop
  | intro {d : Definition} {handle : Handle} {outlets : Outlets}
      (hd : run.definitions[j]? = some d)
      (howner : handle.owner = t ∨ d.pool.take.1.map (·.owner) = some handle.owner)
      (hlog : run.context.outlets.Inserted before entry outlets) :
    Beside before entry j t run
      { run with
        definitions := run.definitions.set j { d with pool := ⟨[handle]⟩ }
        context := { run.context with outlets } }

variable {before : List LogEntry} {entry : LogEntry} {j : Nat} {t : Transport}
  {initial run run' : Run} {i : Nat} {c : Client} {d : Definition} {method : Method}
  {exchange : Exchange} {measured : Measured} {reason : Bytes}

lemma shown_withPool (d : Definition) (pool : Pool Handle) (method : Method)
    (transmission : Definition.Transmission) :
    shown { d with pool } method transmission = shown d method transmission := by
  cases transmission <;> rfl

lemma reportTransmission_withPool (d : Definition) (pool : Pool Handle) (method : Method)
    (transmission : Definition.Transmission) (measured : Measured) (c : Client)
    (context : RunContext) :
    Client.reportTransmission { d with pool } method transmission measured c context
      = Client.reportTransmission d method transmission measured c context := by
  cases transmission <;> rfl

lemma Beside.flush (h : Beside before entry j t run run') (i : Nat) (c : Client) :
    Beside before entry j t (run.flush i c) (run'.flush i c) := by
  obtain ⟨hd, howner, hlog⟩ := h
  obtain ⟨hclient, next, hcontext, hnext⟩ := c.flush_inserted run.context hlog
  simp only [Run.flush, hclient, hcontext]
  exact .intro hd howner hnext

lemma Beside.setClient (h : Beside before entry j t run run') (i : Nat) (c : Option Client) :
    Beside before entry j t (run.setClient i c) (run'.setClient i c) := by
  obtain ⟨hd, howner, hlog⟩ := h
  exact .intro hd howner hlog

lemma Beside.client? (h : Beside before entry j t run run') (i : Nat) :
    run'.client? i = run.client? i := by
  obtain ⟨hd, howner, hlog⟩ := h
  rfl

lemma Beside.exists_definition (h : Beside before entry j t run run') :
    ∃ d, run.definitions[j]? = some d := by
  obtain ⟨hd, howner, hlog⟩ := h
  exact ⟨_, hd⟩

lemma Beside.definition_of_ne (h : Beside before entry j t run run') {k : Nat} (hk : k ≠ j) :
    run'.definitions[k]? = run.definitions[k]? := by
  obtain ⟨hd, howner, hlog⟩ := h
  exact List.getElem?_set_ne hk.symm

lemma Beside.destroy (h : Beside before entry j t run run') (i : Nat) :
    Beside before entry j t (run.destroy i) (run'.destroy i) := by
  simp only [Run.destroy, h.client?]
  split
  · exact (h.flush i _).setClient i none
  · exact h

lemma Beside.finish (h : Beside before entry j t run run') :
    Beside before entry j t run.finish run'.finish := by
  have hclients : run'.clients = run.clients := by
    obtain ⟨hd, howner, hlog⟩ := h
    rfl
  rw [Run.finish, Run.finish, hclients]
  generalize List.range run.clients.length = left
  clear hclients
  induction left generalizing run run' with
  | nil => exact h
  | cons i rest ih => exact ih (h.destroy i)

lemma Beside.create (h : Beside before entry j t run run') (config : ClientConfig) :
    (run'.create config).1 = (run.create config).1
      ∧ Beside before entry j t (run.create config).2 (run'.create config).2 := by
  obtain @⟨used, handle, outlets, hd, howner, hlog⟩ := h
  have hmake : Client.make run.clients.length config run.files { run.context with outlets }
      = Client.make run.clients.length config run.files run.context := rfl
  simp only [Run.create, hmake]
  split
  · exact ⟨rfl, .intro hd howner hlog⟩
  · exact ⟨rfl, .intro hd howner hlog⟩

lemma Beside.stop (h : Beside before entry j t run run') :
    Beside before entry j t { run with context := run.context.stop }
      { run' with context := run'.context.stop } := by
  obtain ⟨hd, howner, hlog⟩ := h
  exact .intro hd howner hlog

/-- Another definition is sent. -/
lemma Beside.send_other (h : Beside before entry j t run run') {k : Nat} (hk : k ≠ j)
    (i : Nat) (c : Client) (d : Definition) (method : Method) (exchange : Exchange)
    (measured : Measured) :
    let after := run.send i c k d method exchange measured
    let after' := run'.send i c k d method exchange measured
    after'.1 = after.1 ∧ Beside before entry j t after.2 after'.2 := by
  obtain @⟨used, handle, outlets, hd, howner, hlog⟩ := h
  obtain ⟨hclient, next, hcontext, hnext⟩ := Client.reportTransmission_inserted d method
    (d.send c.transport run.sources method exchange).transmission measured c run.context hlog
  refine ⟨rfl, ?_⟩
  simp only [Run.send, hclient, hcontext, List.set_comm _ _ (Ne.symm hk)]
  exact .intro (by rw [List.getElem?_set_ne hk, hd]) howner hnext

/-- The definition itself is sent. -/
lemma Coherent.send_beside (hrun : Coherent initial run) (hrun' : Coherent initial run')
    (h : Beside before entry j t run run') (hc : run.client? i = some c)
    (hd : run.definitions[j]? = some d) :
    ∃ d', run'.definitions[j]? = some d'
      ∧ let after := run.send i c j d method exchange measured
        let after' := run'.send i c j d' method exchange measured
        after'.1 = after.1 ∧ Beside before entry j t after.2 after'.2 := by
  have hc' := (h.client? i).trans hc
  obtain @⟨used, handle, outlets, hused, howner, hlog⟩ := h
  obtain rfl : used = d := Option.some.inj (hused.symm.trans hd)
  have hj : j < run.definitions.length := (List.getElem?_eq_some_iff.1 hd).1
  have hd' : (run.definitions.set j { used with pool := ⟨[handle]⟩ })[j]?
      = some { used with pool := ⟨[handle]⟩ } := List.getElem?_set_self hj
  refine ⟨_, hd', ?_⟩
  have hserve := hrun.serves hd
  have hserve' : ∀ h ∈ (⟨[handle]⟩ : Pool Handle).idle, h.Serves used := by
    intro h hmem
    exact (hrun'.serves hd' h hmem).withPool used.pool
  have hmade := hrun.handleFor_owner hc hd
  have hmade' := hrun'.handleFor_owner hc' hd'
  -- Both leave a handle of the client behind.
  obtain ⟨⟨first, rest, hdefinition, -, hfirst, -⟩, -⟩ :=
    Definition.exists_send_definition hserve c.transport run.sources method exchange
  obtain ⟨left, hdefinition', hleft⟩ := Definition.exists_send_idle (hrun'.serves hd') le_rfl
    c.transport run.sources method exchange
  obtain ⟨htransmission, hsources⟩ := Definition.send_congr hserve hserve'
    (hmade'.trans hmade.symm) run.sources method exchange
  obtain ⟨hclient, next, hcontext, hnext⟩ := Client.reportTransmission_inserted used method
    (used.send c.transport run.sources method exchange).transmission measured c run.context hlog
  refine ⟨?_, ?_⟩
  · simp only [Run.send, htransmission, shown_withPool]
  · have hset : (run.definitions.set j { used with pool := ⟨first :: rest⟩ }).set j
        { used with pool := ⟨[left]⟩ } = run.definitions.set j { used with pool := ⟨[left]⟩ } := by
      rw [List.set_set]
    simp only [Run.send, htransmission, reportTransmission_withPool, hsources, hclient, hcontext,
      hdefinition', hdefinition, List.set_set]
    rw [← hset]
    refine .intro (d := { used with pool := ⟨first :: rest⟩ }) (List.getElem?_set_self hj)
      (.inr ?_) hnext
    exact congrArg some ((hfirst.trans hmade).trans (hleft.trans hmade').symm)

/-- **A step does the same to both.** -/
lemma Beside.step (h : Beside before entry j t run run') (hrun : Coherent initial run)
    (hrun' : Coherent initial run') (step : Step) :
    (run'.step step).1 = (run.step step).1
      ∧ Beside before entry j t (run.step step).2 (run'.step step).2 := by
  cases step with
  | send i k method exchange measured =>
    have hclient := h.client? i
    cases hc : run.client? i with
    | none =>
      rw [hc] at hclient
      simp only [Run.step, hc, hclient]
      exact ⟨trivial, h⟩
    | some c =>
      rw [hc] at hclient
      by_cases hk : k = j
      · subst hk
        obtain ⟨d, hd⟩ := h.exists_definition
        obtain ⟨d', hd', hshown, hnext⟩ := hrun.send_beside hrun' h hc hd
        rw [step_send hc hd, step_send hclient hd']
        exact ⟨hshown, hnext⟩
      · cases hd : run.definitions[k]? with
        | none =>
          simp only [Run.step, hc, hclient, hd, h.definition_of_ne hk]
          exact ⟨trivial, h⟩
        | some d =>
          rw [step_send hc hd, step_send hclient ((h.definition_of_ne hk).trans hd)]
          exact h.send_other hk i c d method exchange measured
  | flush i =>
    simp only [Run.step, h.client?]
    split
    · exact ⟨rfl, h.flush i _⟩
    · exact ⟨rfl, h⟩
  | setJudge i judge =>
    simp only [Run.step, h.client?]
    split
    · exact ⟨rfl, h.setClient i _⟩
    · exact ⟨rfl, h⟩
  | create config => exact h.create config
  | destroy i => exact ⟨rfl, h.destroy i⟩
  | stop => exact ⟨rfl, h.stop⟩

lemma Beside.steps (h : Beside before entry j t run run') (hrun : Coherent initial run)
    (hrun' : Coherent initial run') (later : List Step) :
    (run'.steps later).1 = (run.steps later).1
      ∧ Beside before entry j t (run.steps later).2 (run'.steps later).2 := by
  induction later generalizing run run' with
  | nil => exact ⟨rfl, h⟩
  | cons step rest ih =>
    obtain ⟨hshown, hnext⟩ := h.step hrun hrun' step
    obtain ⟨hothers, hlast⟩ := ih hnext (hrun.stepped (run.stepped_step step))
      (hrun'.stepped (run'.stepped_step step))
    exact ⟨congrArg₂ List.cons hshown hothers, hlast⟩

/-! ## Sends that fail -/

/-- In no pool two handles wait. -/
lemma poolSize_of_history (hpools : ∀ d ∈ initial.definitions, d.pool.idle = [])
    (history : List Step) (hd : (initial.steps history).2.definitions[j]? = some d) :
    d.pool.size ≤ 1 := by
  have hrequests : (initial.steps history).2.requests = initial.requests.after history :=
    initial.requests_steps history
  refine Requests.poolSizes_after (r := initial.requests) ?_ history d ?_
  · intro d hd
    simp [Pool.size, hpools d hd]
  · rw [← hrequests]
    exact List.mem_of_getElem? hd

/-- The handle goes back to the pool, and the log says why. -/
lemma Coherent.exists_unrewound (h : Coherent initial run) (hc : run.client? i = some c)
    (hd : run.definitions[j]? = some d) (hsize : d.pool.size ≤ 1)
    (hrewind : d.Unrewindable method run.sources reason) (exchange : Exchange)
    (measured : Measured) :
    ∃ handle, handle.owner = c.transport
      ∧ run.step (.send i j method exchange measured)
        = (.sent (.unrewound reason) none,
          { run with
            definitions := run.definitions.set j { d with pool := ⟨[handle]⟩ }
            context := { run.context with
              outlets := run.context.outlets.fail (Client.unrewoundText reason) } }) := by
  obtain ⟨htransmission, hsources⟩ :=
    Definition.send_of_unrewindable (h.serves hd) hrewind c.transport exchange
  obtain ⟨handle, hdefinition, howner⟩ := Definition.exists_send_idle (h.serves hd) hsize
    c.transport run.sources method exchange
  refine ⟨handle, howner.trans (h.handleFor_owner hc hd), ?_⟩
  have hclients : run.clients.set i (some c) = run.clients := by
    obtain ⟨hi, hat⟩ := List.getElem?_eq_some_iff.1 (Option.join_eq_some_iff.1 hc)
    rw [← hat, List.set_getElem_self hi]
  rw [step_send hc hd]
  simp only [Run.send, htransmission, hsources, hdefinition, Client.reportTransmission, hclients]
  rfl

/-- **A send that cannot rewind its source is atomic.**  In a run that begins without clients and
with definitions that were never sent, and after any history of steps, a client sends a definition
whose body is to be read from a source that cannot be rewound:

* the caller is told so, and nothing is sent;
* the log has one more entry, and the definition holds one handle, which the client made; clients
  with what they have staged, sources and the sink are as they were;
* whatever steps follow show the same as without the send, and leave the same behind, but for the
  entry of the log and the handle; and so it is when the clients are destroyed at the end. -/
theorem failed_rewind_is_atomic {initial : Run} (hclients : initial.clients = [])
    (hpools : ∀ d ∈ initial.definitions, d.pool.idle = []) (history : List Step) {i j : Nat}
    {c : Client} {d : Definition} (hc : (initial.steps history).2.client? i = some c)
    (hd : (initial.steps history).2.definitions[j]? = some d) {method : Method} {reason : Bytes}
    (hrewind : d.Unrewindable method (initial.steps history).2.sources reason)
    (exchange : Exchange) (measured : Measured) :
    let run := (initial.steps history).2
    let sent := run.step (.send i j method exchange measured)
    let entry : LogEntry :=
      ⟨run.context.outlets.target, .error, Client.unrewoundText reason⟩
    sent.1 = .sent (.unrewound reason) none
      ∧ (∃ handle, handle.owner = c.transport
          ∧ sent.2 = { run with
              definitions := run.definitions.set j { d with pool := ⟨[handle]⟩ }
              context := { run.context with
                outlets := { run.context.outlets with
                  log := run.context.outlets.log ++ [entry] } } })
      ∧ ∀ later,
          (sent.2.steps later).1 = (run.steps later).1
            ∧ Beside run.context.outlets.log entry j c.transport (run.steps later).2
                (sent.2.steps later).2
            ∧ Beside run.context.outlets.log entry j c.transport (run.steps later).2.finish
                (sent.2.steps later).2.finish := by
  intro run sent entry
  have hrun : Coherent initial run := Coherent.of_steps hclients hpools history
  have hsent : Coherent initial sent.2 := hrun.stepped (run.stepped_step _)
  obtain ⟨handle, howner, hstep⟩ := hrun.exists_unrewound hc hd
    (poolSize_of_history hpools history hd) hrewind exchange measured
  have hstep : sent = _ := hstep
  have hbeside : Beside run.context.outlets.log entry j c.transport run sent.2 := by
    rw [hstep]
    exact .intro hd (.inl howner) ⟨[], (List.append_nil _).symm, rfl⟩
  refine ⟨by rw [hstep], ⟨handle, howner, by rw [hstep]; rfl⟩, ?_⟩
  intro later
  obtain ⟨hshown, hlast⟩ := hbeside.steps hrun hsent later
  exact ⟨hshown, hlast, hlast.finish⟩

/-- A handle of one client waits where another one tries to send what comes out of a pipe. -/
theorem failed_rewind_is_atomic_uploads :
    let run := (uploads.steps [.create {}, .create {}, .send 1 0 .get { status := 200 } {}]).2
    let sent := run.step (.send 0 0 .post {} {})
    sent.1 = .sent (.unrewound (utf8 "failed to rewind p")) none
      ∧ (sent.2.steps [.send 1 0 .get {} {}, .flush 1]).1
        = (run.steps [.send 1 0 .get {} {}, .flush 1]).1 := by
  intro run sent
  have hthere : (run.client? 0).isSome = true := by rfl
  have hhere : (run.definitions[0]?).isSome = true := by rfl
  obtain ⟨c, hc⟩ := Option.isSome_iff_exists.1 hthere
  obtain ⟨d, hd⟩ := Option.isSome_iff_exists.1 hhere
  have hpayload : d.payload = .stream 0 := by
    have hfound : (run.definitions[0]?).map (·.payload) = some (.stream 0) := by rfl
    rw [hd, Option.map_some, Option.some.injEq] at hfound
    exact hfound
  have hrewind : d.Unrewindable .post run.sources (utf8 "failed to rewind p") :=
    ⟨rfl, 0, .file { path := utf8 "p", node := .pipe, unread := [] }, hpayload,
      by decide +kernel, by rfl⟩
  obtain ⟨hshown, -, hlater⟩ :=
    failed_rewind_is_atomic rfl (by simp [uploads]) _ hc hd hrewind {} {}
  exact ⟨hshown, (hlater _).1⟩

end Run

end MeteredHttp
