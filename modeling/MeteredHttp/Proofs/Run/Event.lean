import MeteredHttp.Proofs.Reporter.Sending
import MeteredHttp.Proofs.Run.Step
import Mathlib.Logic.Function.Basic

/-!
# Events of a run

Of all that a step does, its event is what matters to the reports of clients.

**Events.**  `Run.event` is the event of a step, and an event alone says which round trips are
reported (`Event.reported`) and which ones wait afterwards (`Event.slots`).  `Event.balance` is the
account of one event: nothing is lost and nothing is doubled.

**Effects.**  `Run.handed` are the batches that a step hands to the sink.  In every run, whatever
its sink and whether or not it is over, a step leaves what its event says in the slots
(`slots_of_stepped`), hands these batches over (`given_of_stepped`), and they are the samples of the
round trips that its event reports (`Uniform.forall₂_handed`).
-/

namespace MeteredHttp

namespace Run

open Reporter (Sending)

/-! ## Events -/

/-- What a step means for the reports of clients. -/
inductive Event where
  /-- A client performed a transfer, and got a response or a failure for it. -/
  | performed (i : Nat) (s : Sending)
  /-- The body of a request could not be rewound. -/
  | unrewound (i : Nat)
  /-- A client was flushed, or is gone. -/
  | flushed (i : Nat)
  | other

/-- The round trips that are staged, by the number of their client. -/
abbrev Slots := Nat → Option RoundTrip

namespace Event

def client? : Event → Option Nat
  | .performed i _ => some i
  | .unrewound i => some i
  | .flushed i => some i
  | .other => none

/-- The round trip that a client makes. -/
def trip? (i : Nat) : Event → Option RoundTrip
  | .performed k s => if k = i then some s.wholeTrip else none
  | _ => none

/-- The round trips that are reported: the one that waits if there is a next one, and at once the
one whose body failed. -/
def reported (slots : Slots) : Event → List RoundTrip
  | .performed i s => s.reported (slots i)
  | .unrewound _ => []
  | .flushed i => (slots i).toList
  | .other => []

/-- The round trips that wait afterwards. -/
def slots (slots : Slots) : Event → Slots
  | .performed i s => Function.update slots i s.left?
  | .unrewound _ => slots
  | .flushed i => Function.update slots i none
  | .other => slots

/-- The round trips of a client that are reported. -/
def reportedOf (i : Nat) (slots : Slots) (event : Event) : List RoundTrip :=
  if event.client? = some i then event.reported slots else []

/-- What waits of a client and what it makes now is what is reported of it and what waits of it
afterwards. -/
lemma balance (i : Nat) (slots : Slots) (event : Event) :
    (slots i).toList ++ (event.trip? i).toList
      = event.reportedOf i slots ++ (event.slots slots i).toList := by
  cases event with
  | performed k s =>
    by_cases hk : k = i
    · subst hk
      cases hcut : s.cut <;>
        simp [trip?, reportedOf, client?, reported, Event.slots, Sending.reported, Sending.left?,
          hcut]
    · simp [trip?, reportedOf, client?, Event.slots, hk, Function.update_of_ne (Ne.symm hk)]
  | unrewound k => simp [trip?, reportedOf, reported, Event.slots]
  | flushed k =>
    by_cases hk : k = i
    · subst hk
      simp [trip?, reportedOf, client?, reported, Event.slots]
    · simp [trip?, reportedOf, client?, Event.slots, hk, Function.update_of_ne (Ne.symm hk)]
  | other => simp [trip?, reportedOf, reported, Event.slots]

end Event

def Action.event (run : Run) : Action → Event
  | .send i c _ d method exchange measured =>
    match (d.send c.transport run.sources method exchange).transmission with
    | .unrewound _ => .unrewound i
    | .performed result _ => .performed i { definition := d, method, result, measured }
  | .flush i _ => .flushed i
  | .destroy i _ => .flushed i
  | _ => .other

def event (run : Run) (step : Step) : Event := (run.action step).event run

/-- Only a send that finds its client and its definition performs a transfer. -/
lemma exists_of_performed {run : Run} {step : Step} {i : Nat} {s : Sending}
    (h : run.event step = .performed i s) :
    ∃ j exchange c wire, step = .send i j s.method exchange s.measured
      ∧ run.client? i = some c ∧ run.definitions[j]? = some s.definition
      ∧ (s.definition.send c.transport run.sources s.method exchange).transmission
        = .performed s.result wire := by
  cases step with
  | send k j method exchange measured =>
    cases hc : run.client? k with
    | none => simp [event, action, hc, Action.event] at h
    | some c =>
      cases hd : run.definitions[j]? with
      | none => simp [event, action, hc, hd, Action.event] at h
      | some d =>
        cases hsent : (d.send c.transport run.sources method exchange).transmission with
        | unrewound reason => simp [event, action, hc, hd, Action.event, hsent] at h
        | performed result wire =>
          simp only [event, action, hc, hd, Action.event, hsent] at h
          cases h
          exact ⟨j, exchange, c, wire, rfl, hc, hd, hsent⟩
  | flush k => cases hc : run.client? k <;> simp [event, action, hc, Action.event] at h
  | setJudge k judge => cases hc : run.client? k <;> simp [event, action, hc, Action.event] at h
  | create config =>
    simp only [event, action] at h
    split at h <;> cases h
  | destroy k => cases hc : run.client? k <;> simp [event, action, hc, Action.event] at h
  | stop => cases h

/-! ## What is handed over -/

/-- The round trips that the clients of a run have staged. -/
def slots (run : Run) : Slots := fun i => (run.client? i).bind (·.reporter.staged)

/-- The reporter that an action makes report. -/
def Action.reporter? : Action → Option Reporter
  | .send _ c _ _ _ _ _ => some c.reporter
  | .flush _ c => some c.reporter
  | .destroy _ c => some c.reporter
  | _ => none

def Action.handed (run : Run) (action : Action) : List Batch :=
  match action.reporter? with
  | some r => r.batchesOf ((action.event run).reported run.slots)
  | none => []

/-- The batches that a step hands to the sink, if the run is not over. -/
def handed (run : Run) (step : Step) : List Batch := (run.action step).handed run

/-- A batch of the samples of a round trip, as a client of the run makes them. -/
def IsReport (ctx : RunContext) (trip : RoundTrip) (batch : Batch) : Prop :=
  ∃ judge, batch = (Reporter.finish { base := ctx.base, enabled := ctx.enabled, judge } trip).batch

/-- A reporter with the tags of a run. -/
structure Tagged (ctx : RunContext) (r : Reporter) : Prop where
  base : r.base = ctx.base
  enabled : r.enabled = ctx.enabled

/-- A run with the tags of `ctx`, with which all its clients report. -/
structure Uniform (ctx : RunContext) (run : Run) : Prop where
  base : run.context.base = ctx.base
  enabled : run.context.enabled = ctx.enabled
  clients : ∀ i c, run.client? i = some c → Tagged ctx c.reporter

variable {ctx : RunContext} {run next : Run} {i : Nat} {c : Client} {action : Action}

lemma Tagged.forall₂_isReport {r : Reporter} (h : Tagged ctx r) (trips : List RoundTrip) :
    List.Forall₂ (IsReport ctx) trips (r.batchesOf trips) := by
  induction trips with
  | nil => exact .nil
  | cons trip rest ih =>
    refine .cons ⟨r.judge, ?_⟩ ih
    rw [← h.base, ← h.enabled]
    rfl

/-! ## The effect of a client -/

/-- A transmission that was performed leaves its round trip in the slot, unless that was reported
already. -/
lemma reportTransmission_performed (d : Definition) (method : Method) (result : Transfer.Result)
    (wire : Option Transfer.Wire) (measured : Measured) (c : Client) (context : RunContext) :
    let s : Sending := { definition := d, method, result, measured }
    Client.reportTransmission d method (.performed result wire) measured c context
      = ({ c with reporter := { c.reporter with staged := s.left? } },
        { context with
          outlets := (Client.report d method result measured context.ended c.reporter
            context.outlets).2 }) := by
  intro s
  rw [← s.report_slot context.ended c.reporter context.outlets]
  rfl

lemma flush_eq (c : Client) (context : RunContext) :
    c.flush context
      = ({ c with reporter := { c.reporter with staged := none } },
        { context with
          outlets := (c.reporter.drain context.ended none context.outlets).outlets }) := by
  rw [Client.flush, Reporter.drain_staged]

/-! ## The effect of a step -/

lemma send_snd (run : Run) (i : Nat) (c : Client) (j : Nat) (d : Definition) (method : Method)
    (exchange : Transfer.Exchange) (measured : Measured) :
    let reported := Client.reportTransmission d method
      (d.send c.transport run.sources method exchange).transmission measured c run.context
    (run.send i c j d method exchange measured).2.clients = run.clients.set i (some reported.1)
      ∧ (run.send i c j d method exchange measured).2.context = reported.2 := ⟨rfl, rfl⟩

lemma flush_clients (run : Run) (i : Nat) (c : Client) :
    (run.flush i c).clients = run.clients.set i (some (c.flush run.context).1) := rfl

lemma slots_of_client? (hc : run.client? i = some c) : run.slots i = c.reporter.staged := by
  simp [slots, hc]

lemma slots_of_clients_eq_set {x : Option Client} (hc : run.client? i = some c)
    (hset : next.clients = run.clients.set i x) :
    next.slots = Function.update run.slots i (x.bind (·.reporter.staged)) := by
  funext k
  rw [slots, client?_of_clients_eq_set hc hset k]
  by_cases hk : k = i
  · subst hk
    simp
  · simp [hk, slots]

lemma slots_of_stepped (h : Stepped run action next) :
    next.slots = (action.event run).slots run.slots := by
  cases h with
  | @sent i j method exchange measured c d hc hd =>
    rw [slots_of_clients_eq_set hc (run.send_snd i c j d method exchange measured).1]
    simp only [Action.event]
    cases (d.send c.transport run.sources method exchange).transmission with
    | unrewound reason => simp [Client.reportTransmission, Event.slots, ← slots_of_client? hc]
    | performed result wire =>
      rw [reportTransmission_performed]
      rfl
  | @flushed i c hc =>
    rw [slots_of_clients_eq_set hc (run.flush_clients i c), flush_eq]
    rfl
  | judged hc =>
    rw [slots_of_clients_eq_set hc rfl]
    simp [Action.event, Event.slots, Reporter.setJudge, ← slots_of_client? hc]
  | created hc =>
    funext k
    rw [slots, client?_of_clients_eq_append rfl]
    split
    next hk =>
      subst hk
      have hnone : run.client? run.clients.length = none := by simp [client?]
      simp [Action.event, Event.slots, slots, hnone, (Client.of_make hc).2]
    next => rfl
  | destroyed hc =>
    rw [slots_of_clients_eq_set (x := none) hc (by simp [setClient, flush])]
    rfl
  | stopped => rfl
  | idle => rfl

lemma given_of_stepped (h : Stepped run action next) :
    Outlets.Given run.context.ended (action.handed run) run.context.outlets
      next.context.outlets := by
  cases h with
  | @sent i j method exchange measured c d hc hd =>
    rw [(run.send_snd i c j d method exchange measured).2]
    simp only [Action.handed, Action.reporter?, Action.event]
    cases (d.send c.transport run.sources method exchange).transmission with
    | unrewound reason => exact .of_eq rfl
    | performed result wire =>
      rw [reportTransmission_performed]
      simp only [Event.reported, slots_of_client? hc]
      exact Sending.report_given _ _ _ _
  | flushed hc =>
    simp only [flush, flush_eq, Action.handed, Action.reporter?, Action.event, Event.reported,
      slots_of_client? hc]
    exact Reporter.drain_given _ _ _
  | judged hc => exact .of_eq rfl
  | created hc => exact .of_eq rfl
  | destroyed hc =>
    simp only [flush, flush_eq, setClient, Action.handed, Action.reporter?, Action.event,
      Event.reported, slots_of_client? hc]
    exact Reporter.drain_given _ _ _
  | stopped => exact .of_eq rfl
  | idle => exact .of_eq rfl

/-- A step that does not stop the run leaves it going, or over. -/
lemma ended_of_stepped (h : Stepped run action next) (hstop : action ≠ .stop) :
    next.context.ended = run.context.ended := by
  cases h with
  | @sent i j method exchange measured c d hc hd =>
    rw [(run.send_snd i c j d method exchange measured).2]
    cases (d.send c.transport run.sources method exchange).transmission <;> rfl
  | stopped => exact absurd rfl hstop
  | _ => rfl

/-! ## The tags of a run -/

/-- A step that changes the outlets and one client, whose tags stay. -/
lemma Uniform.of_clients_eq_set {x : Option Client} (h : Uniform ctx run)
    (hc : run.client? i = some c) (hset : next.clients = run.clients.set i x)
    (hbase : next.context.base = run.context.base)
    (henabled : next.context.enabled = run.context.enabled)
    (hx : ∀ c', x = some c' →
      c'.reporter.base = c.reporter.base ∧ c'.reporter.enabled = c.reporter.enabled) :
    Uniform ctx next where
  base := hbase.trans h.base
  enabled := henabled.trans h.enabled
  clients := by
    intro k c' hc'
    rw [client?_of_clients_eq_set hc hset] at hc'
    split at hc'
    · obtain ⟨hbase', henabled'⟩ := hx c' hc'
      obtain ⟨hbase, henabled⟩ := h.clients i c hc
      exact ⟨hbase'.trans hbase, henabled'.trans henabled⟩
    · exact h.clients k c' hc'

lemma Uniform.stepped (h : Uniform ctx run) (hstepped : Stepped run action next) :
    Uniform ctx next := by
  cases hstepped with
  | @sent i j method exchange measured c d hc hd =>
    have hkeeps : ∀ transmission : Definition.Transmission,
        let reported :=
          Client.reportTransmission d method transmission measured c run.context
        (reported.2.base = run.context.base ∧ reported.2.enabled = run.context.enabled)
          ∧ reported.1.reporter.base = c.reporter.base
          ∧ reported.1.reporter.enabled = c.reporter.enabled := by
      intro transmission
      cases transmission with
      | unrewound reason => exact ⟨⟨rfl, rfl⟩, rfl, rfl⟩
      | performed result wire =>
        rw [reportTransmission_performed]
        exact ⟨⟨rfl, rfl⟩, rfl, rfl⟩
    obtain ⟨⟨hbase, henabled⟩, htags⟩ :=
      hkeeps (d.send c.transport run.sources method exchange).transmission
    refine h.of_clients_eq_set hc rfl hbase henabled ?_
    rintro c' ⟨⟩
    exact htags
  | @flushed i c hc =>
    refine h.of_clients_eq_set hc (run.flush_clients i c) rfl rfl ?_
    rintro c' ⟨⟩
    rw [flush_eq]
    exact ⟨rfl, rfl⟩
  | judged hc =>
    refine h.of_clients_eq_set hc rfl rfl rfl ?_
    rintro c' ⟨⟩
    exact ⟨rfl, rfl⟩
  | created hc =>
    refine ⟨h.base, h.enabled, ?_⟩
    intro k c' hc'
    rw [client?_of_clients_eq_append rfl] at hc'
    split at hc'
    · obtain rfl := Option.some.inj hc'
      rw [(Client.of_make hc).2]
      exact ⟨h.base, h.enabled⟩
    · exact h.clients k c' hc'
  | destroyed hc =>
    exact h.of_clients_eq_set (x := none) hc (by simp [setClient, flush]) rfl rfl (by simp)
  | stopped => exact ⟨h.base, h.enabled, h.clients⟩
  | idle => exact h

/-- What a step hands over are the samples of the round trips that its event reports. -/
lemma Uniform.forall₂_handed (h : Uniform ctx run) (hstepped : Stepped run action next) :
    List.Forall₂ (IsReport ctx) ((action.event run).reported run.slots) (action.handed run) := by
  cases hstepped with
  | sent hc hd => exact (h.clients _ _ hc).forall₂_isReport _
  | flushed hc => exact (h.clients _ _ hc).forall₂_isReport _
  | destroyed hc => exact (h.clients _ _ hc).forall₂_isReport _
  | _ => exact .nil

end Run

end MeteredHttp
