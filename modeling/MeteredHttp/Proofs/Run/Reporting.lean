import MeteredHttp.Proofs.Run.Event

/-!
# What a run reports

A client keeps its last round trip back until its next one begins, until it is flushed or until it
is gone.  Here is what this comes to in a whole run that goes on and whose sink keeps everything.

`Run.records` goes through a history and keeps, for each step, its event and the batches that the
sink got.  `Run.step_reports` says that a step does what its event says, and
**`Run.every_send_is_reported_once`** draws the conclusions for a history.
-/

namespace MeteredHttp

namespace Run

/-! ## The effect of an event -/

/-- A run that goes on, with a sink that holds `held` and takes more, and with the tags of
`ctx`. -/
structure Reporting (ctx : RunContext) (held : List Batch) (run : Run) : Prop where
  live : run.context.ended = false
  sink : run.context.outlets.sink = some (.buffer held false)
  base : run.context.base = ctx.base
  enabled : run.context.enabled = ctx.enabled
  clients : ∀ i c, run.client? i = some c → Tagged ctx c.reporter

/-- What a step does to the reports of a run, as its event says. -/
structure Reports (ctx : RunContext) (held : List Batch) (run : Run) (event : Event) (next : Run) :
    Prop where
  emitted : ∃ batches, List.Forall₂ (IsReport ctx) (event.reported run.slots) batches
    ∧ Reporting ctx (held ++ batches) next
  slots : next.slots = event.slots run.slots
  quiet : Outlets.Logs Reporter.NotOccupied run.context.outlets next.context.outlets

variable {ctx : RunContext} {held : List Batch} {run next : Run} {i : Nat} {c : Client}

lemma Reporting.uniform (h : Reporting ctx held run) : Uniform ctx run :=
  ⟨h.base, h.enabled, h.clients⟩

/-! ## The effect of a step -/

/-- Nothing that a step writes to the log is the warning about an occupied slot. -/
lemma Reporting.quiet (h : Reporting ctx held run) {action : Action}
    (hstepped : Stepped run action next) :
    Outlets.Logs Reporter.NotOccupied run.context.outlets next.context.outlets := by
  cases hstepped with
  | @sent i j method exchange measured c d hc hd =>
    rw [(run.send_snd i c j d method exchange measured).2]
    cases (d.send c.transport run.sources method exchange).transmission with
    | unrewound reason =>
      exact Outlets.logs_record _ _ _ (Reporter.notOccupied_append (by decide) (by decide) _ _ _)
    | performed result wire =>
      rw [reportTransmission_performed, h.live]
      exact Reporter.Sending.report_logs_of_open ⟨d, method, result, measured⟩ c.reporter h.sink
  | @flushed i c hc =>
    simp only [flush, Client.flush, h.live]
    exact c.reporter.drain_logs none h.sink
  | @destroyed i c hc =>
    simp only [setClient, flush, Client.flush, h.live]
    exact c.reporter.drain_logs none h.sink
  | _ => exact .refl _

lemma Reporting.stepped_reports (h : Reporting ctx held run) {action : Action}
    (hstepped : Stepped run action next) (hstop : action ≠ .stop) :
    Reports ctx held run (action.event run) next := by
  have hended := ended_of_stepped hstepped hstop
  have hgiven := given_of_stepped hstepped
  rw [h.live] at hended hgiven
  obtain ⟨hbase, henabled, hclients⟩ := h.uniform.stepped hstepped
  refine ⟨⟨action.handed run, h.uniform.forall₂_handed hstepped, ?_⟩, slots_of_stepped hstepped,
    h.quiet hstepped⟩
  exact ⟨hended, hgiven.sink_of_open h.sink, hbase, henabled, hclients⟩

/-- A step of a run that goes on does to the reports what its event says. -/
lemma Reporting.step_reports (h : Reporting ctx held run) {step : Step} (hstep : step ≠ .stop) :
    Reports ctx held run (run.event step) (run.step step).2 :=
  h.stepped_reports (run.stepped_step step) (run.action_ne_stop hstep)

/-! ## Histories -/

/-- A step as it is seen from outside: its event, and the batches that the sink got. -/
structure Record where
  event : Event
  emitted : List Batch

def record (run : Run) (step : Step) : Record where
  event := run.event step
  emitted := (run.step step).2.context.outlets.batches.drop run.context.outlets.batches.length

def records (run : Run) : List Step → List Record
  | [] => []
  | step :: rest => run.record step :: (run.step step).2.records rest

/-- The round trips that wait after a history. -/
def slotsAfter (slots : Slots) (records : List Record) : Slots :=
  records.foldl (fun slots record => record.event.slots slots) slots

/-- The round trips that a client makes. -/
def tripsOf (i : Nat) (records : List Record) : List RoundTrip :=
  records.filterMap (·.event.trip? i)

/-- The batches that the sink gets on account of a client. -/
def batchesOf (i : Nat) (records : List Record) : List Batch :=
  records.flatMap fun record => if record.event.client? = some i then record.emitted else []

/-- Every step of a history reports what its event says, no earlier and no later. -/
def OnTime (ctx : RunContext) (slots : Slots) (records : List Record) : Prop :=
  ∀ past record rest, records = past ++ record :: rest →
    List.Forall₂ (IsReport ctx) (record.event.reported (slotsAfter slots past)) record.emitted

lemma onTime_nil (ctx : RunContext) (slots : Slots) : OnTime ctx slots [] := by
  intro past record rest h
  simp at h

lemma onTime_cons {ctx : RunContext} {slots : Slots} {first : Record} {others : List Record} :
    OnTime ctx slots (first :: others)
      ↔ List.Forall₂ (IsReport ctx) (first.event.reported slots) first.emitted
        ∧ OnTime ctx (first.event.slots slots) others := by
  constructor
  · intro h
    refine ⟨h [] first others rfl, ?_⟩
    rintro past record rest rfl
    exact h (first :: past) record rest rfl
  · rintro ⟨hfirst, hothers⟩ past record rest h
    cases past with
    | nil =>
      obtain ⟨rfl, rfl⟩ := List.cons.inj h
      exact hfirst
    | cons earlier past =>
      obtain ⟨rfl, rfl⟩ := List.cons.inj h
      exact hothers past record rest rfl

/-- The round trips of a client are reported in their order, but for the one that still waits. -/
lemma OnTime.in_order (i : Nat) {slots : Slots} {records : List Record}
    (h : OnTime ctx slots records) :
    ∃ reported, (slots i).toList ++ tripsOf i records
        = reported ++ (slotsAfter slots records i).toList
      ∧ List.Forall₂ (IsReport ctx) reported (batchesOf i records) := by
  induction records generalizing slots with
  | nil => exact ⟨[], by simp [tripsOf, slotsAfter], .nil⟩
  | cons record rest ih =>
    obtain ⟨hrecord, hrest⟩ := onTime_cons.1 h
    obtain ⟨others, hothers, hreports⟩ := ih hrest
    refine ⟨record.event.reportedOf i slots ++ others, ?_, ?_⟩
    · calc (slots i).toList ++ tripsOf i (record :: rest)
          = ((slots i).toList ++ (record.event.trip? i).toList) ++ tripsOf i rest := by
            cases htrip : record.event.trip? i <;> simp [tripsOf, htrip]
        _ = record.event.reportedOf i slots
              ++ ((record.event.slots slots i).toList ++ tripsOf i rest) := by
            rw [Event.balance, List.append_assoc]
        _ = (record.event.reportedOf i slots ++ others)
              ++ (slotsAfter slots (record :: rest) i).toList := by
            rw [hothers, List.append_assoc]
            rfl
    · refine List.rel_append ?_ hreports
      simp only [Event.reportedOf]
      split
      · exact hrecord
      · exact .nil

lemma Reporting.record_emitted (h : Reporting ctx held run) {step : Step} (hstep : step ≠ .stop) :
    List.Forall₂ (IsReport ctx) ((run.event step).reported run.slots) (run.record step).emitted
      ∧ Reporting ctx (held ++ (run.record step).emitted) (run.step step).2 := by
  obtain ⟨batches, hbatches, hnext⟩ := (h.step_reports hstep).emitted
  have hemitted : (run.record step).emitted = batches := by
    simp [record, Outlets.batches, h.sink, hnext.sink, Sink.batches]
  rw [hemitted]
  exact ⟨hbatches, hnext⟩

/-- What the steps of a history do to the reports of a run that goes on. -/
lemma Reporting.steps_report (h : Reporting ctx held run) {history : List Step}
    (hstop : Step.stop ∉ history) :
    OnTime ctx run.slots (run.records history)
      ∧ Reporting ctx (held ++ (run.records history).flatMap (·.emitted)) (run.steps history).2
      ∧ (run.steps history).2.slots = slotsAfter run.slots (run.records history)
      ∧ Outlets.Logs Reporter.NotOccupied run.context.outlets
          (run.steps history).2.context.outlets := by
  induction history generalizing run held with
  | nil => exact ⟨onTime_nil _ _, by simpa [records, steps] using h, rfl, .refl _⟩
  | cons step rest ih =>
    obtain ⟨hstep, hrest⟩ : step ≠ .stop ∧ Step.stop ∉ rest := by
      simpa [eq_comm] using hstop
    have hreports := h.step_reports hstep
    obtain ⟨hemitted, hnext⟩ := h.record_emitted hstep
    obtain ⟨honTime, hreporting, hslots, hquiet⟩ := ih hnext hrest
    rw [hreports.slots] at honTime hslots
    refine ⟨onTime_cons.2 ⟨hemitted, honTime⟩, ?_, hslots, hreports.quiet.trans hquiet⟩
    rw [List.append_assoc] at hreporting
    exact hreporting

/-- **Every send is reported exactly once.**  In a run that begins without clients, goes on and has
an open buffer as its sink, and for every history of steps:

* the sink gets nothing but what the steps of the history emit;
* every step emits exactly one batch for each round trip that its event reports, so that a failure
  of the body is reported by the send that it befell, any other round trip by what its client does
  next, and a body that could not be rewound never;
* the round trips of a client, in the order of its sends, are those that its batches report, in the
  same order, and the one that still waits;
* what waits is what the client has staged, so that nothing waits of one that is gone; and
* no slot is ever found occupied. -/
theorem every_send_is_reported_once {run : Run} {held : List Batch} (hclients : run.clients = [])
    (hlive : run.context.ended = false)
    (hsink : run.context.outlets.sink = some (.buffer held false)) {history : List Step}
    (hstop : Step.stop ∉ history) :
    let records := run.records history
    let after := (run.steps history).2
    let waiting := slotsAfter (fun _ => none)
    after.context.outlets.batches = held ++ records.flatMap (·.emitted)
      ∧ (∀ past record rest, records = past ++ record :: rest →
          List.Forall₂ (IsReport run.context) (record.event.reported (waiting past)) record.emitted)
      ∧ (∀ i, ∃ reported, tripsOf i records = reported ++ (waiting records i).toList
          ∧ List.Forall₂ (IsReport run.context) reported (batchesOf i records))
      ∧ (∀ i, waiting records i = (after.client? i).bind (·.reporter.staged))
      ∧ Outlets.Logs Reporter.NotOccupied run.context.outlets after.context.outlets := by
  intro records after waiting
  have hnone : ∀ i, run.client? i = none := by
    intro i
    simp [client?, hclients]
  have hslots : run.slots = fun _ => none := by
    funext i
    simp [slots, hnone]
  have h : Reporting run.context held run := by
    refine ⟨hlive, hsink, rfl, rfl, ?_⟩
    intro i c hc
    rw [hnone i] at hc
    cases hc
  obtain ⟨honTime, hreporting, hafter, hquiet⟩ := h.steps_report hstop
  rw [hslots] at honTime hafter
  refine ⟨?_, honTime, ?_, ?_, hquiet⟩
  · simp [after, records, Outlets.batches, hreporting.sink, Sink.batches]
  · intro i
    simpa using honTime.in_order i
  · intro i
    exact congrFun hafter.symm i

/-- A run with one definition. -/
def lone : Run := { definitions := [{ url := utf8 "http://a/" }] }

/-- A client comes, sends the definition twice, the second time with a body that fails, and
goes. -/
def visit : List Step :=
  [.create {}, .send 0 0 .get { status := 200 } {},
    .send 0 0 .get { code := .receiveFailed, status := 200 } {}, .destroy 0]

theorem every_send_is_reported_once_visit :
    Step.stop ∉ visit ∧ (tripsOf 0 (lone.records visit)).length = 2
      ∧ List.Forall₂ (IsReport lone.context) (tripsOf 0 (lone.records visit))
          (batchesOf 0 (lone.records visit)) := by
  have hstop : Step.stop ∉ visit := by simp [visit]
  have hlength : (tripsOf 0 (lone.records visit)).length = 2 := by rfl
  have hwaiting : slotsAfter (fun _ => none) (lone.records visit) 0 = none := by rfl
  refine ⟨hstop, hlength, ?_⟩
  obtain ⟨reported, htrips, hreports⟩ :=
    (@every_send_is_reported_once lone [] rfl rfl rfl visit hstop).2.2.1 0
  rw [hwaiting, Option.toList_none, List.append_nil] at htrips
  rw [htrips]
  exact hreports

end Run

end MeteredHttp
