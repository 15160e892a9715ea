import MeteredHttp.Proofs.Run.Requests

/-!
# Requests do not depend on telemetry

The clients of a run send requests and report on them, and both happens in the same step.  Here the
two are taken apart.

`Run.requests` is what a run is without its telemetry, and `Requests.step` what a step is then: it
knows of no reporter, no sink and no tags.  `Run.step_requests` says that nothing is lost that way,
and **`Run.telemetry_never_influences_requests`** that two runs which differ in nothing but their
telemetry show the same.
-/

namespace MeteredHttp

open Transfer (Exchange)

/-- A run without its telemetry. -/
structure Requests where
  files : Files
  transports : List (Option Transport)
  definitions : List Definition
  sources : Sources

namespace Requests

/-- A step that no reporter takes part in. -/
def step (r : Requests) : Step → Shown × Requests
  | .send i j method exchange _ =>
    match (r.transports[i]?).join, r.definitions[j]? with
    | some t, some d =>
      let sent := d.send t r.sources method exchange
      (Run.shown d method sent.transmission,
        { r with definitions := r.definitions.set j sent.definition, sources := sent.sources })
    | _, _ => (.nothing, r)
  | .create config =>
    match Transport.make r.transports.length config r.files with
    | .ok t => (.nothing, { r with transports := r.transports ++ [some t] })
    | .error error => (.rejected error, r)
  | .destroy i => (.nothing, { r with transports := r.transports.set i none })
  | .flush _ | .setJudge _ _ | .stop => (.nothing, r)

/-- How many handles wait in the pool of each definition. -/
def poolSizes (r : Requests) : List Nat := r.definitions.map (·.pool.size)

/-- What each step shows, and how many handles wait after it. -/
def trace (r : Requests) : List Step → List (Shown × List Nat)
  | [] => []
  | step :: rest =>
    ((r.step step).1, (r.step step).2.poolSizes) :: (r.step step).2.trace rest

end Requests

/-- A step without its telemetry: when it is measured does not matter, and some are nothing else. -/
def Step.bare? : Step → Option Step
  | .send i j method exchange _ => some (.send i j method exchange {})
  | .create config => some (.create config)
  | .destroy i => some (.destroy i)
  | .flush _ | .setJudge _ _ | .stop => none

namespace Run

variable {run other : Run} {step : Step}

def requests (run : Run) : Requests where
  files := run.files
  transports := run.clients.map (·.map (·.transport))
  definitions := run.definitions
  sources := run.sources

/-- What the steps of a history show, those left out that are nothing but telemetry, and how many
handles wait in the pool of each definition after them. -/
def observed (run : Run) : List Step → List (Shown × List Nat)
  | [] => []
  | step :: rest =>
    let (shown, next) := run.step step
    let others := next.observed rest
    if step.bare?.isSome then (shown, next.requests.poolSizes) :: others else others

/-! ## One step -/

lemma transports_join (run : Run) (i : Nat) :
    (run.requests.transports[i]?).join = (run.client? i).map (·.transport) := by
  rw [requests, List.getElem?_map, client?]
  cases run.clients[i]? <;> rfl

/-- The transports are what they were if a client changes in anything else. -/
lemma transports_set {i : Nat} {c after : Client} (hc : run.client? i = some c)
    (hafter : after.transport = c.transport) :
    (run.clients.set i (some after)).map (·.map (·.transport)) = run.requests.transports :=
  map_set_of_eq (Option.join_eq_some_iff.1 hc) (congrArg some hafter)

/-- Where no client is there is no transport to be removed. -/
lemma transports_set_none {i : Nat} (hc : run.client? i = none) :
    run.requests.transports.set i none = run.requests.transports := by
  have ht := run.transports_join i
  rw [hc, Option.map_none] at ht
  rcases lt_or_ge i run.requests.transports.length with hlt | hle
  · rw [List.getElem?_eq_getElem hlt] at ht
    have hnone : run.requests.transports[i] = none := ht
    rw [← hnone, List.set_getElem_self]
  · exact List.set_eq_of_length_le hle

lemma requests_setClient {i : Nat} {c after : Client} (hc : run.client? i = some c)
    (hafter : after.transport = c.transport) :
    (run.setClient i (some after)).requests = run.requests := by
  simp only [requests, setClient, transports_set hc hafter]

lemma requests_flush {i : Nat} {c : Client} (hc : run.client? i = some c) :
    (run.flush i c).requests = run.requests := by
  have htransport : (c.flush run.context).1.transport = c.transport := rfl
  simp only [requests, flush, transports_set hc htransport]

lemma requests_send {i j : Nat} {c : Client} {d : Definition} (hc : run.client? i = some c)
    (method : Method) (exchange : Exchange) (measured : Measured) :
    let sent := d.send c.transport run.sources method exchange
    (run.send i c j d method exchange measured).2.requests
      = { run.requests with
          definitions := run.definitions.set j sent.definition
          sources := sent.sources } := by
  simp only [requests, send, transports_set hc (transport_reportTransmission _ _ _ _ _ _)]

/-- A step shows and does to the requests what it would do without any telemetry. -/
lemma step_requests (run : Run) (step : Step) :
    (run.step step).1 = (run.requests.step step).1
      ∧ (run.step step).2.requests = (run.requests.step step).2 := by
  cases step with
  | send i j method exchange measured =>
    have ht := run.transports_join i
    cases hc : run.client? i with
    | none => simp [Run.step, Requests.step, ht, hc]
    | some c =>
      cases hd : run.definitions[j]? with
      | none => simp [Run.step, Requests.step, hc, requests, hd]
      | some d =>
        have hd' : run.requests.definitions[j]? = some d := hd
        rw [step_send hc hd, requests_send hc]
        simp only [Requests.step, ht, hc, Option.map_some, hd']
        exact ⟨rfl, rfl⟩
  | flush i =>
    cases hc : run.client? i with
    | none => simp [Run.step, Requests.step, hc]
    | some c => simp [Run.step, Requests.step, hc, requests_flush hc]
  | setJudge i judge =>
    cases hc : run.client? i with
    | none => simp [Run.step, Requests.step, hc]
    | some c =>
      simp only [Run.step, Requests.step, hc, true_and]
      exact requests_setClient hc rfl
  | create config =>
    -- A client is a transport and a reporter, and only the transport can be refused.
    cases ht : Transport.make run.clients.length config run.files with
    | error error =>
      have hmake : Client.make run.clients.length config run.files run.context = .error error := by
        simp [Client.make, ht, bind, Except.bind]
      simp [Run.step, Run.create, Requests.step, requests, ht, hmake]
    | ok t =>
      have hmake : Client.make run.clients.length config run.files run.context
          = .ok ⟨t, { base := run.context.base, enabled := run.context.enabled }⟩ := by
        simp [Client.make, ht, bind, Except.bind, pure, Except.pure]
      simp [Run.step, Run.create, Requests.step, requests, ht, hmake]
  | destroy i =>
    cases hc : run.client? i with
    | none => simp [Run.step, Run.destroy, Requests.step, hc, transports_set_none hc]
    | some c =>
      have hflush := congrArg Requests.transports (requests_flush hc)
      simp only [requests] at hflush
      simp only [Run.step, Run.destroy, Requests.step, hc, setClient, requests, List.map_set,
        hflush, true_and]
      rfl
  | stop => exact ⟨rfl, rfl⟩

/-! ## Histories -/

/-- Without its telemetry a step is the same or nothing. -/
lemma requests_step_bare (r : Requests) (step : Step) :
    match step.bare? with
    | some bare => r.step step = r.step bare
    | none => (r.step step).2 = r := by
  cases step <;> rfl

lemma observed_eq_trace (run : Run) (history : List Step) :
    run.observed history = run.requests.trace (history.filterMap Step.bare?) := by
  induction history generalizing run with
  | nil => rfl
  | cons step rest ih =>
    obtain ⟨hshown, hnext⟩ := run.step_requests step
    have hbare := requests_step_bare run.requests step
    simp only [observed, ih, hshown, hnext]
    cases hstep : step.bare? with
    | none =>
      rw [hstep] at hbare
      simp [hstep, hbare]
    | some bare =>
      rw [hstep] at hbare
      simp [hstep, hbare, Requests.trace]

/-- **Telemetry never influences requests.**  Two runs have the same definitions and sources, the
same files and clients with the same transports, and whatever telemetry: other sinks, other tags,
other round trips that are still staged, and the one may be over while the other goes on.  Their
histories are the same apart from when clients report, how statuses are judged, what is measured and
where the runs are stopped.  Then all sends have the same outcomes and put the same requests on the
wire, the same configurations are accepted, and after every step as many handles wait in the pools
of the definitions. -/
theorem telemetry_never_influences_requests {run other : Run}
    (hsame : run.requests = other.requests) {history history' : List Step}
    (hbare : history.filterMap Step.bare? = history'.filterMap Step.bare?) :
    run.observed history = other.observed history' := by
  rw [observed_eq_trace, observed_eq_trace, hsame, hbare]

def modest : Run := { definitions := [{ url := utf8 "http://a/" }] }

/-- The same with a sink that takes nothing, no system tags, and a tag that cannot be written. -/
def burdened : Run :=
  { modest with
    context := {
      enabled := .empty
      base := { tags := Dictionary.empty.insert (utf8 "team") [255] }
      outlets := { sink := some (.refusing (utf8 "full")) } } }

/-- Two sends, the second one with a body that fails. -/
def errands : List Step :=
  [.create {}, .send 0 0 .get { status := 200 } {},
    .send 0 0 .get { code := .receiveFailed, status := 200 } {}]

/-- The same with a judge that fails, and in a run that is over before the second send. -/
def disturbed : List Step :=
  [.create {}, .setJudge 0 (some fun _ => .error (utf8 "broken")),
    .send 0 0 .get { status := 200 } { elapsed := 5 }, .stop, .flush 0,
    .send 0 0 .get { code := .receiveFailed, status := 200 } {}]

theorem telemetry_never_influences_requests_disturbed :
    (modest.observed errands).length = 3
      ∧ modest.observed errands = burdened.observed disturbed := by
  have hsame : modest.requests = burdened.requests := rfl
  have hbare : errands.filterMap Step.bare? = disturbed.filterMap Step.bare? := rfl
  exact ⟨rfl, telemetry_never_influences_requests hsame hbare⟩

end Run

end MeteredHttp
