import MeteredHttp.Client

/-!
# Runs of clients

A run is a sequence of steps that clients take one after the other: they send definitions, report
what is left, and come and go.

* `Run.step` is one step, `Run.steps` several.
* `Run.finish` destroys the clients that are left.
-/

namespace MeteredHttp

/-- The state of a run. -/
structure Run where
  context : RunContext := {}
  files : Files := {}
  /-- The clients by number; those that are gone leave a gap. -/
  clients : List (Option Client) := []
  definitions : List Definition := []
  /-- The sources of bodies that are read on the way. -/
  sources : Sources := []

/-- A step of a run. -/
inductive Step where
  /-- A client sends a definition. -/
  | send (client definition : Nat) (method : Method) (exchange : Transfer.Exchange)
      (measured : Measured)
  /-- A client reports the round trip that is still staged. -/
  | flush (client : Nat)
  /-- A client gets a judge of statuses, or loses it. -/
  | setJudge (client : Nat) (judge : Option Judge)
  /-- A new client. -/
  | create (config : ClientConfig)
  /-- A client is destroyed. -/
  | destroy (client : Nat)
  /-- The run is over: samples are dropped from now on. -/
  | stop

/-- What a step shows. -/
inductive Shown where
  | nothing
  /-- What the caller gets, and what was sent. -/
  | sent (outcome : Definition.Outcome) (wire : Option Transfer.Wire)
  /-- The configuration was not accepted. -/
  | rejected (error : ClientConfig.Invalid)

namespace Run

/-- The client of a number. -/
def client? (run : Run) (i : Nat) : Option Client := (run.clients[i]?).join

/-- Puts a client in its place. -/
def setClient (run : Run) (i : Nat) (client : Option Client) : Run :=
  { run with clients := run.clients.set i client }

/-- What a caller gets for a transmission, and what was sent. -/
def shown (d : Definition) (method : Method) : Definition.Transmission → Shown
  | .unrewound reason => .sent (.unrewound reason) none
  | .performed r wire => .sent (d.outcome method r) wire

/-- A client sends a definition. -/
def send (run : Run) (i : Nat) (c : Client) (j : Nat) (d : Definition) (method : Method)
    (exchange : Transfer.Exchange) (measured : Measured) : Shown × Run :=
  let sent := d.send c.transport run.sources method exchange
  let (c, context) := c.reportTransmission d method sent.transmission measured run.context
  (shown d method sent.transmission,
    { run with
      context
      clients := run.clients.set i (some c)
      definitions := run.definitions.set j sent.definition
      sources := sent.sources })

/-- A client reports what is staged. -/
def flush (run : Run) (i : Nat) (c : Client) : Run :=
  let (c, context) := c.flush run.context
  { run with context, clients := run.clients.set i (some c) }

/-- A client reports what is staged and is gone. -/
def destroy (run : Run) (i : Nat) : Run :=
  match run.client? i with
  | some c => (run.flush i c).setClient i none
  | none => run

/-- A new client; it is not added if its configuration is not accepted. -/
def create (run : Run) (config : ClientConfig) : Shown × Run :=
  match Client.make run.clients.length config run.files run.context with
  | .ok c => (.nothing, { run with clients := run.clients ++ [some c] })
  | .error error => (.rejected error, run)

/-- One step.  A step of a client or with a definition that is not there does nothing. -/
def step (run : Run) : Step → Shown × Run
  | .send i j method exchange measured =>
    match run.client? i, run.definitions[j]? with
    | some c, some d => run.send i c j d method exchange measured
    | _, _ => (.nothing, run)
  | .flush i =>
    match run.client? i with
    | some c => (.nothing, run.flush i c)
    | none => (.nothing, run)
  | .setJudge i judge =>
    match run.client? i with
    | some c =>
      (.nothing, run.setClient i (some { c with reporter := c.reporter.setJudge judge }))
    | none => (.nothing, run)
  | .create config => run.create config
  | .destroy i => (.nothing, run.destroy i)
  | .stop => (.nothing, { run with context := run.context.stop })

/-- Several steps, and what each of them shows. -/
def steps (run : Run) : List Step → List Shown × Run
  | [] => ([], run)
  | step :: rest =>
    let (shown, run) := run.step step
    let (others, run) := run.steps rest
    (shown :: others, run)

/-- Destroys the clients that are left, in order. -/
def finish (run : Run) : Run :=
  (List.range run.clients.length).foldl destroy run

end Run

end MeteredHttp
