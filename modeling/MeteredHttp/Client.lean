import MeteredHttp.Definition
import MeteredHttp.Reporter
import MeteredHttp.RunContext

/-!
# Clients

A client sends request definitions through its transport and has every round trip reported by its
reporter.  A round trip is reported when the next one begins, or when its body turns out to have
failed.

* `Client.make` checks a configuration.
* `Client.report` is all that is reported of one round trip, `Client.flush` reports the last one.
-/

namespace MeteredHttp

/-- What sends requests and reports on them. -/
structure Client where
  transport : Transport
  reporter : Reporter

/-- When a transfer ended and how long it took, in nanoseconds. -/
structure Measured where
  finishedAt : Timestamp := default
  elapsed : Int := 0

namespace Client

/-- The text of the error about a client that is to be made without a run. -/
def missingRun : Bytes := utf8 "client requires a run state"

/-- A client for a configuration, if that is valid. -/
def make (id : Nat) (config : ClientConfig) (files : Files) (run : RunContext) :
    Except ClientConfig.Invalid Client := do
  return {
    transport := ← Transport.make id config files
    reporter := { base := run.base, enabled := run.enabled } }

/-- The round trip of a transfer.  If the head of a response arrived no failure is attached yet. -/
def roundTrip (d : Definition) (method : Method) (r : Transfer.Result) (measured : Measured) :
    RoundTrip where
  request := { method := method.wireName, url := d.url, tags := d.options.tags }
  status := if 0 < r.status then some r.status else none
  telemetry := {
    finishedAt := measured.finishedAt
    connectDuration := r.connectDuration * 1000
    duration := measured.elapsed
    remote := r.remote? }
  failure := if r.failedInBody then none else d.failure? method r

/-- The warning about a failure that is not raised. -/
def complain (d : Definition) (what : String) (failure : Failure) (outlets : Outlets) : Outlets :=
  if d.options.throwOnError then outlets
  else outlets.warn (utf8 what ++ utf8 ": " ++ failure.text)

/-- What is reported when a round trip has failed, beyond its being staged.  A failure of the body
completes the round trip at once. -/
def reportFailure (d : Definition) (r : Transfer.Result) (failure : Failure) (ended : Bool)
    (reporter : Reporter) (outlets : Outlets) : Reporter × Outlets :=
  if r.failedInBody then
    let after := reporter.drain ended (some failure) outlets
    (after.reporter, complain d "reading response body failed" failure after.outlets)
  else (reporter, complain d "request failed" failure outlets)

/-- Reports a round trip: the one before it is completed, and it is staged. -/
def report (d : Definition) (method : Method) (r : Transfer.Result) (measured : Measured)
    (ended : Bool) (reporter : Reporter) (outlets : Outlets) : Reporter × Outlets :=
  let drained := reporter.drain ended none outlets
  let staged :=
    drained.reporter.stage ended (roundTrip d method r measured) drained.outlets
  match d.failure? method r with
  | none => (staged.reporter, staged.outlets)
  | some failure => reportFailure d r failure ended staged.reporter staged.outlets

/-- Completes the round trip that is still staged. -/
def flush (c : Client) (run : RunContext) : Client × RunContext :=
  let after := c.reporter.drain run.ended none run.outlets
  ({ c with reporter := after.reporter }, { run with outlets := after.outlets })

/-- The text about a body that could not be rewound. -/
def unrewoundText (reason : Bytes) : Bytes :=
  utf8 "failed to reset stream to beginning: " ++ reason

/-- Reports what became of a transfer. -/
def reportTransmission (d : Definition) (method : Method) (transmission : Definition.Transmission)
    (measured : Measured) (c : Client) (run : RunContext) : Client × RunContext :=
  match transmission with
  | .unrewound reason => (c, { run with outlets := run.outlets.fail (unrewoundText reason) })
  | .performed r _ =>
    let (reporter, outlets) := report d method r measured run.ended c.reporter run.outlets
    ({ c with reporter }, { run with outlets })

end Client

end MeteredHttp
