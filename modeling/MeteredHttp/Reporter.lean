import MeteredHttp.HostPort
import MeteredHttp.Judge
import MeteredHttp.Outlets
import MeteredHttp.RoundTrip

/-!
# The reporter of a client

The samples of a round trip are not made when it ends but when the next one begins, because until
then the caller may still report that the body of the response failed.  In between the round trip
waits in the one slot of the reporter.

* `Reporter.stage` puts a round trip into the slot.
* `Reporter.drain` takes it out again and emits its samples.
* `Reporter.context` is the set of tags that the samples of a round trip get.
-/

namespace MeteredHttp

/-- The reporter of a client. -/
structure Reporter where
  /-- The tags and the metadata that every sample gets. -/
  base : TagContext
  enabled : SystemTagSet
  judge : Option Judge := none
  /-- The round trip in the slot. -/
  staged : Option RoundTrip := none

namespace Reporter

/-- The text of the error about a reporter that is to be made without a run. -/
def missingRun : Bytes := utf8 "metric_dispatcher requires a run state"

/-! ## Tags -/

/-- The tags that name the URL.  A name that the user has set stands for the URL as well, lest
every URL become a value of its own. -/
def nameUrl (enabled : SystemTagSet) (url : Bytes) (ctx : TagContext) : TagContext :=
  match ctx.tags.find? SystemTag.name.key with
  | some name => ctx.withEnabled enabled .url name
  | none => (ctx.withEnabled enabled .name url).withEnabled enabled .url url

/-- The tags of the outcome: the status, and the error if there was one. -/
def tagOutcome (enabled : SystemTagSet) (trip : RoundTrip) (ctx : TagContext) : TagContext :=
  let verdict := trip.verdict
  let ctx := if trip.failure.isSome then ctx.withEnabled enabled .error verdict.message else ctx
  let ctx :=
    if trip.failure.isSome ∨ 400 ≤ trip.reportedStatus then
      ctx.withEnabled enabled .errorCode (Numeral.decimal verdict.code.number.toNat)
    else ctx
  ctx.withEnabled enabled .status (Numeral.decimal trip.reportedStatus)

/-- The tag of the address of the peer. -/
def tagPeer (enabled : SystemTagSet) (remote : Option Bytes) (ctx : TagContext) : TagContext :=
  match remote.bind HostPort.split? with
  | some host => ctx.withEnabled enabled .ip host
  | none => ctx

/-- The tag of the verdict on the status, if it was judged. -/
def tagExpected (enabled : SystemTagSet) (expected : Option Bool) (ctx : TagContext) :
    TagContext :=
  match expected with
  | some expected =>
    ctx.withEnabled enabled .expectedResponse (if expected then utf8 "true" else utf8 "false")
  | none => ctx

/-- The tags and the metadata of the samples of a round trip. -/
def context (r : Reporter) (trip : RoundTrip) (expected : Option Bool) : TagContext :=
  (r.base.overlay trip.request.tags)
    |> nameUrl r.enabled trip.request.url
    |> fun ctx => ctx.withEnabled r.enabled .method trip.request.method
    |> tagOutcome r.enabled trip
    |> tagPeer r.enabled trip.telemetry.remote
    |> tagExpected r.enabled expected

/-! ## Samples -/

/-- Whether the status of a round trip was expected, if it is judged at all.  A judge that fails
has not expected it, and the log says why it failed, up to the first NUL byte of the reason. -/
def expected? (r : Reporter) (trip : RoundTrip) (outlets : Outlets) : Option Bool × Outlets :=
  match r.judge with
  | none => (none, outlets)
  | some judge =>
    match judge trip.reportedStatus with
    | .ok expected => (some expected, outlets)
    | .error reason =>
      (some false, outlets.warn (utf8 "metric dispatcher: response callback failed for "
        ++ trip.request.url ++ utf8 ": " ++ reason.untilNul))

/-- The telemetry of a round trip with its samples made. -/
def complete (r : Reporter) (trip : RoundTrip) (expected : Option Bool) : Telemetry :=
  let ctx := r.context trip expected
  let telemetry := trip.telemetry.record ctx
  match expected with
  | some expected => telemetry.judge ctx expected
  | none => telemetry

/-- Makes the samples of a round trip and hands them over. -/
def emit (r : Reporter) (ended : Bool) (trip : RoundTrip) (outlets : Outlets) :
    Finished × Outlets :=
  let (expected, outlets) := r.expected? trip outlets
  let telemetry := r.complete trip expected
  let verdict := trip.verdict
  (⟨{ trip with telemetry }, verdict.code, verdict.message⟩,
    outlets.publishOrWarn ended telemetry.samples
      (utf8 "metric dispatcher: dropping samples of " ++ trip.request.url))

/-! ## The slot -/

/-- The effect of a step on a reporter, its outlets, and the round trip that it finished. -/
structure Effect where
  reporter : Reporter
  outlets : Outlets
  finished : Option Finished

/-- Puts a round trip into the slot.  If another one is still there, which callers avoid, that one
is emitted first. -/
def stage (r : Reporter) (ended : Bool) (trip : RoundTrip) (outlets : Outlets) : Effect :=
  let after := { r with staged := some trip }
  match r.staged with
  | none => ⟨after, outlets, none⟩
  | some previous =>
    let outlets := outlets.warn
      (utf8 "metric dispatcher: unexpected unprocessed request for " ++ previous.request.url)
    let (finished, outlets) := r.emit ended previous outlets
    ⟨after, outlets, some finished⟩

/-- Takes the round trip out of the slot, if there is one, and emits it.  A failure reported now is
attached unless the round trip has one of its own. -/
def drain (r : Reporter) (ended : Bool) (failure : Option Failure) (outlets : Outlets) : Effect :=
  match r.staged with
  | none => ⟨r, outlets, none⟩
  | some trip =>
    let (finished, outlets) :=
      r.emit ended { trip with failure := trip.failure <|> failure } outlets
    ⟨{ r with staged := none }, outlets, some finished⟩

/-- Installs a judge of statuses, or removes it. -/
def setJudge (r : Reporter) (judge : Option Judge) : Reporter := { r with judge }

end Reporter

end MeteredHttp
