import MeteredHttp.Proofs.Failure.Codes
import MeteredHttp.Proofs.Reporter.Emission
import MeteredHttp.Proofs.Tags

/-!
# The tags and the samples of a report

The tags of a report are made in stages, each of which sets a few system tags.

* `Reporter.stated?` is what a report says under every system tag, and `Reporter.context_eq` that
  the stages set these and no others.
* `Reporter.find?_context` is what is found under any name.  `Reporter.find?_context_of_wanted` is
  the case of the three tags that tell the outcome of a round trip, for which
  `RoundTrip.outcomeTag?` is what they say.
* `Reporter.batch_eq` is the batch of a report, `Reporter.batch_tags` says that its samples have
  these tags if none of them was made before, and that there is one.
* **`Reporter.emitted_batch_and_tags`** is all that a reporter hands over for a round trip.

The code of an error is a number of 32 bits.  A status to which 1000 cannot be added within them
wraps around (`Reporter.errorCode_of_large_status`).
-/

namespace MeteredHttp

/-- The system tags that tell the outcome of a round trip. -/
def SystemTag.outcome : List SystemTag := [.status, .error, .errorCode]

/-- What a round trip says of its outcome under a system tag. -/
def RoundTrip.outcomeTag? (trip : RoundTrip) : SystemTag → Option Bytes
  | .status => some (Numeral.decimal trip.reportedStatus)
  | .error => if trip.failure.isSome then some trip.verdict.message else none
  | .errorCode =>
    if trip.failure.isSome ∨ 400 ≤ trip.reportedStatus then
      some (Numeral.decimal trip.verdict.code.number.toNat)
    else none
  | _ => none

namespace Reporter

variable (r : Reporter) (trip : RoundTrip) (expected : Option Bool)

/-! ## What is stated -/

/-- The name that the user has set, for the request or for all. -/
def userName? : Option Bytes :=
  (trip.request.tags.find? SystemTag.name.key).or (r.base.tags.find? SystemTag.name.key)

/-- What a report says under a system tag. -/
def stated? : SystemTag → Option Bytes
  | .url => some ((r.userName? trip).getD trip.request.url)
  | .name => if (r.userName? trip).isSome then none else some trip.request.url
  | .method => some trip.request.method
  | .status => some (Numeral.decimal trip.reportedStatus)
  | .error => trip.failure.map (·.classify.message)
  | .errorCode =>
    match trip.failure with
    | some failure => some (Numeral.decimal failure.classify.code.number.toNat)
    | none =>
      if 400 ≤ trip.reportedStatus then
        some (Numeral.decimal ((1000 + trip.reportedStatus) % UInt32.size))
      else none
  | .ip => trip.telemetry.remote.bind HostPort.split?
  | .expectedResponse => expected.map fun expected => utf8 (if expected then "true" else "false")
  | _ => none

/-- The system tags of reports, in the order in which they are set. -/
def reportedTags : List SystemTag :=
  [.name, .url, .method, .error, .errorCode, .status, .ip, .expectedResponse]

/-- The outcome is stated as the round trip has it. -/
lemma stated?_of_outcome {tag : SystemTag} (htag : tag ∈ SystemTag.outcome) :
    r.stated? trip expected tag = trip.outcomeTag? tag := by
  simp only [SystemTag.outcome, List.mem_cons, List.not_mem_nil, or_false] at htag
  rcases htag with rfl | rfl | rfl
  · rfl
  · cases hfailure : trip.failure <;>
      simp [stated?, RoundTrip.outcomeTag?, RoundTrip.verdict, hfailure]
  · cases hfailure : trip.failure with
    | some failure => simp [stated?, RoundTrip.outcomeTag?, RoundTrip.verdict, hfailure]
    | none =>
      by_cases herror : 400 ≤ trip.reportedStatus
      · simp [stated?, RoundTrip.outcomeTag?, RoundTrip.verdict, hfailure, herror,
          ErrorCode.toNat_ofStatus_emod]
      · simp [stated?, RoundTrip.outcomeTag?, hfailure, herror]

/-! ## The stages -/

lemma nameUrl_eq :
    nameUrl r.enabled trip.request.url (r.base.overlay trip.request.tags)
      = (r.base.overlay trip.request.tags).withValues r.enabled [.name, .url]
          (r.stated? trip expected) := by
  have hname : (r.base.overlay trip.request.tags).tags.find? SystemTag.name.key
      = r.userName? trip := Dictionary.find?_overlay _ _ _
  rw [nameUrl, hname]
  cases huser : r.userName? trip with
  | none => simp [TagContext.withValues, TagContext.withValue, stated?, huser]
  | some name => simp [TagContext.withValues, TagContext.withValue, stated?, huser]

lemma tagOutcome_eq (ctx : TagContext) :
    tagOutcome r.enabled trip ctx
      = ctx.withValues r.enabled [.error, .errorCode, .status] (r.stated? trip expected) := by
  have hstated : ∀ tag ∈ SystemTag.outcome, r.stated? trip expected tag = trip.outcomeTag? tag :=
    fun tag htag => r.stated?_of_outcome trip expected htag
  simp only [TagContext.withValues, List.foldl_cons, List.foldl_nil]
  rw [hstated .error (by decide), hstated .errorCode (by decide), hstated .status (by decide)]
  by_cases hfailed : trip.failure.isSome <;> by_cases herror : 400 ≤ trip.reportedStatus <;>
    simp [tagOutcome, TagContext.withValue, RoundTrip.outcomeTag?, hfailed, herror]

lemma tagPeer_eq (ctx : TagContext) :
    tagPeer r.enabled trip.telemetry.remote ctx
      = ctx.withValues r.enabled [.ip] (r.stated? trip expected) := rfl

lemma tagExpected_eq (ctx : TagContext) :
    tagExpected r.enabled expected ctx
      = ctx.withValues r.enabled [.expectedResponse] (r.stated? trip expected) := by
  cases expected with
  | none => rfl
  | some expected => cases expected <;> rfl

/-- The stages set the tags that are stated, one after the other. -/
lemma context_eq :
    r.context trip expected
      = (r.base.overlay trip.request.tags).withValues r.enabled reportedTags
          (r.stated? trip expected) := by
  simp only [context, nameUrl_eq r trip expected, tagOutcome_eq r trip expected,
    tagPeer_eq r trip expected, tagExpected_eq r trip expected]
  rfl

lemma stated?_eq_none {tag : SystemTag} (htag : tag ∉ reportedTags) :
    r.stated? trip expected tag = none := by
  cases tag with
  | name | url | method | error | errorCode | status | ip | expectedResponse =>
    exact absurd (by decide) htag
  | _ => rfl

/-! ## The tags -/

/-- **What is found under a name in the tags of a report.** -/
lemma find?_context (name : Bytes) :
    (r.context trip expected).tags.find? name
      = ((SystemTag.ofKey? name).bind fun tag =>
          if r.enabled.has tag then r.stated? trip expected tag else none).or
        ((trip.request.tags.find? name).or (r.base.tags.find? name)) := by
  rw [context_eq, TagContext.find?_withValues _ _ (by decide), TagContext.overlay,
    Dictionary.find?_overlay]
  congr 2
  funext tag
  by_cases htag : tag ∈ reportedTags
  · simp [htag]
  · -- no stage sets the tag, but nothing is stated under it either
    simp [r.stated?_eq_none trip expected htag]

/-- No system tag of a report is kept with the metadata. -/
lemma metadata_context : (r.context trip expected).metadata = r.base.metadata := by
  rw [context_eq, TagContext.metadata_withValues _ _ (by decide)]
  rfl

/-- Nothing is found but the outcome if the tag is wanted and nobody else sets it. -/
lemma find?_context_of_wanted {tag : SystemTag} (htag : tag ∈ SystemTag.outcome)
    (hwanted : r.enabled.has tag = true) (hbase : r.base.tags.find? tag.key = none)
    (hrequest : trip.request.tags.find? tag.key = none) :
    (r.context trip expected).tags.find? tag.key = trip.outcomeTag? tag := by
  rw [find?_context, SystemTag.ofKey?_key, hrequest, hbase, Option.none_or, Option.or_none,
    Option.bind_some, if_pos hwanted, stated?_of_outcome _ _ _ htag]

/-! ## The samples -/

/-- The samples that are added to those a round trip has. -/
def added : Batch :=
  let sample := trip.telemetry.sample (r.context trip (r.verdict? trip))
  (if trip.telemetry.isSealed then []
    else [sample .requests .one, sample .duration (milliseconds trip.telemetry.duration)])
  ++ (r.verdict? trip).toList.map fun expected => sample .failed (if expected then .zero else .one)

lemma batch_eq : (r.finish trip).batch = trip.telemetry.samples ++ r.added trip := by
  cases hsealed : trip.telemetry.isSealed <;> cases hverdict : r.verdict? trip <;>
    simp [Finished.batch, finish, complete, Telemetry.record, Telemetry.judge, Telemetry.sample,
      added, hsealed, hverdict]

/-- The samples of a round trip of which none was made before. -/
lemma batch_tags (r : Reporter) {trip : RoundTrip} (hsealed : trip.telemetry.isSealed = false)
    (hsamples : trip.telemetry.samples = []) :
    (r.finish trip).batch ≠ []
      ∧ ∀ sample ∈ (r.finish trip).batch,
          sample.tags = (r.context trip (r.verdict? trip)).tags := by
  rw [batch_eq, hsamples, List.nil_append]
  constructor
  · simp [added, hsealed]
  · cases hverdict : r.verdict? trip <;> simp [added, hsealed, hverdict, Telemetry.sample]

/-- **What is emitted for a round trip.**  The batch is the samples it has, then those that every
round trip gets unless they were made before, then the one about the verdict if there is a judge,
who is asked about the number that the status tag shows.  The new ones agree in their tags: under
every name there is what is stated under the system tag of that name if it is wanted, or else what
the request brought, or else what all requests have. -/
theorem emitted_batch_and_tags (ended : Bool) (outlets : Outlets) :
    ∃ tags : Tags,
      let t := trip.telemetry
      let sample (series : Series) (value : Binary64) : Sample :=
        { series := some series, tags, metadata := r.base.metadata, time := t.finishedAt, value }
      let batch := t.samples
        ++ (if t.isSealed then []
          else [sample .requests .one, sample .duration (milliseconds t.duration)])
        ++ (match r.judge with
          | none => []
          | some judge =>
            [sample .failed (if judge trip.reportedStatus matches .ok true then .zero else .one)])
      (∀ name, tags.find? name
        = ((SystemTag.ofKey? name).bind fun tag =>
            if r.enabled.has tag then r.stated? trip (r.verdict? trip) tag else none).or
          ((trip.request.tags.find? name).or (r.base.tags.find? name)))
      ∧ (r.emit ended trip outlets).1.batch = batch
      ∧ Outlets.Given ended [batch] outlets (r.emit ended trip outlets).2 := by
  refine ⟨(r.context trip (r.verdict? trip)).tags, ?_⟩
  intro t sample batch
  have hsample : sample = t.sample (r.context trip (r.verdict? trip)) := by
    funext series value
    simp only [sample, Telemetry.sample, metadata_context, t]
  have hbatch : (r.finish trip).batch = batch := by
    rw [batch_eq, added, ← hsample, ← List.append_assoc]
    cases hjudge : r.judge with
    | none => simp [verdict?, hjudge, batch, t]
    | some judge =>
      -- a judge fails, says no or says yes; the first two are one verdict
      rcases hverdict : judge trip.reportedStatus with reason | _ | _ <;>
        simp [verdict?, hjudge, hverdict, batch, t, Except.toOption]
  refine ⟨r.find?_context trip _, ?_, ?_⟩
  · rw [emit_fst, hbatch]
  · rw [← hbatch]
    exact r.emit_given ended trip outlets

/-- The code of a status of which the sum with 1000 has more than 32 bits is not that sum. -/
theorem errorCode_of_large_status :
    let r : Reporter := { base := {}, enabled := .default }
    let trip : RoundTrip :=
      { request := { method := utf8 "GET", url := utf8 "http://a/" }, status := some 4294967700 }
    let batch := (r.emit false trip {}).1.batch
    trip.failure = none ∧ 400 ≤ trip.reportedStatus ∧ r.enabled.has .errorCode = true ∧ batch ≠ []
      ∧ ∀ sample ∈ batch,
        sample.tags.find? SystemTag.errorCode.key = some (utf8 "1404")
          ∧ some (utf8 "1404") ≠ some (Numeral.decimal (1000 + trip.reportedStatus)) := by
  intro r trip batch
  refine ⟨rfl, by decide, rfl, ?_, ?_⟩
  · simp [batch, batch_eq, added, trip]
  · intro sample hsample
    refine ⟨?_, by decide +kernel⟩
    have htags : sample.tags = (r.context trip (r.verdict? trip)).tags := by
      simp only [batch, emit_fst] at hsample
      exact (r.batch_tags rfl rfl).2 sample hsample
    rw [htags, find?_context]
    decide +kernel

end Reporter

end MeteredHttp
