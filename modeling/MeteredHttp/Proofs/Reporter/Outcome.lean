import MeteredHttp.Proofs.Definition.Outcome
import MeteredHttp.Proofs.Reporter.Sending
import MeteredHttp.Proofs.Reporter.Tagging
import MeteredHttp.Proofs.Transfer.Decoding

/-!
# Two accounts of one send

A send gives its outcome to the caller, and its round trip to the reporter, which makes the samples
later on.  The code, the error and the status are computed twice.

`Sending.told?_outcome` says that the caller gets the verdict on the round trip, and
**`Sending.batch_agrees`** that the tags of the samples then say what the caller got.
-/

namespace MeteredHttp

open Definition (Outcome)

/-- A code as a tag has it; there is none for success. -/
def ErrorCode.tag? (code : ErrorCode) : Option Bytes :=
  if code = .success then none else some (Numeral.decimal code.number.toNat)

/-- Tags that say what the caller got for the result of a transfer. -/
structure Agrees (result : Transfer.Result) (outcome : Outcome) (tags : Tags) : Prop where
  told : outcome.told?.isSome = true
  errorCode : tags.find? SystemTag.errorCode.key = outcome.told?.bind (·.code.tag?)
  error : tags.find? SystemTag.error.key
    = if result.failed then outcome.told?.map (·.message) else none
  failed : result.failed = true → tags.find? SystemTag.status.key = some (utf8 "0")
  whole : result.failed = false → ∃ response, outcome = .response response
    ∧ tags.find? SystemTag.status.key = some (Numeral.decimal response.status)

lemma Numeral.decimal_zero : decimal 0 = utf8 "0" := by
  show render 10 0 = _
  rw [render, dif_pos (by omega)]
  rfl

lemma ErrorCode.ofStatus_ne_success {status : Int} (h : 400 ≤ status) (hle : status ≤ 999) :
    ofStatus status ≠ .success := by
  intro heq
  have hnumber := toNat_ofStatus h hle
  have hzero : success.number.toNat = 0 := rfl
  rw [heq, hzero] at hnumber
  omega

namespace Reporter

namespace Sending

def outcome (s : Sending) : Outcome := s.definition.outcome s.method s.result

variable {s : Sending}

/-! ## What the caller gets -/

lemma reportedStatus_of_failure {failure : Failure} (h : s.failure? = some failure) :
    s.wholeTrip.reportedStatus = 0 := by
  simp [RoundTrip.reportedStatus, wholeTrip, h]

lemma reportedStatus_of_whole (h : s.failure? = none) :
    s.wholeTrip.reportedStatus = if 0 < s.result.status then s.result.status else 0 := by
  simp only [RoundTrip.reportedStatus, wholeTrip, h, trip, Client.roundTrip]
  split <;> rfl

lemma outcome_of_whole (h : s.failure? = none) :
    s.outcome = .response (s.definition.wholeResponse s.result) := by
  have hfailure : s.definition.failure? s.method s.result = none := h
  simp only [outcome, Definition.outcome, hfailure]

/-- The caller is told the verdict on the round trip, whether it was raised or returned. -/
lemma told?_outcome (s : Sending) : s.outcome.told? = some s.wholeTrip.verdict := by
  rw [outcome, Definition.told?_outcome, Option.some.injEq]
  cases hfailure : s.failure? with
  | none =>
    have hfailure' : s.definition.failure? s.method s.result = none := hfailure
    have hverdict : s.wholeTrip.verdict
        = ⟨if 400 ≤ s.wholeTrip.reportedStatus then .ofStatus s.wholeTrip.reportedStatus
            else .success, []⟩ := by
      simp only [RoundTrip.verdict, wholeTrip, hfailure]
    rw [hverdict, reportedStatus_of_whole hfailure, hfailure']
    by_cases hpos : 0 < s.result.status
    · rw [if_pos hpos]
    · have hsmall : ¬400 ≤ s.result.status := by omega
      simp [hpos, hsmall]
  | some failure =>
    have hfailure' : s.definition.failure? s.method s.result = some failure := hfailure
    simp only [RoundTrip.verdict, wholeTrip, hfailure, hfailure']

/-! ## What is reported -/

lemma isSome_failure? (h : s.result.Genuine) : s.failure?.isSome = s.result.failed := by
  have hrejection := h.failed
  cases hfailed : s.result.failed with
  | true => simp [failure?, Definition.failure?, hfailed]
  | false =>
    rw [hfailed] at hrejection
    have hnone : s.result.rejection.isSome = false := by simpa using hrejection
    simp [failure?, Definition.failure?, hfailed, hnone]

lemma outcomeTag?_errorCode (h : s.result.Genuine) (hle : s.result.status ≤ 999) :
    s.wholeTrip.outcomeTag? .errorCode = s.wholeTrip.verdict.code.tag? := by
  cases hfailure : s.failure? with
  | none =>
    have hstatus := reportedStatus_of_whole hfailure
    have hnone : s.wholeTrip.failure = none := hfailure
    simp only [RoundTrip.outcomeTag?, RoundTrip.verdict, hnone, ErrorCode.tag?, Option.isSome_none,
      Bool.false_eq_true, false_or]
    split
    next herror =>
      have hrange : s.wholeTrip.reportedStatus ≤ 999 := by
        rw [hstatus]
        split <;> omega
      have hne := ErrorCode.ofStatus_ne_success herror hrange
      rw [if_neg hne]
    next => simp
  | some failure =>
    obtain rfl : failure = s.result.failure s.method s.definition.url :=
      Definition.eq_of_failure? hfailure
    have hsome : s.wholeTrip.failure = some (s.result.failure s.method s.definition.url) := hfailure
    have hcode := h.unspecific_le s.method s.definition.url
    have hne : (s.result.failure s.method s.definition.url).classify.code ≠ .success := by
      intro heq
      rw [heq] at hcode
      exact absurd hcode (by decide)
    simp [RoundTrip.outcomeTag?, RoundTrip.verdict, hsome, ErrorCode.tag?, hne]

/-- **The samples of a send say what its caller got.** -/
lemma batch_agrees (r : Reporter) (h : s.result.Genuine) (hstatus : 0 ≤ s.result.status)
    (hle : s.result.status ≤ 999)
    (hwanted : ∀ tag ∈ SystemTag.outcome, r.enabled.has tag = true)
    (hbase : ∀ tag ∈ SystemTag.outcome, r.base.tags.find? tag.key = none)
    (hrequest : ∀ tag ∈ SystemTag.outcome, s.definition.options.tags.find? tag.key = none) :
    (r.finish s.wholeTrip).batch ≠ []
      ∧ ∀ sample ∈ (r.finish s.wholeTrip).batch, Agrees s.result s.outcome sample.tags := by
  obtain ⟨hnonempty, htags⟩ := @batch_tags r s.wholeTrip rfl rfl
  refine ⟨hnonempty, ?_⟩
  intro sample hsample
  have hfind : ∀ tag ∈ SystemTag.outcome,
      sample.tags.find? tag.key = s.wholeTrip.outcomeTag? tag := by
    intro tag htag
    rw [htags sample hsample]
    exact r.find?_context_of_wanted _ _ htag (hwanted tag htag) (hbase tag htag)
      (hrequest tag htag)
  have hfailed : s.wholeTrip.failure.isSome = s.result.failed := isSome_failure? h
  refine ⟨?_, ?_, ?_, ?_, ?_⟩
  · simp [told?_outcome]
  · rw [hfind _ (by decide), outcomeTag?_errorCode h hle, told?_outcome]
    rfl
  · rw [hfind _ (by decide), told?_outcome, RoundTrip.outcomeTag?, hfailed]
    rfl
  · intro hfails
    rw [← hfailed] at hfails
    obtain ⟨failure, hfailure⟩ := Option.isSome_iff_exists.1 hfails
    rw [hfind _ (by decide), RoundTrip.outcomeTag?, reportedStatus_of_failure hfailure,
      Numeral.decimal_zero]
  · intro hwhole
    rw [← hfailed] at hwhole
    have hnone : s.wholeTrip.failure = none := by simpa using hwhole
    refine ⟨_, outcome_of_whole hnone, ?_⟩
    rw [hfind _ (by decide), RoundTrip.outcomeTag?, reportedStatus_of_whole hnone]
    have heq : (if 0 < s.result.status then s.result.status else 0) = s.result.status := by
      split <;> omega
    rw [heq]
    rfl

end Sending

end Reporter

end MeteredHttp
