import MeteredHttp.CheckGroup
import MeteredHttp.Proofs.Bytes
import MeteredHttp.Proofs.Numeral
import MeteredHttp.Proofs.Tags

/-!
# The records of a group of checks

A record is found under the name of its check.  The name of the check for a status is never refused
(`CheckGroup.get_statusCheck`), and different statuses have different names
(`CheckGroup.statusCheck_inj`).  `CheckGroup.checkStatus_eq` says that a check of a status does not
fail, and that the outcome is counted on the record that is found.
-/

namespace MeteredHttp

namespace CheckGroup

/-! ## Names -/

/-- A number in base ten has no colon in it. -/
lemma separator_statusCheck (want : Int) : (statusCheck want).contains (utf8 "::") = false := by
  refine Bool.eq_false_iff.2 ?_
  intro h
  have hcolon : (58 : UInt8) ∈ statusCheck want := (Bytes.contains_iff.1 h).subset (by decide)
  rcases List.mem_append.1 hcolon with hstart | hnumber
  · revert hstart
    decide
  · have hbyte := Numeral.isDigitOf_of_mem_decimal hnumber
    revert hbyte
    decide

lemma statusCheck_inj {want want' : Int} :
    statusCheck want = statusCheck want' ↔ want = want' := by
  rw [statusCheck, statusCheck, List.append_cancel_left_eq, Numeral.decimal_inj]

/-! ## Records -/

variable (group : CheckGroup)

/-- The group that has a record for the check. -/
def withRecord (check : Bytes) : CheckGroup :=
  { group with checks := group.checks.insert check (group.tally check) }

/-- The group after an outcome was counted on the record of the check. -/
def counted (check : Bytes) (passed : Bool) : CheckGroup :=
  { group with checks := group.checks.insert check ((group.tally check).count passed) }

lemma tally_withRecord (check other : Bytes) :
    (group.withRecord check).tally other = group.tally other := by
  by_cases h : check = other
  · subst h
    simp [tally, withRecord, Dictionary.find?_insert]
  · simp [tally, withRecord, Dictionary.find?_insert, h]

lemma tally_counted (check other : Bytes) (passed : Bool) :
    (group.counted check passed).tally other
      = if check = other then (group.tally check).count passed else group.tally other := by
  by_cases h : check = other
  · simp [tally, counted, Dictionary.find?_insert, h]
  · simp [tally, counted, Dictionary.find?_insert, h]

lemma eq_of_get {check : Bytes} {found : Tally × CheckGroup} (h : group.get check = .ok found) :
    found = (group.tally check, group.withRecord check) := by
  simp only [get] at h
  split at h
  next => cases h
  next => exact (Except.ok.inj h).symm

lemma get_statusCheck (want : Int) :
    group.get (statusCheck want)
      = .ok (group.tally (statusCheck want), group.withRecord (statusCheck want)) := by
  simp [get, separator_statusCheck, withRecord]

/-- To find the record and to count on it is to count. -/
lemma counted_withRecord (check : Bytes) (passed : Bool) :
    (group.withRecord check).counted check passed = group.counted check passed := by
  rw [counted, tally_withRecord]
  simp only [counted, withRecord, Dictionary.insert_insert]

/-! ## Checks of a status -/

variable (run : RunContext) (want status : Int) (extra : Tags) (now : Timestamp)

/-- The record is found, the outcome counted on it, and then reported. -/
lemma checkStatus_eq :
    group.checkStatus run want status extra now
      = .ok (status == want, group.counted (statusCheck want) (status == want),
          { run with
            outlets := run.outlets.publishOrWarn run.ended
              [sample run (statusCheck want) extra (status == want) now]
              (utf8 "dropping check sample") }) := by
  rw [checkStatus, get_statusCheck, ← counted_withRecord, counted, tally_withRecord]
  rfl

lemma expectStatus_eq :
    group.expectStatus run want status extra now
      = (status == want, group.counted (statusCheck want) (status == want),
          { run with
            outlets := run.outlets.publishOrWarn run.ended
              [sample run (statusCheck want) extra (status == want) now]
              (utf8 "dropping check sample") }) := by
  rw [expectStatus, checkStatus_eq]
  rfl

/-- What the sample of a check tells.  The tags are layered: those of the run, the extra ones over
them, and over both the name of the check if the run wants it. -/
structure Reports (s : Sample) : Prop where
  series : s.series = some .checks
  value : s.value = .one ↔ status = want
  otherwise : s.value = .zero ↔ status ≠ want
  time : s.time = now
  metadata : s.metadata = run.base.metadata
  tags : ∀ name, s.tags.find? name
    = if run.enabled.has .check = true ∧ name = utf8 "check" then some (statusCheck want)
      else (extra.find? name).or (run.base.tags.find? name)

lemma sample_reports :
    Reports run want status extra now
      (sample run (statusCheck want) extra (status == want) now) where
  series := rfl
  value := by
    have hne : Binary64.zero ≠ Binary64.one := by decide
    by_cases h : status = want <;> simp [sample, h, hne]
  otherwise := by
    have hne : Binary64.one ≠ Binary64.zero := by decide
    by_cases h : status = want <;> simp [sample, h, hne]
  time := rfl
  metadata := by
    simp only [sample, TagContext.withEnabled]
    split <;> rfl
  tags := by
    intro name
    have hkey : SystemTag.check.key = utf8 "check" := rfl
    by_cases henabled : run.enabled.has .check = true
    · have hset : (sample run (statusCheck want) extra (status == want) now).tags
          = (run.base.tags.overlay extra).insert (utf8 "check") (statusCheck want) := by
        simp [sample, TagContext.withEnabled, TagContext.withSystem, TagContext.withTag,
          TagContext.overlay, SystemTag.isMetadata, henabled, hkey]
      rw [hset, Dictionary.find?_insert, Dictionary.find?_overlay]
      simp [henabled, eq_comm]
    · have hunset : (sample run (statusCheck want) extra (status == want) now).tags
          = run.base.tags.overlay extra := by
        simp [sample, TagContext.withEnabled, TagContext.overlay, henabled]
      rw [hunset, Dictionary.find?_overlay]
      simp [henabled]

end CheckGroup

end MeteredHttp
