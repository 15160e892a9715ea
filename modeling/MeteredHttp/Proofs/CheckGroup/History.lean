import MeteredHttp.Proofs.CheckGroup.Records
import MeteredHttp.Proofs.Reporter.Emission

/-!
# Histories of checks

A run whose responses are checked is followed through arbitrary histories.  Between the checks,
records are looked up and anything can happen to the run: it can be stopped, its sink can be closed
or exchanged for one that refuses everything, and its tags can change.

* `CheckedRun.step` is one step, `CheckedRun.steps` a history of them.
* `CheckedRun.tally_step` says what one step does to the record of a status, whatever the sink does.
* **`CheckedRun.counters_and_samples_agree`** carries this through every history.
-/

namespace MeteredHttp

open CheckGroup (statusCheck invalidName Reports)

/-- A run, and the group that the checks of its responses are counted in. -/
structure CheckedRun where
  group : CheckGroup
  run : RunContext

namespace CheckedRun

inductive Step where
  | check (want status : Int) (extra : Tags) (now : Timestamp)
  /-- Somebody looks at a record. -/
  | get (check : Bytes)
  /-- The run is found in another state. -/
  | meanwhile (run : RunContext)

def step (c : CheckedRun) : Step → CheckedRun
  | .check want status extra now =>
    let (_, group, run) := c.group.expectStatus c.run want status extra now
    { group, run }
  | .get check =>
    match c.group.get check with
    | .ok (_, group) => { c with group }
    | .error _ => c
  | .meanwhile run => { c with run }

def steps (c : CheckedRun) (history : List Step) : CheckedRun := history.foldl step c

namespace Step

/-- Whether a check for the status held, if the step is one. -/
def outcome? (want : Int) : Step → Option Bool
  | .check other status _ _ => if other = want then some (status == want) else none
  | _ => none

/-- The batch that a step leaves in an open buffer. -/
def batch? (run : RunContext) : Step → Option Batch
  | .check want status extra now =>
    some [CheckGroup.sample run (statusCheck want) extra (status == want) now]
  | _ => none

/-- How many checks for the status had the outcome. -/
def times (want : Int) (passed : Bool) (history : List Step) : Nat :=
  history.countP fun s => s.outcome? want = some passed

lemma times_cons (want : Int) (passed : Bool) (s : Step) (rest : List Step) :
    times want passed (s :: rest)
      = times want passed rest + if s.outcome? want = some passed then 1 else 0 := by
  simp [times, List.countP_cons]

end Step

variable (c : CheckedRun)

/-! ## Records -/

/-- A step counts on the record of a status if it is a check for it, and leaves the record alone
otherwise. -/
lemma tally_step (s : Step) (want : Int) :
    (c.step s).group.tally (statusCheck want)
      = ((s.outcome? want).map (c.group.tally (statusCheck want)).count).getD
          (c.group.tally (statusCheck want)) := by
  cases s with
  | check other status extra now =>
    have hgroup : (c.step (.check other status extra now)).group
        = c.group.counted (statusCheck other) (status == other) := by
      simp only [step, CheckGroup.expectStatus_eq]
    rw [hgroup, CheckGroup.tally_counted]
    by_cases h : other = want
    · subst h
      simp [Step.outcome?]
    · simp [Step.outcome?, CheckGroup.statusCheck_inj, h]
  | get check =>
    cases hget : c.group.get check with
    | error reason => simp [step, hget, Step.outcome?]
    | ok found =>
      obtain rfl := c.group.eq_of_get hget
      simp [step, hget, Step.outcome?, CheckGroup.tally_withRecord]
  | meanwhile run => rfl

lemma tally_steps (history : List Step) (want : Int) :
    (c.steps history).group.tally (statusCheck want)
      = { passes := (c.group.tally (statusCheck want)).passes + Step.times want true history
          fails := (c.group.tally (statusCheck want)).fails + Step.times want false history } := by
  induction history generalizing c with
  | nil => rfl
  | cons s rest ih =>
    have hsteps : c.steps (s :: rest) = (c.step s).steps rest := rfl
    rw [hsteps, ih, tally_step, Step.times_cons, Step.times_cons]
    cases s.outcome? want with
    | none => rfl
    | some passed => cases passed <;> simp [Tally.count] <;> omega

/-! ## Samples -/

/-- A check of a run that goes on leaves one batch of one sample in an open buffer. -/
lemma sink_check {held : List Batch} (hended : c.run.ended = false)
    (hopen : c.run.outlets.sink = some (.buffer held false)) (want status : Int) (extra : Tags)
    (now : Timestamp) :
    (c.step (.check want status extra now)).run
      = { c.run with
          outlets := { c.run.outlets with
            sink := some (.buffer (held
              ++ [[CheckGroup.sample c.run (statusCheck want) extra (status == want) now]])
              false) } } := by
  simp only [step, CheckGroup.expectStatus_eq, hended, Outlets.publishOrWarn_of_open _ hopen]

lemma run_get (check : Bytes) : (c.step (.get check)).run = c.run := by
  simp only [step]
  split <;> rfl

/-- As long as nothing else happens to the run, its buffer holds the samples of all checks. -/
lemma sink_steps {history : List Step} {held : List Batch}
    (hundisturbed : ∀ run, .meanwhile run ∉ history) (hended : c.run.ended = false)
    (hopen : c.run.outlets.sink = some (.buffer held false)) :
    (c.steps history).run.outlets.sink
      = some (.buffer (held ++ history.filterMap (Step.batch? c.run)) false) := by
  induction history generalizing c held with
  | nil => simpa [steps] using hopen
  | cons s rest ih =>
    have hrest : ∀ run, .meanwhile run ∉ rest := by
      intro run hmem
      exact hundisturbed run (List.mem_cons_of_mem s hmem)
    have hsteps : c.steps (s :: rest) = (c.step s).steps rest := rfl
    rw [hsteps]
    cases s with
    | check want status extra now =>
      have hrun := c.sink_check hended hopen want status extra now
      have hbatch : Step.batch? (c.step (.check want status extra now)).run
          = Step.batch? c.run := by
        funext other
        rw [hrun]
        cases other <;> rfl
      rw [ih _ hrest (by rw [hrun]; exact hended) (by rw [hrun]), hbatch, List.append_assoc]
      rfl
    | get check =>
      have hrun := c.run_get check
      rw [ih _ hrest (by rw [hrun]; exact hended) (by rw [hrun]; exact hopen), hrun]
      rfl
    | meanwhile run => exact absurd List.mem_cons_self (hundisturbed run)

/-! ## Agreement -/

/-- **Counters and samples of checks agree.**  A new group is used for checks of a run, through any
history.

* The record of each status has counted the checks for it that held, and those that did not.
* Different statuses have different records.
* To look up a name with the separator in it fails and changes nothing.
* A further check never fails, as it always finds its record.  It counts on that record, returns
  whether the status is the wanted one, and leaves one batch of one sample that says so in an open
  buffer of a run that goes on.
* If nothing but checks happened to such a run, its buffer has the samples of all of them. -/
theorem counters_and_samples_agree (name : Bytes) (run : RunContext) (history : List Step) :
    let c := steps { group := { name }, run } history
    (∀ want, c.group.tally (statusCheck want)
        = { passes := Step.times want true history, fails := Step.times want false history })
      ∧ (∀ want want', statusCheck want = statusCheck want' ↔ want = want')
      ∧ (∀ check : Bytes, check.contains (utf8 "::") = true →
        c.group.get check = .error (invalidName check) ∧ c.step (.get check) = c)
      ∧ (∀ (want status : Int) (extra : Tags) (now : Timestamp),
        let result := c.group.expectStatus c.run want status extra now
        c.group.checkStatus c.run want status extra now = .ok result
        ∧ (∃ found, c.group.get (statusCheck want) = .ok (c.group.tally (statusCheck want), found)
          ∧ result.2.1 = found.counted (statusCheck want) (status == want))
        ∧ (result.1 = true ↔ status = want)
        ∧ ∀ held, c.run.ended = false → c.run.outlets.sink = some (.buffer held false) →
          ∃ s, result.2.2.outlets.sink = some (.buffer (held ++ [[s]]) false)
            ∧ Reports c.run want status extra now s)
      ∧ ∀ held, (∀ other, .meanwhile other ∉ history) → run.ended = false →
        run.outlets.sink = some (.buffer held false) →
        c.run.outlets.sink
          = some (.buffer (held ++ history.filterMap (Step.batch? run)) false) := by
  intro c
  refine ⟨?_, fun want want' => CheckGroup.statusCheck_inj, ?_, ?_, ?_⟩
  · intro want
    have htally := tally_steps { group := { name }, run } history want
    have hnew : CheckGroup.tally { name } (statusCheck want) = {} := rfl
    simpa [hnew] using htally
  · intro check hseparator
    have hget : c.group.get check = .error (invalidName check) := by
      simp [CheckGroup.get, hseparator]
    exact ⟨hget, by simp [step, hget]⟩
  · intro want status extra now result
    have hresult : result = _ := c.group.expectStatus_eq c.run want status extra now
    refine ⟨?_, ⟨_, c.group.get_statusCheck want, ?_⟩, ?_, ?_⟩
    · rw [hresult, CheckGroup.checkStatus_eq]
    · rw [hresult, CheckGroup.counted_withRecord]
    · rw [hresult]
      exact beq_iff_eq
    · intro held hended hopen
      have hrun := c.sink_check hended hopen want status extra now
      exact ⟨_, congrArg (·.outlets.sink) hrun,
        CheckGroup.sample_reports c.run want status extra now⟩
  · intro held hundisturbed hended hopen
    exact sink_steps _ hundisturbed hended hopen

theorem counters_and_samples_agree_visit :
    let run : RunContext := {}
    let history : List Step :=
      [.check 200 200 .empty default, .get (utf8 "a::b"), .check 200 404 .empty default]
    let c := steps { group := {}, run } history
    c.group.tally (statusCheck 200) = { passes := 1, fails := 1 }
      ∧ c.group.get (utf8 "a::b") = .error (invalidName (utf8 "a::b"))
      ∧ (∀ other, .meanwhile other ∉ history) ∧ run.ended = false
      ∧ run.outlets.sink = some (.buffer [] false)
      ∧ ∃ held, c.run.outlets.sink = some (.buffer held false) ∧ held.length = 2
        ∧ c.run.ended = false
        ∧ ∃ s, (c.group.expectStatus c.run 404 404 .empty default).2.2.outlets.sink
            = some (.buffer (held ++ [[s]]) false)
          ∧ Reports c.run 404 404 .empty default s := by
  intro run history c
  obtain ⟨htally, -, hget, hcheck, hsamples⟩ := counters_and_samples_agree [] run history
  have hundisturbed : ∀ other, .meanwhile other ∉ history := by simp [history]
  have hsink := hsamples [] hundisturbed rfl rfl
  obtain ⟨-, -, -, hbatch⟩ := hcheck 404 404 .empty default
  have hended : c.run.ended = false := by decide +kernel
  exact ⟨htally 200, (hget (utf8 "a::b") (by decide)).1, hundisturbed, rfl, rfl, _, hsink, rfl,
    hended, hbatch _ hended hsink⟩

end CheckedRun

end MeteredHttp
