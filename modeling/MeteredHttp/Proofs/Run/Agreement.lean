import MeteredHttp.Proofs.Reporter.Outcome
import MeteredHttp.Proofs.Run.Reporting

/-!
# Callers and reports agree

A caller gets its outcome when a send ends.  The samples of the send are made when its body fails,
when its client sends again, is flushed or is gone, and in between other clients come and go.

`Run.answers` are the sends of a client with what their callers got, `Run.accounts` the events of a
history with the batches that are handed to the sink.  `Run.performed_shown` relates the two in one
step, `Run.exists_reported` in a history, and **`Run.batches_agree_with_callers`** says what this
means for callers, whatever the sink of the run and wherever it is stopped.
-/

namespace MeteredHttp

open Transfer

lemma Definition.send_genuine {d : Definition} {t : Transport} {sources : Sources}
    {method : Method} {exchange : Exchange} {result : Result} {wire : Option Wire}
    (h : (d.send t sources method exchange).transmission = .performed result wire) :
    result.Genuine := by
  simp only [Definition.send] at h
  split at h
  · cases h
  · cases h
    exact perform_genuine _ _ _ _ _

namespace Run

open Reporter (Sending)

/-! ## Answers -/

/-- A send that reached its transfer, and what its caller got. -/
structure Answer where
  sending : Sending
  outcome : Definition.Outcome

def answer? (i : Nat) (run : Run) (step : Step) : Option Answer :=
  match run.event step, (run.step step).1 with
  | .performed k sending, .sent outcome _ => if k = i then some ⟨sending, outcome⟩ else none
  | _, _ => none

/-- The sends of a client in a history that reached their transfers. -/
def answers (i : Nat) (run : Run) : List Step → List Answer
  | [] => []
  | step :: rest => (run.answer? i step).toList ++ (run.step step).2.answers i rest

namespace Answer

/-- The status is one of HTTP, and the request does not set the tags that tell the outcome. -/
structure Plain (a : Answer) : Prop where
  nonneg : 0 ≤ a.sending.result.status
  le : a.sending.result.status ≤ 999
  tags : ∀ tag ∈ SystemTag.outcome, a.sending.definition.options.tags.find? tag.key = none

instance (a : Answer) : Decidable a.Plain :=
  decidable_of_iff
    (0 ≤ a.sending.result.status ∧ a.sending.result.status ≤ 999
      ∧ ∀ tag ∈ SystemTag.outcome, a.sending.definition.options.tags.find? tag.key = none)
    ⟨fun ⟨hnonneg, hle, htags⟩ => ⟨hnonneg, hle, htags⟩, fun ⟨hnonneg, hle, htags⟩ =>
      ⟨hnonneg, hle, htags⟩⟩

/-- Every sample of a batch says what the caller got. -/
structure ToldBy (a : Answer) (batch : Batch) : Prop where
  nonempty : batch ≠ []
  agrees : ∀ sample ∈ batch, Agrees a.sending.result a.outcome sample.tags

/-- The outcome is that of the transfer, which really took place. -/
structure Sound (a : Answer) : Prop where
  outcome : a.outcome = a.sending.outcome
  genuine : a.sending.result.Genuine

end Answer

variable {ctx : RunContext} {run : Run} {i j : Nat} {step : Step} {s : Sending}

lemma performed_shown (h : run.event step = .performed i s) :
    (∃ wire, (run.step step).1 = .sent s.outcome wire) ∧ s.result.Genuine := by
  obtain ⟨j, exchange, c, wire, rfl, hc, hd, hsent⟩ := exists_of_performed h
  refine ⟨⟨wire, ?_⟩, Definition.send_genuine hsent⟩
  rw [step_send hc hd]
  simp only [Run.send, hsent]
  rfl

lemma exists_answer? {outcome : Definition.Outcome} {wire : Option Wire}
    (h : (run.step step).1 = .sent outcome wire) (htold : outcome.told?.isSome = true) :
    ∃ i s, run.answer? i step = some ⟨s, outcome⟩ := by
  cases step with
  | send i j method exchange measured =>
    obtain ⟨c, d, hc, hd, hsent⟩ := exists_of_step_sent h
    cases htransmission : (d.send c.transport run.sources method exchange).transmission with
    | unrewound reason =>
      rw [htransmission] at hsent
      cases hsent
      cases htold
    | performed result wire =>
      have hevent : run.event (.send i j method exchange measured)
          = .performed i { definition := d, method, result, measured } := by
        simp only [event, action, hc, hd, Action.event, htransmission]
      refine ⟨i, { definition := d, method, result, measured }, ?_⟩
      simp only [answer?, hevent, h, if_true]
  | flush k => cases hc : run.client? k <;> simp [Run.step, hc] at h
  | setJudge k judge => cases hc : run.client? k <;> simp [Run.step, hc] at h
  | create config =>
    simp only [Run.step, create] at h
    split at h <;> cases h
  | destroy k => simp [Run.step, destroy] at h
  | stop => cases h

/-- The round trips of a client are those of its answers. -/
lemma trip?_event (i : Nat) (run : Run) (step : Step) :
    (run.event step).trip? i = (run.answer? i step).map (·.sending.wholeTrip) := by
  cases hevent : run.event step with
  | performed k s =>
    obtain ⟨⟨wire, hshown⟩, -⟩ := performed_shown hevent
    by_cases hk : k = i <;> simp [answer?, hevent, hshown, Event.trip?, hk]
  | unrewound k => simp [answer?, hevent, Event.trip?]
  | flushed k => simp [answer?, hevent, Event.trip?]
  | other => simp [answer?, hevent, Event.trip?]

lemma sound_of_answer? {a : Answer} (h : run.answer? i step = some a) : a.Sound := by
  cases hevent : run.event step with
  | performed k s =>
    obtain ⟨⟨wire, hshown⟩, hgenuine⟩ := performed_shown hevent
    simp only [answer?, hevent, hshown] at h
    split at h
    · cases h
      exact ⟨rfl, hgenuine⟩
    · cases h
  | _ => simp [answer?, hevent] at h

lemma sound_of_mem_answers {history : List Step} :
    ∀ a ∈ run.answers i history, a.Sound := by
  induction history generalizing run with
  | nil => simp [answers]
  | cons step rest ih =>
    intro a ha
    rcases List.mem_append.1 ha with ha | ha
    · exact sound_of_answer? (Option.mem_toList.1 ha)
    · exact ih a ha

/-! ## Accounts -/

/-- A step as its reporter sees it: its event, and what is handed to the sink. -/
def account (run : Run) (step : Step) : Record := ⟨run.event step, run.handed step⟩

def accounts (run : Run) : List Step → List Record
  | [] => []
  | step :: rest => run.account step :: (run.step step).2.accounts rest

lemma tripsOf_accounts (i : Nat) (run : Run) (history : List Step) :
    tripsOf i (run.accounts history) = (run.answers i history).map (·.sending.wholeTrip) := by
  induction history generalizing run with
  | nil => rfl
  | cons step rest ih =>
    have htrip := trip?_event i run step
    have hrest := ih (run.step step).2
    simp only [tripsOf, accounts, account, answers, List.map_append, ← hrest]
    cases hanswer : run.answer? i step with
    | none => simp [htrip, hanswer]
    | some a => simp [htrip, hanswer]

/-- The reports of any run are on time, as far as what is handed to the sink is concerned. -/
lemma Uniform.accounts_onTime (h : Uniform ctx run) (history : List Step) :
    OnTime ctx run.slots (run.accounts history)
      ∧ (run.steps history).2.slots = slotsAfter run.slots (run.accounts history) := by
  induction history generalizing run with
  | nil => exact ⟨onTime_nil _ _, rfl⟩
  | cons step rest ih =>
    have hstepped := run.stepped_step step
    obtain ⟨honTime, hslots⟩ := ih (h.stepped hstepped)
    have hnext : (run.step step).2.slots = (run.event step).slots run.slots :=
      slots_of_stepped hstepped
    rw [hnext] at honTime hslots
    exact ⟨onTime_cons.2 ⟨h.forall₂_handed hstepped, honTime⟩, hslots⟩

lemma Answer.Sound.toldBy {a : Answer} {batch : Batch} (h : a.Sound)
    (hwanted : ∀ tag ∈ SystemTag.outcome, ctx.enabled.has tag = true)
    (hbase : ∀ tag ∈ SystemTag.outcome, ctx.base.tags.find? tag.key = none)
    (hreport : IsReport ctx a.sending.wholeTrip batch) (hplain : a.Plain) : a.ToldBy batch := by
  obtain ⟨judge, rfl⟩ := hreport
  obtain ⟨hnonempty, hagrees⟩ := Sending.batch_agrees
    { base := ctx.base, enabled := ctx.enabled, judge } h.genuine hplain.nonneg hplain.le
    hwanted hbase hplain.tags
  refine ⟨hnonempty, ?_⟩
  rw [h.outcome]
  exact hagrees

/-- **The answers of a client are reported in their order**, but for the one that its client has
staged. -/
lemma exists_reported {run : Run} (hclients : run.clients = []) (history : List Step) (i : Nat) :
    ∃ reported waiting, run.answers i history = reported ++ waiting
      ∧ waiting.map (·.sending.wholeTrip)
        = (((run.steps history).2.client? i).bind (·.reporter.staged)).toList
      ∧ List.Forall₂ (fun a batch => IsReport run.context a.sending.wholeTrip batch) reported
          (batchesOf i (run.accounts history)) := by
  have hnone : ∀ i, run.client? i = none := by
    intro i
    simp [client?, hclients]
  have huniform : Uniform run.context run := by
    refine ⟨rfl, rfl, ?_⟩
    intro i c hc
    rw [hnone i] at hc
    cases hc
  have hempty : run.slots = fun _ => none := by
    funext i
    simp [slots, hnone]
  obtain ⟨honTime, hslots⟩ := huniform.accounts_onTime history
  -- The accounts are balanced in round trips, and a round trip does not tell what its caller got.
  -- So the balance is taken back to the answers that the round trips come from.
  obtain ⟨trips, htrips, hreports⟩ := honTime.in_order i
  rw [← hslots, hempty, Option.toList_none, List.nil_append, tripsOf_accounts] at htrips
  obtain ⟨reported, waiting, hanswers, rfl, hwaiting⟩ := List.map_eq_append_iff.1 htrips
  rw [List.forall₂_map_left_iff] at hreports
  exact ⟨reported, waiting, hanswers, hwaiting, hreports⟩

/-- **What callers get and what is reported agree.**  In a run that begins without clients, that
wants the tags of the outcome and does not set them itself, and for every history of steps:

* what a step hands over on account of its client, the sink gets, unless the run is over;
* what a step shows of a transfer is among the answers; and
* the answers of a client are, in their order, those whose batches were handed over, and the one
  that its client has staged; and every batch is the report of its send and says what the caller of
  that send got, unless the status is none of HTTP or the request sets the tags of the outcome
  itself. -/
theorem batches_agree_with_callers {run : Run} (hclients : run.clients = [])
    (hwanted : ∀ tag ∈ SystemTag.outcome, run.context.enabled.has tag = true)
    (hbase : ∀ tag ∈ SystemTag.outcome, run.context.base.tags.find? tag.key = none)
    (history : List Step) :
    (∀ past step rest, history = past ++ step :: rest →
        let before := (run.steps past).2
        Outlets.Given before.context.ended (before.handed step) before.context.outlets
            (before.step step).2.context.outlets
          ∧ ∀ outcome wire, (before.step step).1 = .sent outcome wire →
            outcome.told?.isSome = true → ∃ i s, before.answer? i step = some ⟨s, outcome⟩)
      ∧ ∀ i, ∃ reported waiting, run.answers i history = reported ++ waiting
          ∧ waiting.map (·.sending.wholeTrip)
            = (((run.steps history).2.client? i).bind (·.reporter.staged)).toList
          ∧ List.Forall₂
              (fun a batch => IsReport run.context a.sending.wholeTrip batch
                ∧ (a.Plain → a.ToldBy batch))
              reported (batchesOf i (run.accounts history)) := by
  refine ⟨?_, ?_⟩
  · rintro past step rest -
    refine ⟨given_of_stepped ((run.steps past).2.stepped_step step), ?_⟩
    intro outcome wire hshown htold
    exact exists_answer? hshown htold
  · intro i
    obtain ⟨reported, waiting, hanswers, hwaiting, hreports⟩ := exists_reported hclients history i
    refine ⟨reported, waiting, hanswers, hwaiting, ?_⟩
    have hsound : ∀ a ∈ reported, a.Sound := by
      intro a ha
      refine @sound_of_mem_answers run i history a ?_
      rw [hanswers]
      exact List.mem_append_left waiting ha
    refine ((List.forall₂_and_left _ _).2 ⟨hsound, hreports⟩).imp ?_
    rintro a batch ⟨ha, hreport⟩
    exact ⟨hreport, ha.toldBy hwanted hbase hreport⟩

/-- A send that succeeds and one whose body fails. -/
theorem batches_agree_with_callers_visit :
    (∀ tag ∈ SystemTag.outcome, lone.context.enabled.has tag = true)
      ∧ (∀ tag ∈ SystemTag.outcome, lone.context.base.tags.find? tag.key = none)
      ∧ (lone.answers 0 visit).length = 2
      ∧ List.Forall₂ Answer.ToldBy (lone.answers 0 visit) (batchesOf 0 (lone.accounts visit)) := by
  have hwanted : ∀ tag ∈ SystemTag.outcome, lone.context.enabled.has tag = true := by decide
  have hbase : ∀ tag ∈ SystemTag.outcome, lone.context.base.tags.find? tag.key = none := by
    intro tag _
    rfl
  have hlength : (lone.answers 0 visit).length = 2 := by rfl
  have hgone : (lone.steps visit).2.client? 0 = none := by rfl
  have hplain : ∀ a ∈ lone.answers 0 visit, a.Plain := by decide +kernel
  refine ⟨hwanted, hbase, hlength, ?_⟩
  obtain ⟨reported, waiting, hanswers, hwaiting, hreports⟩ :=
    (@batches_agree_with_callers lone rfl hwanted hbase visit).2 0
  rw [hgone, Option.bind_none, Option.toList_none, List.map_eq_nil_iff] at hwaiting
  subst hwaiting
  rw [List.append_nil] at hanswers
  rw [hanswers] at hplain ⊢
  refine ((List.forall₂_and_left _ _).2 ⟨hplain, hreports⟩).imp ?_
  rintro a batch ⟨ha, -, htold⟩
  exact htold ha

end Run

end MeteredHttp
