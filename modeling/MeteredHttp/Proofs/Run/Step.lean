import MeteredHttp.Run
import MeteredHttp.Proofs.Except
import Mathlib.Tactic.ByContra
import Mathlib.Tactic.Lemma

/-!
# What a step of a run can do

`Run.step` looks up clients and definitions by number and does nothing if they are not there.  This
is settled here once.

* `Run.client?_of_clients_eq_set` says which clients are there after one of them was replaced.
* `Run.action` is a step together with the client and the definition that it finds, and
  `Run.Stepped` says what an action leads to; `Run.stepped_step` says that every step is one of
  them.
* `Run.exists_of_step_sent` says what a send has found that shows something.
* `Run.steps_invariant` carries a property of runs that every step keeps through a history.
-/

namespace MeteredHttp

lemma Transport.of_make {id : Nat} {config : ClientConfig} {files : Files} {t : Transport}
    (h : Transport.make id config files = .ok t) :
    t.id = id ∧ t.config = config ∧ config.policy = .ok t.policy := by
  simp only [Transport.make, bind_eq_ok, pure_eq_ok] at h
  obtain ⟨-, -, policy, hpolicy, rfl⟩ := h
  exact ⟨rfl, rfl, hpolicy⟩

/-- A client that was made has the number that it was made with, and reports with the tags of the
run. -/
lemma Client.of_make {id : Nat} {config : ClientConfig} {files : Files} {context : RunContext}
    {c : Client} (h : Client.make id config files context = .ok c) :
    c.transport.id = id ∧ c.reporter = { base := context.base, enabled := context.enabled } := by
  simp only [Client.make, bind_eq_ok, pure_eq_ok] at h
  obtain ⟨transport, htransport, rfl⟩ := h
  exact ⟨(Transport.of_make htransport).1, rfl⟩

namespace Run

/-! ## Looking up clients -/

lemma lt_length_of_client? {run : Run} {i : Nat} {c : Client} (h : run.client? i = some c) :
    i < run.clients.length := by
  by_contra hle
  rw [client?, List.getElem?_eq_none (Nat.le_of_not_lt hle)] at h
  exact absurd h (by simp)

/-- After the place of a client has been set, the other places are as before. -/
lemma client?_of_clients_eq_set {run next : Run} {i : Nat} {c : Client} {x : Option Client}
    (h : run.client? i = some c) (hset : next.clients = run.clients.set i x) (k : Nat) :
    next.client? k = if k = i then x else run.client? k := by
  have hi := lt_length_of_client? h
  rw [client?, hset, List.getElem?_set]
  by_cases hk : k = i
  · subst hk
    simp [hi]
  · simp [hk, Ne.symm hk, client?]

/-- A new client comes behind those that are or were there. -/
lemma client?_of_clients_eq_append {run next : Run} {c : Client}
    (happend : next.clients = run.clients ++ [some c]) (k : Nat) :
    next.client? k = if k = run.clients.length then some c else run.client? k := by
  rw [client?, happend, client?]
  rcases Nat.lt_trichotomy k run.clients.length with hk | hk | hk
  · rw [List.getElem?_append_left hk, if_neg (by omega)]
  · simp [hk]
  · rw [List.getElem?_eq_none (by simp; omega), if_neg (by omega),
      List.getElem?_eq_none (by omega)]

/-! ## Actions -/

/-- A step with what it finds. -/
inductive Action where
  | send (i : Nat) (c : Client) (j : Nat) (d : Definition) (method : Method)
    (exchange : Transfer.Exchange) (measured : Measured)
  | flush (i : Nat) (c : Client)
  | setJudge (i : Nat) (c : Client) (judge : Option Judge)
  | create (c : Client)
  | destroy (i : Nat) (c : Client)
  | stop
  /-- The client or the definition is not there, or the configuration is not accepted. -/
  | idle

/-- What a step amounts to in a run. -/
def action (run : Run) : Step → Action
  | .send i j method exchange measured =>
    match run.client? i, run.definitions[j]? with
    | some c, some d => .send i c j d method exchange measured
    | _, _ => .idle
  | .flush i => (run.client? i).elim .idle (.flush i)
  | .setJudge i judge => (run.client? i).elim .idle fun c => .setJudge i c judge
  | .create config =>
    match Client.make run.clients.length config run.files run.context with
    | .ok c => .create c
    | .error _ => .idle
  | .destroy i => (run.client? i).elim .idle (.destroy i)
  | .stop => .stop

/-- What an action leads to. -/
inductive Stepped (run : Run) : Action → Run → Prop
  | sent {i j method exchange measured c d} (hc : run.client? i = some c)
      (hd : run.definitions[j]? = some d) :
      Stepped run (.send i c j d method exchange measured)
        (run.send i c j d method exchange measured).2
  | flushed {i c} (hc : run.client? i = some c) : Stepped run (.flush i c) (run.flush i c)
  | judged {i c judge} (hc : run.client? i = some c) :
      Stepped run (.setJudge i c judge)
        (run.setClient i (some { c with reporter := c.reporter.setJudge judge }))
  | created {config c}
      (hc : Client.make run.clients.length config run.files run.context = .ok c) :
      Stepped run (.create c) { run with clients := run.clients ++ [some c] }
  | destroyed {i c} (hc : run.client? i = some c) :
      Stepped run (.destroy i c) ((run.flush i c).setClient i none)
  | stopped : Stepped run .stop { run with context := run.context.stop }
  | idle : Stepped run .idle run

lemma stepped_step (run : Run) (step : Step) :
    Stepped run (run.action step) (run.step step).2 := by
  cases step with
  | send i j method exchange measured =>
    cases hc : run.client? i with
    | none => simpa [action, Run.step, hc] using .idle
    | some c =>
      cases hd : run.definitions[j]? with
      | none => simpa [action, Run.step, hc, hd] using .idle
      | some d => simpa [action, Run.step, hc, hd] using .sent hc hd
  | flush i =>
    cases hc : run.client? i with
    | none => simpa [action, Run.step, hc] using .idle
    | some c => simpa [action, Run.step, hc] using .flushed hc
  | setJudge i judge =>
    cases hc : run.client? i with
    | none => simpa [action, Run.step, hc] using .idle
    | some c => simpa [action, Run.step, hc] using .judged hc
  | create config =>
    cases hc : Client.make run.clients.length config run.files run.context with
    | error error => simpa [action, Run.step, Run.create, hc] using .idle
    | ok c => simpa [action, Run.step, Run.create, hc] using .created hc
  | destroy i =>
    cases hc : run.client? i with
    | none => simpa [action, Run.step, Run.destroy, hc] using .idle
    | some c => simpa [action, Run.step, Run.destroy, hc] using .destroyed hc
  | stop => exact .stopped

/-! ## Sends -/

lemma step_send {run : Run} {i j : Nat} {c : Client} {d : Definition}
    (hc : run.client? i = some c) (hd : run.definitions[j]? = some d) (method : Method)
    (exchange : Transfer.Exchange) (measured : Measured) :
    run.step (.send i j method exchange measured) = run.send i c j d method exchange measured := by
  simp only [step, hc, hd]

/-- Only a client and a definition that are there make a send show something. -/
lemma exists_of_step_sent {run : Run} {i j : Nat} {method : Method} {exchange : Transfer.Exchange}
    {measured : Measured} {outcome : Definition.Outcome} {wire : Option Transfer.Wire}
    (h : (run.step (.send i j method exchange measured)).1 = .sent outcome wire) :
    ∃ c d, run.client? i = some c ∧ run.definitions[j]? = some d
      ∧ shown d method (d.send c.transport run.sources method exchange).transmission
        = .sent outcome wire := by
  cases hc : run.client? i with
  | none => simp [step, hc] at h
  | some c =>
    cases hd : run.definitions[j]? with
    | none => simp [step, hc, hd] at h
    | some d =>
      rw [step_send hc hd] at h
      exact ⟨c, d, rfl, rfl, h⟩

/-! ## Stopping -/

/-- Only to stop a run is to stop it. -/
lemma action_ne_stop (run : Run) {step : Step} (h : step ≠ .stop) : run.action step ≠ .stop := by
  cases step with
  | send i j method exchange measured =>
    simp only [action]
    split <;> simp
  | flush i => cases hc : run.client? i <;> simp [action, hc]
  | setJudge i judge => cases hc : run.client? i <;> simp [action, hc]
  | create config =>
    simp only [action]
    split <;> simp
  | destroy i => cases hc : run.client? i <;> simp [action, hc]
  | stop => exact absurd rfl h

/-! ## Histories -/

/-- What every step keeps holds after every history. -/
lemma steps_invariant {P : Run → Prop} (hstep : ∀ run step, P run → P (run.step step).2)
    {run : Run} (h : P run) (history : List Step) : P (run.steps history).2 := by
  induction history generalizing run with
  | nil => exact h
  | cons step rest ih => exact ih (hstep run step h)

end Run

end MeteredHttp
