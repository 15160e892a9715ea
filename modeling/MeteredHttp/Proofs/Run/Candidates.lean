import MeteredHttp.Proofs.Definition.Candidates
import MeteredHttp.Proofs.Reporter.Outcome
import MeteredHttp.Proofs.Run.Requests

/-!
# Candidates that are skipped

A refused address need not be the end of a transfer: the next candidate may be permitted, and a
response arrives.  One would expect that such a transfer is reported like one that was never offered
the refused address.

**`Run.skipped_candidates_unseen_iff`** says when this is so: the transfer has to succeed, or the
body of the request has to fail.  Any other failure is reported as the refusal, although the refusal
had nothing to do with it, and a response that had begun to arrive is lost
(`Run.skipped_candidate_masks_failure`).
-/

namespace MeteredHttp

open Transfer

namespace Shown

def told? : Shown → Option Classification
  | .sent outcome _ => outcome.told?
  | _ => none

def status? : Shown → Option Int
  | .sent (.response r) _ => some r.status
  | _ => none

def wire? : Shown → Option Wire
  | .sent _ wire => wire
  | _ => none

lemma exists_of_isSome_wire? {shown : Shown} (h : shown.wire?.isSome = true) :
    ∃ outcome wire, shown = .sent outcome (some wire) := by
  cases shown with
  | sent outcome wire =>
    obtain ⟨wire, rfl⟩ := Option.isSome_iff_exists.1 h
    exact ⟨outcome, wire, rfl⟩
  | nothing => cases h
  | rejected error => cases h

end Shown

namespace Run

/-- In a run every send goes one of the ways, with the policy of its own client. -/
lemma Coherent.send_course {initial run : Run} (h : Coherent initial run) {i j : Nat} {c : Client}
    {d : Definition} (hc : run.client? i = some c) (hd : run.definitions[j]? = some d)
    (method : Method) (exchange : Exchange) :
    d.Course c.transport run.sources method exchange :=
  Definition.send_course (h.serves hd) (h.handleFor_owner hc hd) run.sources method exchange

/-- **When skipped candidates are not seen.**  In a run that begins without clients and with
definitions that were never sent, and after any history of steps, a client sends a definition,
something is sent, and an address that is offered is refused:

* the step is the same as if only the addresses had been offered that are not refused, in what it
  shows and in all that it leaves behind, exactly if the transfer succeeded or a read of the body of
  the request failed; and
* the caller is told of a refused address exactly if neither is so. -/
theorem skipped_candidates_unseen_iff {initial : Run} (hclients : initial.clients = [])
    (hpools : ∀ d ∈ initial.definitions, d.pool.idle = []) (history : List Step) {i j : Nat}
    {c : Client} {method : Method} {exchange : Exchange} {measured : Measured}
    {outcome : Definition.Outcome} {wire : Wire}
    (hc : (initial.steps history).2.client? i = some c)
    (hshown : ((initial.steps history).2.step (.send i j method exchange measured)).1
      = .sent outcome (some wire))
    (hcovers : ∃ offer ∈ exchange.sockets, Covers c.transport.policy offer) :
    let run := (initial.steps history).2
    let spared := { exchange with sockets := permitted c.transport.policy exchange.sockets }
    let harmless := exchange.code = .completed ∨ none ∈ wire.reads
    (run.step (.send i j method exchange measured) = run.step (.send i j method spared measured)
        ↔ harmless)
      ∧ (outcome.told? = some .refusedAddress ↔ ¬harmless) := by
  intro run spared harmless
  have hcoherent : Coherent initial run := Coherent.of_steps hclients hpools history
  obtain ⟨c', d, hc', hd, hsent⟩ := exists_of_step_sent hshown
  obtain rfl : c = c' := Option.some.inj (hc.symm.trans hc')
  cases hcoherent.send_course hc hd method exchange with
  | unrewound definition hopened hsend =>
    rw [hsend] at hsent
    cases hsent
  | refused host pattern definition after hopened hhost hsend =>
    rw [hsend] at hsent
    cases hsent
  | performed definition after hopened hhost hdelivered hsend =>
    have hreads := Definition.ofReads_bodyFailure? hopened hdelivered
    have hwhole : d.send c.transport run.sources method exchange = _ := hsend exchange.sockets
    have hspared : d.send c.transport run.sources method spared = _ := hsend _
    rw [hwhole] at hsent
    obtain ⟨rfl, hwire⟩ := Shown.sent.inj hsent
    obtain rfl := Option.some.inj hwire
    refine ⟨⟨?_, ?_⟩,
      (Definition.told?_performed_iff d method hreads).trans (and_iff_right hcovers)⟩
    · -- What the caller is told keeps the two apart: without the refused candidates there is no
      -- refusal to be told of.
      intro heq
      by_contra hharmless
      have hshown := congrArg Prod.fst heq
      rw [step_send hc hd, step_send hc hd, Run.send, Run.send, hwhole, hspared] at hshown
      have htold := (Definition.told?_performed_iff d method hreads).2 ⟨hcovers, hharmless⟩
      rw [(Shown.sent.inj hshown).1] at htold
      obtain ⟨⟨offer, hoffer, hcovers⟩, -⟩ :=
        (Definition.told?_performed_iff d method hreads).1 htold
      exact (mem_permitted.1 hoffer).2 hcovers
    · intro hharmless
      have hsame : d.send c.transport run.sources method exchange
          = d.send c.transport run.sources method spared := by
        rw [hwhole, hspared, resultOf_of_harmless _ _ hreads hharmless,
          resultOf_of_harmless _ _ hreads hharmless, permitted_permitted]
      rw [step_send hc hd, step_send hc hd, Run.send, Run.send, hsame]

/-- A run whose definition names a host with two addresses. -/
def localhost : Run := { definitions := [{ url := utf8 "http://localhost/" }] }

/-- A client that refuses one of them. -/
def refusing : ClientConfig := { blacklistIps := [utf8 "::1/128"] }

def guarded : Run := (localhost.steps [.create refusing]).2

/-- The addresses of the host, the refused one in front. -/
def candidates : List SocketOffer :=
  [.peer (.v6 ⟨#v[0, 0, 0, 0, 0, 0, 0, 1]⟩), .peer (.v4 ⟨127, 0, 0, 1⟩)]

theorem skipped_candidates_unseen_iff_success :
    ∃ c, guarded.client? 0 = some c
      ∧ (∃ offer ∈ candidates, Covers c.transport.policy offer)
      ∧ guarded.step (.send 0 0 .get { status := 200, sockets := candidates } {})
        = guarded.step (.send 0 0 .get
            { status := 200, sockets := permitted c.transport.policy candidates } {}) := by
  have hthere : (guarded.client? 0).isSome = true := by rfl
  obtain ⟨c, hc⟩ := Option.isSome_iff_exists.1 hthere
  have hcovers : ∃ offer ∈ candidates, Covers c.transport.policy offer := by
    have h : (guarded.client? 0).map (fun c => (refusal? c.transport.policy candidates).isSome)
        = some true := by decide +kernel
    rw [hc, Option.map_some, Option.some.injEq] at h
    exact isSome_refusal?.1 h
  have hwire : (guarded.step
      (.send 0 0 .get { status := 200, sockets := candidates } {})).1.wire?.isSome = true := by
    decide +kernel
  obtain ⟨outcome, wire, hshown⟩ := Shown.exists_of_isSome_wire? hwire
  refine ⟨c, hc, hcovers, ?_⟩
  exact (skipped_candidates_unseen_iff rfl (by simp [localhost]) [.create refusing] hc hshown
    hcovers).1.2 (.inl rfl)

/-- A response has begun to arrive from the permitted address when the connection is lost.  The
caller is told of the address that was skipped, and does not get the head. -/
theorem skipped_candidate_masks_failure :
    let exchange : Exchange :=
      { code := .receiveFailed, osErrno := 104, status := 200, sockets := candidates }
    let masked := (guarded.step (.send 0 0 .get exchange {})).1
    let plain := (guarded.step (.send 0 0 .get { exchange with sockets := candidates.tail } {})).1
    (masked.told? = some .refusedAddress ∧ masked.status? = some 0)
      ∧ plain.told? = some ⟨.connectionReset, utf8 "read: connection reset by peer"⟩
      ∧ plain.status? = some 200 := by
  decide +kernel

end Run

end MeteredHttp
