import MeteredHttp.Proofs.HostPort
import MeteredHttp.Proofs.Run.Agreement

/-!
# The address of the peer in reports

A transfer knows the address of its peer.  It is joined to a port, carried along with the round
trip, and split off again when the samples are made, maybe much later.

`Reporter.Sending.batch_names_peer` says that it is then still the same, and
**`Run.peer_address_is_reported`** that this holds for every send of a history.
-/

namespace MeteredHttp

/-- An address without brackets is recognized whether it has colons or not. -/
lemma HostPort.separable_of_no_bracket {host : Bytes} (hopening : 91 ∉ host)
    (hclosing : 93 ∉ host) : Separable host := by
  by_cases hcolon : 58 ∈ host
  · exact .inr ⟨hcolon, hclosing⟩
  · refine .inl ⟨hcolon, ?_⟩
    intro hstart
    exact hopening (List.mem_of_mem_head? hstart)

/-- The address of the peer is known and holds no bracket. -/
structure Transfer.Result.NamesPeer (r : Transfer.Result) : Prop where
  known : r.peerIp ≠ []
  opening : 91 ∉ r.peerIp
  closing : 93 ∉ r.peerIp

instance (r : Transfer.Result) : Decidable r.NamesPeer :=
  decidable_of_iff (r.peerIp ≠ [] ∧ 91 ∉ r.peerIp ∧ 93 ∉ r.peerIp)
    ⟨fun ⟨hknown, hopening, hclosing⟩ => ⟨hknown, hopening, hclosing⟩,
      fun ⟨hknown, hopening, hclosing⟩ => ⟨hknown, hopening, hclosing⟩⟩

/-- Every sample of a batch says which address the peer has. -/
structure Batch.NamesPeer (batch : Batch) (address : Bytes) : Prop where
  nonempty : batch ≠ []
  ip : ∀ sample ∈ batch, sample.tags.find? SystemTag.ip.key = some address

namespace Transfer.Result

lemma NamesPeer.split?_remote? {r : Transfer.Result} (h : r.NamesPeer) :
    r.remote?.bind HostPort.split? = some r.peerIp := by
  rw [remote?, if_neg h.known, Option.bind_some, HostPort.split?_join_iff]
  exact HostPort.separable_of_no_bracket h.opening h.closing

end Transfer.Result

namespace Reporter

/-- The samples of a send name its peer. -/
lemma Sending.batch_names_peer {s : Sending} (h : s.result.NamesPeer) {r : Reporter}
    (hwanted : r.enabled.has .ip = true) :
    (r.finish s.wholeTrip).batch.NamesPeer s.result.peerIp := by
  obtain ⟨hnonempty, htags⟩ := @batch_tags r s.wholeTrip rfl rfl
  refine ⟨hnonempty, ?_⟩
  intro sample hsample
  have hstated : r.stated? s.wholeTrip (r.verdict? s.wholeTrip) .ip = some s.result.peerIp :=
    h.split?_remote?
  rw [htags sample hsample, find?_context, SystemTag.ofKey?_key, Option.bind_some, if_pos hwanted,
    hstated, Option.some_or]

end Reporter

namespace Run

/-- **The address of the peer is reported.**  Joined to any port, exactly the separable hosts come
back.  In a run that begins without clients and wants the tag of the address, and for every history
of steps:

* what a step hands over on account of its client, the sink gets, unless the run is over; and
* the answers of a client are, in their order, those whose batches were handed over, and the one
  that its client has staged; and every batch is the report of its send and names the peer of that
  send if the peer is known and its address holds no bracket. -/
theorem peer_address_is_reported {run : Run} (hclients : run.clients = [])
    (hwanted : run.context.enabled.has .ip = true) (history : List Step) :
    (∀ host port, HostPort.split? (HostPort.join host port) = some host ↔ HostPort.Separable host)
      ∧ (∀ past step rest, history = past ++ step :: rest →
          let before := (run.steps past).2
          Outlets.Given before.context.ended (before.handed step) before.context.outlets
            (before.step step).2.context.outlets)
      ∧ ∀ i, ∃ reported waiting, run.answers i history = reported ++ waiting
          ∧ waiting.map (·.sending.wholeTrip)
            = (((run.steps history).2.client? i).bind (·.reporter.staged)).toList
          ∧ List.Forall₂
              (fun a batch => IsReport run.context a.sending.wholeTrip batch
                ∧ (a.sending.result.NamesPeer → batch.NamesPeer a.sending.result.peerIp))
              reported (batchesOf i (run.accounts history)) := by
  refine ⟨HostPort.split?_join_iff, ?_, ?_⟩
  · rintro past step rest -
    exact given_of_stepped ((run.steps past).2.stepped_step step)
  · intro i
    obtain ⟨reported, waiting, hanswers, hwaiting, hreports⟩ := exists_reported hclients history i
    refine ⟨reported, waiting, hanswers, hwaiting, hreports.imp ?_⟩
    intro a batch hreport
    obtain ⟨judge, rfl⟩ := hreport
    exact ⟨⟨judge, rfl⟩, fun hpeer => Reporter.Sending.batch_names_peer hpeer hwanted⟩

/-- A run that wants the tag of the address, with one definition. -/
def addressed : Run :=
  { context := { enabled := .ofList [.ip] }, definitions := [{ url := utf8 "http://a/" }] }

/-- A client comes, reaches a peer over IPv6 and one over IPv4, and goes. -/
def twoPeers : List Step :=
  [.create {},
    .send 0 0 .get { status := 200, peerIp := some (utf8 "fe80::1%eth0"), peerPort := 80 } {},
    .send 0 0 .get { status := 200, peerIp := some (utf8 "10.0.0.1"), peerPort := -1 } {},
    .destroy 0]

theorem peer_address_is_reported_over_both :
    addressed.clients = [] ∧ addressed.context.enabled.has .ip = true
      ∧ (addressed.answers 0 twoPeers).map (·.sending.result.peerIp)
        = [utf8 "fe80::1%eth0", utf8 "10.0.0.1"]
      ∧ List.Forall₂ (fun a batch => batch.NamesPeer a.sending.result.peerIp)
          (addressed.answers 0 twoPeers) (batchesOf 0 (addressed.accounts twoPeers)) := by
  have hclients : addressed.clients = [] := rfl
  have hwanted : addressed.context.enabled.has .ip = true := rfl
  have hpeers : (addressed.answers 0 twoPeers).map (·.sending.result.peerIp)
      = [utf8 "fe80::1%eth0", utf8 "10.0.0.1"] := by decide +kernel
  have hnames : ∀ a ∈ addressed.answers 0 twoPeers, a.sending.result.NamesPeer := by
    decide +kernel
  have hgone : (addressed.steps twoPeers).2.client? 0 = none := by rfl
  refine ⟨hclients, hwanted, hpeers, ?_⟩
  obtain ⟨reported, waiting, hanswers, hwaiting, hreports⟩ :=
    (peer_address_is_reported hclients hwanted twoPeers).2.2 0
  rw [hgone, Option.bind_none, Option.toList_none, List.map_eq_nil_iff] at hwaiting
  subst hwaiting
  rw [List.append_nil] at hanswers
  rw [hanswers] at hnames ⊢
  refine ((List.forall₂_and_left _ _).2 ⟨hnames, hreports⟩).imp ?_
  rintro a batch ⟨ha, -, hnamed⟩
  exact hnamed ha

end Run

end MeteredHttp
