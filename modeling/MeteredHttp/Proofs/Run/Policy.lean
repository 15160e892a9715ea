import MeteredHttp.Proofs.Run.Candidates
import MeteredHttp.Proofs.Run.Independence

/-!
# Every client has its own network policy

Clients share definitions, and the handles that wait in the pool of a definition carry the policy
of the client that made them.  Addresses are refused by the policy of the handle, hosts by that of
the client that sends.

* `Requests.transports_after` traces every transport of a run back to the step that created it, and
  `Requests.poolSizes_after` says that there never wait two handles in one pool.
* `Run.Enforced` is what becomes of the policy of a client in a send.
* **`Run.policies_are_enforced`** says that this is so in every run, and that the definition holds
  one handle afterwards.
-/

namespace MeteredHttp

open Transfer

/-! ## Transports and pools -/

namespace Definition

lemma idle_handleFor (d : Definition) (t : Transport) :
    (d.handleFor t).2.idle = d.pool.idle.tail := by
  rcases d with ⟨url, options, payload, ⟨idle⟩⟩
  cases idle with
  | nil => rfl
  | cons first rest =>
    simp only [handleFor, Pool.take]
    split <;> rfl

/-- A send takes one handle out of the pool, if there is one, and gives one back. -/
lemma size_send (d : Definition) (t : Transport) (sources : Sources) (method : Method)
    (exchange : Exchange) :
    (d.send t sources method exchange).definition.pool.size = d.pool.size - 1 + 1 := by
  simp only [send]
  split <;> simp [Pool.size, Pool.giveBack, idle_handleFor]

/-- If no two handles wait, one does after a send. -/
lemma exists_send_idle {d : Definition} (hserve : ∀ h ∈ d.pool.idle, h.Serves d)
    (hsize : d.pool.size ≤ 1) (t : Transport) (sources : Sources) (method : Method)
    (exchange : Exchange) :
    ∃ handle, (d.send t sources method exchange).definition = { d with pool := ⟨[handle]⟩ }
      ∧ handle.owner = (d.handleFor t).1.owner := by
  obtain ⟨⟨handle, rest, hdefinition, -, howner, -⟩, -⟩ :=
    exists_send_definition hserve t sources method exchange
  obtain rfl : rest = [] := by
    have hsent := d.size_send t sources method exchange
    rw [hdefinition] at hsent
    simp only [Pool.size, List.length_cons] at hsent hsize
    exact List.length_eq_zero_iff.1 (by omega)
  exact ⟨handle, hdefinition, howner⟩

end Definition

namespace Requests

def after (r : Requests) (history : List Step) : Requests :=
  history.foldl (fun r step => (r.step step).2) r

lemma mem_transports_step {r : Requests} {step : Step} {t : Transport}
    (h : some t ∈ (r.step step).2.transports) :
    some t ∈ r.transports ∨ step = .create t.config ∧ t.config.policy = .ok t.policy := by
  cases step with
  | send i j method exchange measured =>
    simp only [Requests.step] at h
    split at h <;> exact .inl h
  | create config =>
    simp only [Requests.step] at h
    split at h
    next made hmake =>
      rcases List.mem_append.1 h with hold | hnew
      · exact .inl hold
      · obtain rfl : t = made := Option.some.inj (List.mem_singleton.1 hnew)
        obtain ⟨-, rfl, hpolicy⟩ := Transport.of_make hmake
        exact .inr ⟨rfl, hpolicy⟩
    next => exact .inl h
  | destroy i =>
    rcases List.mem_or_eq_of_mem_set h with hold | hgone
    · exact .inl hold
    · cases hgone
  | flush i => exact .inl h
  | setJudge i judge => exact .inl h
  | stop => exact .inl h

/-- Every transport was created with its configuration, and has the policy of that. -/
lemma transports_after {r : Requests} {history : List Step} {t : Transport}
    (h : some t ∈ (r.after history).transports) :
    some t ∈ r.transports
      ∨ Step.create t.config ∈ history ∧ t.config.policy = .ok t.policy := by
  induction history generalizing r with
  | nil => exact .inl h
  | cons step rest ih =>
    rcases ih (r := (r.step step).2) h with hstep | ⟨hmem, hpolicy⟩
    · rcases mem_transports_step hstep with hold | ⟨rfl, hpolicy⟩
      · exact .inl hold
      · exact .inr ⟨List.mem_cons_self, hpolicy⟩
    · exact .inr ⟨List.mem_cons_of_mem step hmem, hpolicy⟩

lemma poolSizes_step {r : Requests} (h : ∀ d ∈ r.definitions, d.pool.size ≤ 1) (step : Step) :
    ∀ d ∈ (r.step step).2.definitions, d.pool.size ≤ 1 := by
  intro d hd
  cases step with
  | send i j method exchange measured =>
    simp only [Requests.step] at hd
    split at hd
    next t used ht hused =>
      rcases List.mem_or_eq_of_mem_set hd with hold | rfl
      · exact h d hold
      · have hsize := h used (List.mem_of_getElem? hused)
        rw [Definition.size_send]
        omega
    next => exact h d hd
  | create config =>
    simp only [Requests.step] at hd
    split at hd <;> exact h d hd
  | destroy i => exact h d hd
  | flush i => exact h d hd
  | setJudge i judge => exact h d hd
  | stop => exact h d hd

lemma poolSizes_after {r : Requests} (h : ∀ d ∈ r.definitions, d.pool.size ≤ 1)
    (history : List Step) : ∀ d ∈ (r.after history).definitions, d.pool.size ≤ 1 := by
  induction history generalizing r with
  | nil => exact h
  | cons step rest ih => exact ih (poolSizes_step h step)

end Requests

namespace Run

lemma requests_steps (run : Run) (history : List Step) :
    (run.steps history).2.requests = run.requests.after history := by
  induction history generalizing run with
  | nil => rfl
  | cons step rest ih =>
    have hnext := (run.step_requests step).2
    simp only [steps, Requests.after, List.foldl_cons, ih, hnext]

/-! ## Enforcement -/

/-- What becomes of the policy of a client when it sends a definition. -/
structure Enforced (run : Run) (c : Client) (d : Definition) (method : Method)
    (exchange : Exchange) (shown : Shown) : Prop where
  /-- The handle was made by the client. -/
  owner : (d.handleFor c.transport).1.owner = c.transport
  /-- Of the sockets that a transfer asks for, those are opened that the client does not refuse. -/
  sockets : ∀ offer, offer ∈ (d.send c.transport run.sources method exchange).sockets
    ↔ shown.wire?.isSome = true ∧ offer ∈ exchange.sockets ∧ ¬Covers c.transport.policy offer
  /-- None of them is for an address in a range of the client, as the engine asks for connections
  only. -/
  apart : exchange.ConnectsFirst c.transport.policy →
    ∀ offer ∈ (d.send c.transport run.sources method exchange).sockets,
      ∀ mapped, offer.address.mapped? = some mapped →
        ∀ network ∈ c.transport.policy.networks, network.contains mapped = false
  /-- If the source of the body cannot be rewound the send ends with that. -/
  unrewound : ∀ reason, d.opened method run.sources = .error reason →
    shown = .sent (.unrewound reason) none
  /-- Nothing is sent to a host that a pattern of the client covers, and the caller is told so
  unless the source of the body cannot be rewound. -/
  host : CoversHost c.transport.policy d.url → shown.wire? = none
    ∧ ((∃ opened, d.opened method run.sources = .ok opened) → shown.told? = some .refusedHost)
  /-- The caller of a transfer that fails with all addresses refused is told so, as the engine reads
  no body without a connection. -/
  address : exchange.ConnectsFirst c.transport.policy → shown.wire?.isSome = true →
    exchange.code ≠ .completed → exchange.sockets ≠ [] →
    (∀ offer ∈ exchange.sockets, Covers c.transport.policy offer) →
    shown.told? = some .refusedAddress
  /-- Without regard to what the engine is relied on for: the caller is told of a refused address if
  there was one, the transfer failed, and no read of the body did. -/
  address_iff : shown.told? = some .refusedAddress ↔ ∃ wire, shown.wire? = some wire
    ∧ (∃ offer ∈ exchange.sockets, Covers c.transport.policy offer)
    ∧ exchange.code ≠ .completed ∧ none ∉ wire.reads
  /-- If a read of the body failed, and the transfer with it, the caller is told why. -/
  unread : ∀ wire, shown.wire? = some wire → none ∈ wire.reads → exchange.code ≠ .completed →
    ∃ reason, d.bodyFailure? method run.sources exchange.reads = some (readFailure reason)
      ∧ shown.told? = some ⟨.unspecific, reason.untilNul⟩
  /-- Only the patterns of the client have a host refused. -/
  own_host : shown.told? = some .refusedHost → CoversHost c.transport.policy d.url
  /-- Only the ranges of the client have an address refused. -/
  own_address : shown.told? = some .refusedAddress →
    ∃ offer ∈ exchange.sockets, Covers c.transport.policy offer

section

variable {t : Transport} {d : Definition} {sources : Sources} {method : Method}
  {exchange : Exchange}

lemma mem_sockets_iff (h : d.Course t sources method exchange) (offer : SocketOffer) :
    let sent := d.send t sources method exchange
    offer ∈ sent.sockets ↔ (shown d method sent.transmission).wire?.isSome = true
      ∧ offer ∈ exchange.sockets ∧ ¬Covers t.policy offer := by
  cases h with
  | unrewound definition hopened hsend => simp [hsend, shown, Shown.wire?]
  | refused host pattern definition after hopened hhost hsend =>
    simp [hsend, shown, Shown.wire?]
  | performed definition after hopened hhost hdelivered hsend =>
    have hwhole : d.send t sources method exchange = _ := hsend exchange.sockets
    simp [hwhole, shown, Shown.wire?, mem_permitted]

/-- What is opened for connections only is for no address in a range. -/
lemma not_contains_of_not_covers {policy : Policy} {offer : SocketOffer} {mapped : Ipv6}
    (hconnects : exchange.ConnectsFirst policy) (hoffer : offer ∈ exchange.sockets)
    (hcovers : ¬Covers policy offer) (hmapped : offer.address.mapped? = some mapped)
    {network : Network} (hnetwork : network ∈ policy.networks) :
    network.contains mapped = false := by
  obtain ⟨address, rfl⟩ := hconnects.peers offer hoffer
  rw [← Bool.not_eq_true]
  exact fun hcontains => hcovers ⟨address, mapped, network, rfl, hmapped, hnetwork, hcontains⟩

lemma shown_of_unrewound (h : d.Course t sources method exchange) {reason : Bytes}
    (hreason : d.opened method sources = .error reason) :
    shown d method (d.send t sources method exchange).transmission
      = .sent (.unrewound reason) none := by
  cases h with
  | unrewound definition hopened hsend =>
    rw [hopened] at hreason
    obtain rfl := Except.error.inj hreason
    rw [hsend]
    rfl
  | refused host pattern definition after hopened hhost hsend =>
    rw [hopened] at hreason
    cases hreason
  | performed definition after hopened hhost hdelivered hsend =>
    rw [hopened] at hreason
    cases hreason

lemma told_refusedHost (h : d.Course t sources method exchange) :
    let shown := shown d method (d.send t sources method exchange).transmission
    (CoversHost t.policy d.url → shown.wire? = none
        ∧ ((∃ opened, d.opened method sources = .ok opened) → shown.told? = some .refusedHost))
      ∧ (shown.told? = some .refusedHost → CoversHost t.policy d.url) := by
  cases h with
  | unrewound definition hopened hsend =>
    simp [hsend, shown, Shown.wire?, Shown.told?, Definition.Outcome.told?, hopened]
  | refused host pattern definition after hopened hhost hsend =>
    rw [hsend]
    exact ⟨fun _ => ⟨rfl, fun _ => Definition.told?_of_refusedHost rfl⟩, fun _ => hhost⟩
  | performed definition after hopened hhost hdelivered hsend =>
    have hwhole : d.send t sources method exchange = _ := hsend exchange.sockets
    have hreads := Definition.ofReads_bodyFailure? hopened hdelivered
    rw [hwhole]
    exact ⟨fun hcovers => absurd hcovers hhost,
      fun htold => absurd htold (Definition.told?_performed_ne d method hreads)⟩

lemma told_refusedAddress_iff (h : d.Course t sources method exchange) :
    let shown := shown d method (d.send t sources method exchange).transmission
    shown.told? = some .refusedAddress ↔ ∃ wire, shown.wire? = some wire
      ∧ (∃ offer ∈ exchange.sockets, Covers t.policy offer)
      ∧ exchange.code ≠ .completed ∧ none ∉ wire.reads := by
  cases h with
  | unrewound definition hopened hsend =>
    simp [hsend, shown, Shown.wire?, Shown.told?, Definition.Outcome.told?]
  | refused host pattern definition after hopened hhost hsend =>
    have htold : (d.outcome method (blockedResult (.leaf (.blockedHost host pattern)))).told?
        = some .refusedHost := Definition.told?_of_refusedHost rfl
    have hne : Classification.refusedHost ≠ .refusedAddress := by decide
    simp [hsend, shown, Shown.wire?, Shown.told?, htold, hne]
  | performed definition after hopened hhost hdelivered hsend =>
    have hwhole : d.send t sources method exchange = _ := hsend exchange.sockets
    have hreads := Definition.ofReads_bodyFailure? hopened hdelivered
    rw [hwhole]
    simp only [shown, Shown.wire?, Shown.told?, Option.some.injEq, exists_eq_left']
    exact (Definition.told?_performed_iff d method hreads).trans (and_congr_right fun _ => not_or)

/-- If something was sent there was a transfer. -/
lemma exists_of_wire? (h : d.Course t sources method exchange) {wire : Wire}
    (hwire : (shown d method (d.send t sources method exchange).transmission).wire? = some wire) :
    ∃ body opened, d.opened method sources = .ok (body, opened)
      ∧ wire.reads = (serveReads body opened exchange.reads).1
      ∧ shown d method (d.send t sources method exchange).transmission
        = .sent (d.outcome method (resultOf exchange d.options.responseType (wordsOf exchange)
            (d.bodyFailure? method sources exchange.reads
              <|> refusal? t.policy exchange.sockets))) (some wire) := by
  cases h with
  | unrewound definition hopened hsend =>
    rw [hsend] at hwire
    cases hwire
  | refused host pattern definition after hopened hhost hsend =>
    rw [hsend] at hwire
    cases hwire
  | performed definition after hopened hhost hdelivered hsend =>
    have hwhole : d.send t sources method exchange = _ := hsend exchange.sockets
    rw [hwhole] at hwire ⊢
    obtain rfl := Option.some.inj hwire
    exact ⟨_, _, hopened, hdelivered, rfl⟩

/-- Where all addresses are refused no read of the body fails, as there is none. -/
lemma not_mem_reads (h : d.Course t sources method exchange)
    (hconnects : exchange.ConnectsFirst t.policy) (hsockets : exchange.sockets ≠ [])
    (hcovers : ∀ offer ∈ exchange.sockets, Covers t.policy offer) {wire : Wire}
    (hwire : (shown d method (d.send t sources method exchange).transmission).wire? = some wire) :
    none ∉ wire.reads := by
  obtain ⟨body, opened, -, hreads, -⟩ := exists_of_wire? h hwire
  rw [hreads, hconnects.reads hsockets hcovers, serveReads_nil]
  exact List.not_mem_nil

lemma told_of_unread (h : d.Course t sources method exchange) {wire : Wire}
    (hwire : (shown d method (d.send t sources method exchange).transmission).wire? = some wire)
    (hread : none ∈ wire.reads) (hcode : exchange.code ≠ .completed) :
    ∃ reason, d.bodyFailure? method sources exchange.reads = some (readFailure reason)
      ∧ (shown d method (d.send t sources method exchange).transmission).told?
        = some ⟨.unspecific, reason.untilNul⟩ := by
  obtain ⟨body, opened, hopened, hdelivered, hshown⟩ := exists_of_wire? h hwire
  have hreads := Definition.ofReads_bodyFailure? hopened hdelivered
  obtain ⟨failure, hfailure⟩ := Option.isSome_iff_exists.1 (hreads.isSome_iff.2 hread)
  obtain ⟨reason, rfl⟩ := hreads.read failure hfailure
  refine ⟨reason, hfailure, ?_⟩
  rw [hshown, hfailure]
  exact Definition.told?_of_bodyFailure? d method reason _ hcode

end

variable {initial run : Run} {i j : Nat} {c : Client} {d : Definition} {method : Method}
  {exchange : Exchange} {measured : Measured}

lemma Coherent.enforced (h : Coherent initial run) (hc : run.client? i = some c)
    (hd : run.definitions[j]? = some d) :
    Enforced run c d method exchange (run.step (.send i j method exchange measured)).1 := by
  have hcourse := h.send_course hc hd method exchange
  have hshown : (run.step (.send i j method exchange measured)).1
      = shown d method (d.send c.transport run.sources method exchange).transmission := by
    rw [step_send hc hd]
    rfl
  have haddress := told_refusedAddress_iff hcourse
  rw [hshown]
  refine {
    owner := h.handleFor_owner hc hd
    sockets := mem_sockets_iff hcourse
    apart := ?_
    unrewound := fun reason => shown_of_unrewound hcourse
    host := (told_refusedHost hcourse).1
    address := ?_
    address_iff := haddress
    unread := fun wire => told_of_unread hcourse
    own_host := (told_refusedHost hcourse).2
    own_address := ?_ }
  · intro hconnects offer hopened mapped hmapped network hnetwork
    obtain ⟨-, hoffer, hcovers⟩ := (mem_sockets_iff hcourse offer).1 hopened
    exact not_contains_of_not_covers hconnects hoffer hcovers hmapped hnetwork
  · intro hconnects hsent hcode hsockets hcovers
    obtain ⟨wire, hwire⟩ := Option.isSome_iff_exists.1 hsent
    obtain ⟨offer, hoffer⟩ := List.exists_mem_of_ne_nil _ hsockets
    exact haddress.2 ⟨wire, hwire, ⟨offer, hoffer, hcovers offer hoffer⟩, hcode,
      not_mem_reads hcourse hconnects hsockets hcovers hwire⟩
  · intro htold
    obtain ⟨-, -, hcovers, -⟩ := haddress.1 htold
    exact hcovers

lemma Coherent.exists_idle (h : Coherent initial run) (hc : run.client? i = some c)
    (hd : run.definitions[j]? = some d) (hsize : d.pool.size ≤ 1) :
    ∃ handle, ((run.step (.send i j method exchange measured)).2.definitions[j]?).map (·.pool.idle)
        = some [handle]
      ∧ handle.owner = c.transport := by
  obtain ⟨handle, hdefinition, howner⟩ := Definition.exists_send_idle (h.serves hd) hsize
    c.transport run.sources method exchange
  refine ⟨handle, ?_, howner.trans (h.handleFor_owner hc hd)⟩
  have hj : j < run.definitions.length := (List.getElem?_eq_some_iff.1 hd).1
  rw [step_send hc hd]
  simp [Run.send, hdefinition, List.getElem?_set_self hj]

/-- **Every client enforces its own policy, and only its own.**  In a run that begins without
clients and with definitions that were never sent, and after any history of steps, a client sends a
definition:

* the client was created with its configuration, and has the policy of that;
* this policy, and no other, is enforced (`Enforced`); and
* the definition holds one handle afterwards, which the client made. -/
theorem policies_are_enforced {initial : Run} (hclients : initial.clients = [])
    (hpools : ∀ d ∈ initial.definitions, d.pool.idle = []) (history : List Step) {i j : Nat}
    {c : Client} {d : Definition} (hc : (initial.steps history).2.client? i = some c)
    (hd : (initial.steps history).2.definitions[j]? = some d) (method : Method)
    (exchange : Exchange) (measured : Measured) :
    let run := (initial.steps history).2
    let sent := run.step (.send i j method exchange measured)
    (Step.create c.transport.config ∈ history
        ∧ c.transport.config.policy = .ok c.transport.policy)
      ∧ Enforced run c d method exchange sent.1
      ∧ ∃ handle, (sent.2.definitions[j]?).map (·.pool.idle) = some [handle]
          ∧ handle.owner = c.transport := by
  intro run sent
  have hcoherent : Coherent initial run := Coherent.of_steps hclients hpools history
  have hrequests : run.requests = initial.requests.after history := initial.requests_steps history
  refine ⟨?_, hcoherent.enforced hc hd, hcoherent.exists_idle hc hd ?_⟩
  · have hmem : some c.transport ∈ run.requests.transports := by
      have ht := run.transports_join i
      rw [hc] at ht
      exact List.mem_of_getElem? (Option.join_eq_some_iff.1 ht)
    rw [hrequests] at hmem
    rcases Requests.transports_after hmem with hold | hnew
    · simp [requests, hclients] at hold
    · exact hnew
  · refine Requests.poolSizes_after (r := initial.requests) ?_ history d ?_
    · intro d hd
      simp [Pool.size, hpools d hd]
    · rw [← hrequests]
      exact List.mem_of_getElem? hd

/-- The body of one definition comes out of a pipe, that of the other out of a directory. -/
def uploads : Run where
  definitions := [{ url := utf8 "http://a/", payload := .stream 0 },
    { url := utf8 "http://b/", payload := .stream 1 }]
  sources := [.file { path := utf8 "p", node := .pipe, unread := [] },
    .file { path := utf8 "q", node := .directory, unread := [] }]

/-- A client that refuses the host of the first and the address of the second. -/
def strict : ClientConfig :=
  { blockHostnames := [utf8 "a"], blacklistIps := [utf8 "127.0.0.0/8"] }

/-- Two clients share the definitions, and only the first one refuses anything. -/
def visits : List Step := [.create strict, .create {}, .send 0 1 .get {} {}, .send 1 1 .get {} {}]

theorem policies_are_enforced_visits :
    let run := (uploads.steps visits).2
    let failed : Exchange :=
      { code := .connectFailed, sockets := [.peer (.v4 ⟨127, 0, 0, 1⟩)] }
    let refusedHost := run.step (.send 0 0 .get {} {})
    let refusedAddress := run.step (.send 0 1 .get failed {})
    (refusedHost.1.wire? = none ∧ refusedHost.1.told? = some .refusedHost
        ∧ ∃ handle, (refusedHost.2.definitions[0]?).map (·.pool.idle) = some [handle])
      ∧ refusedAddress.1.told? = some .refusedAddress
      ∧ ∃ handle, (refusedAddress.2.definitions[1]?).map (·.pool.idle) = some [handle] := by
  intro run failed refusedHost refusedAddress
  have hrefuses : (run.client? 0).map (fun c =>
      (blockedHost? c.transport.policy (utf8 "http://a/")).isSome
        && (refuse? c.transport.policy (.peer (.v4 ⟨127, 0, 0, 1⟩))).isSome) = some true := by
    decide +kernel
  have hfirst : (run.definitions[0]?).map (·.url) = some (utf8 "http://a/") := by rfl
  have hsecond : (run.definitions[1]?).isSome = true := by rfl
  obtain ⟨c, hc, hboth⟩ := Option.map_eq_some_iff.1 hrefuses
  obtain ⟨d, hd, hurl⟩ := Option.map_eq_some_iff.1 hfirst
  obtain ⟨d', hd'⟩ := Option.isSome_iff_exists.1 hsecond
  obtain ⟨hblocked, hrefused⟩ := Bool.and_eq_true_iff.1 hboth
  have hopened : ∃ opened, d.opened .get run.sources = .ok opened := ⟨_, rfl⟩
  have hhost : CoversHost c.transport.policy d.url := hurl ▸ isSome_blockedHost?.1 hblocked
  have hpeer : Covers c.transport.policy (.peer (.v4 ⟨127, 0, 0, 1⟩)) := isSome_refuse?.1 hrefused
  have hconnects : failed.ConnectsFirst c.transport.policy := ⟨by simp [failed], fun _ _ => rfl⟩
  have hsent : refusedAddress.1.wire?.isSome = true := by decide +kernel
  obtain ⟨-, henforced, handle, hhandle, -⟩ :=
    policies_are_enforced rfl (by simp [uploads]) visits hc hd .get {} {}
  obtain ⟨-, henforced', handle', hhandle', -⟩ :=
    policies_are_enforced rfl (by simp [uploads]) visits hc hd' .get failed {}
  obtain ⟨hwire, htold⟩ := henforced.host hhost
  have haddress := henforced'.address hconnects hsent (by decide) (by simp [failed])
    (by simpa [failed] using hpeer)
  exact ⟨⟨hwire, htold hopened, handle, hhandle⟩, haddress, handle', hhandle'⟩

/-- The body of a request to a refused host comes out of a pipe, which cannot be rewound.  The
caller is told of that, and gets no code. -/
theorem unrewound_body_hides_refused_host :
    let run := (uploads.steps [.create strict]).2
    let sent := (run.step (.send 0 0 .post {} {})).1
    ∃ c, run.client? 0 = some c ∧ CoversHost c.transport.policy (utf8 "http://a/")
      ∧ sent = .sent (.unrewound (utf8 "failed to rewind p")) none ∧ sent.told? = none := by
  intro run sent
  have hhost : (run.client? 0).map
      (fun c => (blockedHost? c.transport.policy (utf8 "http://a/")).isSome) = some true := by
    decide +kernel
  obtain ⟨c, hc, hblocked⟩ := Option.map_eq_some_iff.1 hhost
  exact ⟨c, hc, isSome_blockedHost?.1 hblocked, by rfl, by rfl⟩

end Run

end MeteredHttp
