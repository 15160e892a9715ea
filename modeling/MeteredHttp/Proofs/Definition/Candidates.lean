import MeteredHttp.Proofs.Definition.Outcome
import MeteredHttp.Proofs.Definition.Serving
import Mathlib.Tactic.ByContra

/-!
# How a send can go

The source of the body cannot be rewound, or the host is refused, or there is a transfer, which is
offered the addresses of the host one after the other: those that the policy covers are refused, and
a socket is opened for the others.

* `Transfer.Covers` says that the policy covers an offer.  A socket is opened for the others
  (`Transfer.mem_permitted`).
* `Transfer.Exchange.ConnectsFirst` is what the engine is relied on for.
* `Definition.Course` are the ways in which a send can go, and **`Definition.send_course`** says
  which of them it takes.
* Of the candidates only the last refusal matters.  `Definition.told?_performed_iff` says when the
  caller is told of it, `Definition.told?_of_bodyFailure?` when of the body.
-/

namespace MeteredHttp

namespace Transfer

variable {policy : Policy} {offers : List SocketOffer}

/-! ## Candidates -/

/-- A range of the policy holds the address of the peer. -/
def Covers (policy : Policy) (offer : SocketOffer) : Prop :=
  ∃ address mapped network, offer = .peer address ∧ address.mapped? = some mapped
    ∧ network ∈ policy.networks ∧ network.contains mapped = true

/-- The address that a socket is for. -/
def SocketOffer.address : SocketOffer → SocketAddress
  | .peer address | .other address => address

/-- What is relied on in the engine: it asks for sockets to connect to the peer, and for nothing
else, and it does not read a body before it has a connection. -/
structure Exchange.ConnectsFirst (policy : Policy) (exchange : Exchange) : Prop where
  peers : ∀ offer ∈ exchange.sockets, ∃ address, offer = .peer address
  /-- If all that it asked for was refused it has no connection. -/
  reads : exchange.sockets ≠ [] → (∀ offer ∈ exchange.sockets, Covers policy offer) →
    exchange.reads = []

lemma isSome_refuse? {offer : SocketOffer} :
    (refuse? policy offer).isSome = true ↔ Covers policy offer := by
  cases offer with
  | other address => simp [refuse?, Covers]
  | peer address =>
    cases hmapped : address.mapped? with
    | none => simp [refuse?, Policy.blockedAddress?, Covers, hmapped]
    | some mapped => simp [refuse?, Policy.blockedAddress?, Covers, hmapped]

lemma mem_permitted {offer : SocketOffer} :
    offer ∈ permitted policy offers ↔ offer ∈ offers ∧ ¬Covers policy offer := by
  rw [permitted, List.mem_filter, ← isSome_refuse?, Option.not_isSome_iff_eq_none,
    Option.isNone_iff_eq_none]

@[simp] lemma permitted_permitted (policy : Policy) (offers : List SocketOffer) :
    permitted policy (permitted policy offers) = permitted policy offers := by
  simp [permitted]

lemma isSome_refusal? :
    (refusal? policy offers).isSome = true ↔ ∃ offer ∈ offers, Covers policy offer := by
  rw [refusal?, List.getLast?_isSome]
  constructor
  · intro hne
    obtain ⟨failure, hfailure⟩ := List.exists_mem_of_ne_nil _ hne
    obtain ⟨offer, hoffer, hrefused⟩ := List.mem_filterMap.1 hfailure
    exact ⟨offer, hoffer, isSome_refuse?.1 (by rw [hrefused]; rfl)⟩
  · rintro ⟨offer, hoffer, hcovers⟩
    obtain ⟨failure, hfailure⟩ := Option.isSome_iff_exists.1 (isSome_refuse?.2 hcovers)
    exact List.ne_nil_of_mem (List.mem_filterMap.2 ⟨offer, hoffer, hfailure⟩)

lemma refusal?_eq_none (h : ¬∃ offer ∈ offers, Covers policy offer) :
    refusal? policy offers = none := by
  rw [← Option.not_isSome_iff_eq_none, isSome_refusal?]
  exact h

/-- The host of a URL is covered by a pattern of the policy. -/
def CoversHost (policy : Policy) (url : Bytes) : Prop :=
  ∃ host pattern, Url.host? url = some host ∧ pattern ∈ policy.patterns
    ∧ pattern.covers host = true

lemma isSome_blockedHost? {url : Bytes} :
    (blockedHost? policy url).isSome = true ↔ CoversHost policy url := by
  cases hhost : Url.host? url with
  | none => simp [blockedHost?, CoversHost, hhost]
  | some host => simp [blockedHost?, Policy.blockedHost?, CoversHost, hhost]

/-- A failure to read the body of a request, if a read of it failed. -/
structure OfReads (failure? : Option Failure) (reads : List (Option Bytes)) : Prop where
  read : ∀ failure, failure? = some failure → ∃ reason, failure = readFailure reason
  isSome_iff : failure?.isSome = true ↔ none ∈ reads

lemma ofReads_serveReads (body : Handle.Body) (sources : Sources) (sizes : List Nat) :
    OfReads (serveReads body sources sizes).2.1 (serveReads body sources sizes).1 :=
  ⟨(serveReads_failure _ _ _).1, (serveReads_failure _ _ _).2⟩

/-- A body that is not asked for does not fail. -/
lemma serveReads_nil (body : Handle.Body) (sources : Sources) :
    (serveReads body sources []).1 = [] := by
  cases body with
  | none => rfl
  | bytes content => rfl
  | stream i =>
    simp only [serveReads]
    split <;> rfl

/-- A transfer to a host that is not refused.  Of the candidates only the last refusal matters. -/
lemma exists_perform {t : Transport} {h : Handle} (hfree : blockedHost? t.policy h.url = none)
    (sources : Sources) (type : ResponseType) (exchange : Exchange) :
    let served := serveReads h.body sources exchange.reads
    ∃ wire handle after, wire.reads = served.1
      ∧ ∀ sockets, t.perform h sources type { exchange with sockets }
        = ⟨resultOf exchange type (wordsOf exchange)
            (served.2.1 <|> refusal? h.owner.policy sockets), some wire,
            permitted h.owner.policy sockets, handle, after⟩ := by
  intro served
  refine ⟨h.request sources served.1, h.used sources (wordsOf exchange), served.2.2, rfl, ?_⟩
  intro sockets
  rw [Transport.perform_of_free hfree]
  rfl

variable {exchange : Exchange} {failure? : Option Failure} {reads : List (Option Bytes)}
  {words : Bytes}

lemma orElse_none (failure? : Option Failure) : (failure? <|> none) = failure? := by simp

/-- A refusal does not count if the transfer succeeded, or if the body of the request failed. -/
lemma resultOf_of_harmless (type : ResponseType) (refusal? : Option Failure)
    (hreads : OfReads failure? reads)
    (h : exchange.code = .completed ∨ none ∈ reads) :
    resultOf exchange type words (failure? <|> refusal?)
      = resultOf exchange type words failure? := by
  rcases h with hcode | hmem
  · simp only [resultOf, hcode, if_true]
  · obtain ⟨failure, rfl⟩ := Option.isSome_iff_exists.1 (hreads.isSome_iff.2 hmem)
    rfl

lemma resultOf_of_not_harmless (type : ResponseType) (hreads : OfReads failure? reads)
    (h : ¬(exchange.code = .completed ∨ none ∈ reads))
    (hcovers : ∃ offer ∈ offers, Covers policy offer) :
    ∃ address range,
      (resultOf exchange type words (failure? <|> refusal? policy offers)).rejection
        = some (.leaf (.blockedAddress address range)) := by
  obtain ⟨hcode, hmem⟩ := not_or.1 h
  obtain rfl : failure? = none := by
    rw [← Option.not_isSome_iff_eq_none, hreads.isSome_iff]
    exact hmem
  obtain ⟨failure, hfailure⟩ := Option.isSome_iff_exists.1 (isSome_refusal?.2 hcovers)
  obtain ⟨address, range, rfl⟩ := rejection_of_refusal? hfailure
  refine ⟨address, range, ?_⟩
  simp [resultOf, hcode, hfailure]

/-- What is left of the candidates if no refusal counts. -/
lemma OfReads.unrefused {type : ResponseType} (hreads : OfReads failure? reads)
    (h : ¬((∃ offer ∈ offers, Covers policy offer)
      ∧ ¬(exchange.code = .completed ∨ none ∈ reads))) :
    (resultOf exchange type words (failure? <|> refusal? policy offers)).Unrefused := by
  have heq : resultOf exchange type words (failure? <|> refusal? policy offers)
      = resultOf exchange type words failure? := by
    rcases not_and_or.1 h with hcovers | hharmless
    · rw [refusal?_eq_none hcovers, orElse_none]
    · exact resultOf_of_harmless type _ hreads (not_not.1 hharmless)
  rw [heq]
  intro failure hfailure
  simp only [resultOf] at hfailure
  split at hfailure
  · cases hfailure
  · exact hreads.read failure hfailure

end Transfer

open Transfer

namespace Definition

variable {d : Definition} {t : Transport} {sources : Sources} {method : Method}
  {exchange : Exchange} {policy : Policy} {offers : List SocketOffer}
  {failure? : Option Failure} {reads : List (Option Bytes)}

/-- The caller is told of a refused address if there was one and nothing else decides. -/
lemma told?_performed_iff (d : Definition) (method : Method)
    (hreads : OfReads failure? reads) :
    (d.outcome method (resultOf exchange d.options.responseType (wordsOf exchange)
        (failure? <|> refusal? policy offers))).told? = some .refusedAddress
      ↔ (∃ offer ∈ offers, Covers policy offer)
        ∧ ¬(exchange.code = .completed ∨ none ∈ reads) := by
  constructor
  · intro htold
    by_contra hnot
    exact (told?_of_unrefused (hreads.unrefused hnot) htold).1 rfl
  · rintro ⟨hcovers, hharmless⟩
    obtain ⟨address, range, hrejection⟩ :=
      resultOf_of_not_harmless d.options.responseType hreads hharmless hcovers
    exact told?_of_refusedAddress hrejection

lemma told?_performed_ne (d : Definition) (method : Method)
    (hreads : OfReads failure? reads) :
    (d.outcome method (resultOf exchange d.options.responseType (wordsOf exchange)
        (failure? <|> refusal? policy offers))).told? ≠ some .refusedHost := by
  intro htold
  by_cases hrefused : (∃ offer ∈ offers, Covers policy offer)
      ∧ ¬(exchange.code = .completed ∨ none ∈ reads)
  · rw [(told?_performed_iff d method hreads).2 hrefused] at htold
    exact absurd htold (by decide)
  · exact (told?_of_unrefused (hreads.unrefused hrefused) htold).2 rfl

/-- The caller is told of the body, if a read of it failed and the transfer did. -/
lemma told?_of_bodyFailure? (d : Definition) (method : Method) (reason : Bytes)
    (refusal? : Option Failure) (hcode : exchange.code ≠ .completed) :
    (d.outcome method (resultOf exchange d.options.responseType (wordsOf exchange)
        (some (readFailure reason) <|> refusal?))).told?
      = some ⟨.unspecific, reason.untilNul⟩ := by
  have hrejection : (resultOf exchange d.options.responseType (wordsOf exchange)
      (some (readFailure reason) <|> refusal?)).rejection = some (readFailure reason) := by
    simp [resultOf, hcode]
  rw [told?_outcome, failure?_of_rejection hrejection]
  exact congrArg some (Result.classify_readFailure hrejection method d.url)

/-- The failure of the body of a send that asks for it in pieces of the given sizes. -/
def bodyFailure? (d : Definition) (method : Method) (sources : Sources) (sizes : List Nat) :
    Option Failure :=
  match d.opened method sources with
  | .ok (body, opened) => (serveReads body opened sizes).2.1
  | .error _ => none

lemma ofReads_bodyFailure? {body : Handle.Body} {opened : Sources} {wire : Wire}
    (hopened : d.opened method sources = .ok (body, opened))
    (hreads : wire.reads = (serveReads body opened exchange.reads).1) :
    OfReads (d.bodyFailure? method sources exchange.reads) wire.reads := by
  rw [hreads, bodyFailure?, hopened]
  exact ofReads_serveReads body opened exchange.reads

/-- The ways in which a send can go.  All but the sockets and the result of a transfer is without
regard to the candidates. -/
inductive Course (d : Definition) (t : Transport) (sources : Sources) (method : Method)
    (exchange : Exchange) : Prop
  | unrewound {reason} (definition : Definition)
      (hopened : d.opened method sources = .error reason)
      (h : d.send t sources method exchange = ⟨.unrewound reason, [], definition, sources⟩)
  | refused (host pattern : Bytes) {opened} (definition : Definition) (after : Sources)
      (hopened : d.opened method sources = .ok opened) (hhost : CoversHost t.policy d.url)
      (h : d.send t sources method exchange
        = ⟨.performed (blockedResult (.leaf (.blockedHost host pattern))) none, [], definition,
            after⟩)
  | performed {body opened wire} (definition : Definition) (after : Sources)
      (hopened : d.opened method sources = .ok (body, opened))
      (hhost : ¬CoversHost t.policy d.url)
      (hreads : wire.reads = (serveReads body opened exchange.reads).1)
      (h : ∀ sockets, d.send t sources method { exchange with sockets }
        = ⟨.performed (resultOf exchange d.options.responseType (wordsOf exchange)
              (d.bodyFailure? method sources exchange.reads <|> refusal? t.policy sockets))
            (some wire), permitted t.policy sockets, definition, after⟩)

lemma send_course (hpool : ∀ h ∈ d.pool.idle, h.Serves d)
    (howner : (d.handleFor t).1.owner = t) (sources : Sources) (method : Method)
    (exchange : Exchange) : d.Course t sources method exchange := by
  have hsend := send_eq hpool t sources method
  cases hopened : d.opened method sources with
  | error reason =>
    simp only [hopened] at hsend
    exact .unrewound _ hopened (hsend exchange)
  | ok opened =>
    obtain ⟨body, rewound⟩ := opened
    simp only [hopened] at hsend
    -- The host is looked up in the policy of `t`, the candidates in that of the handle's owner.
    let handle := (d.prepare method (d.handleFor t).1).withBody body
    have hurl : handle.url = d.url := (handleFor_serves hpool t).url
    have hpolicy : handle.owner.policy = t.policy := congrArg Transport.policy howner
    have hhost : (blockedHost? t.policy handle.url).isSome = true ↔ CoversHost t.policy d.url := by
      rw [hurl]
      exact isSome_blockedHost?
    cases hblocked : blockedHost? t.policy handle.url with
    | some rejection =>
      rw [hblocked] at hhost
      obtain ⟨host, pattern, rfl⟩ := rejection_of_blockedHost? hblocked
      refine .refused host pattern { d with pool := (d.handleFor t).2.giveBack (some handle) }
        rewound hopened (hhost.1 rfl) ?_
      rw [hsend exchange]
      simp only [handle, Transport.perform_of_blocked hblocked]
    | none =>
      rw [hblocked] at hhost
      obtain ⟨sent, used, after, hreads, hperform⟩ :=
        exists_perform hblocked rewound d.options.responseType exchange
      refine .performed { d with pool := (d.handleFor t).2.giveBack (some used) } after hopened
        (by simpa using hhost) hreads ?_
      intro sockets
      have hbody : d.bodyFailure? method sources exchange.reads
          = (serveReads handle.body rewound exchange.reads).2.1 := by
        simp only [bodyFailure?, hopened]
        rfl
      rw [hsend, hperform, hpolicy, hbody]

end Definition

end MeteredHttp
