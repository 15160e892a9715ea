import MeteredHttp.Definition
import MeteredHttp.Proofs.Delivery
import MeteredHttp.Proofs.Transfer.Performing

/-!
# Handles that serve a definition

A handle is prepared once and then only brought up to date: its URL, its host and its header fields
are those of its first use, its header lines are kept while the settings are, and its body stays if
it seems to be the right one.

* `Handle.Serves` is what makes this sound.  It holds of a new handle (`serves_address`) and of a
  handle in every state in which `Definition.send` leaves it (`exists_send_definition`).
* `Definition.loadBody_eq` says that what a handle held before does not matter for its body.
-/

namespace MeteredHttp

open Transfer BodySource

/-! ## Serving -/

namespace Handle

/-- A handle that was made for a definition, whatever it has carried since. -/
structure Serves (h : Handle) (d : Definition) : Prop where
  url : h.url = d.url
  host : h.host = d.options.host
  fields : h.fields = d.options.headers
  current : h.Current
  /-- The only bytes that it can hold are those of the definition. -/
  bytes : ∀ content, h.body = .bytes content → d.payload = .bytes content

variable {h : Handle} {d : Definition}

lemma serves_address (d : Definition) (t : Transport) : (d.address t.newHandle).Serves d := by
  by_cases hhost : d.options.host = []
  · refine ⟨?_, ?_, ?_, current_withFields _ _, ?_⟩ <;>
      simp [Definition.address, hhost, Transport.newHandle, withUrl, withFields]
  · refine ⟨?_, ?_, ?_, current_withFields _ _, ?_⟩ <;>
      simp [Definition.address, hhost, Transport.newHandle, withUrl, withFields, withHost]

/-- The header lines do not depend on the method, and if the connection is to be kept as before
they do not change. -/
lemma Serves.prepare (hs : h.Serves d) (method : Method) : (d.prepare method h).Serves d where
  url := hs.url
  host := hs.host
  fields := hs.fields
  current := hs.current.withKeepAlive _
  bytes := hs.bytes

lemma Serves.withBody (hs : h.Serves d) {body : Body}
    (hbody : ∀ content, body = .bytes content → d.payload = .bytes content) :
    (h.withBody body).Serves d where
  url := hs.url
  host := hs.host
  fields := hs.fields
  current := hs.current
  bytes := hbody

/-- The other handles in the pool do not matter. -/
lemma Serves.withPool (hs : h.Serves d) (pool : Pool Handle) : h.Serves { d with pool } :=
  ⟨hs.url, hs.host, hs.fields, hs.current, hs.bytes⟩

/-- What a handle remembers of a transfer does not matter. -/
lemma Serves.used (hs : h.Serves d) (sources : Sources) (words : Bytes) :
    (h.used sources words).Serves d := by
  have hcurrent := hs.current.used sources words
  rw [used_eq] at hcurrent ⊢
  exact ⟨hs.url, hs.host, hs.fields, hcurrent, hs.bytes⟩

end Handle

namespace Definition

variable {d : Definition} {h : Handle} {t : Transport} {sources : Sources} {method : Method}
  {exchange : Exchange}

/-! ## The handle -/

@[simp] lemma address_owner (d : Definition) (h : Handle) : (d.address h).owner = h.owner := by
  simp only [address]
  split <;> rfl

/-- A handle is either one that waits, and belongs to the transport, or a new one. -/
lemma handleFor_fst (d : Definition) (t : Transport) :
    ((d.handleFor t).1 ∈ d.pool.idle ∧ t.owns (d.handleFor t).1 = true)
      ∨ (d.handleFor t).1 = d.address t.newHandle := by
  rcases d with ⟨url, options, payload, ⟨idle⟩⟩
  cases idle with
  | nil => exact .inr rfl
  | cons first rest =>
    cases howns : t.owns first with
    | true => simp [handleFor, Pool.take, howns]
    | false => simp [handleFor, Pool.take, howns, address]

lemma handleFor_snd (d : Definition) (t : Transport) :
    ∀ h ∈ (d.handleFor t).2.idle, h ∈ d.pool.idle := by
  rcases d with ⟨url, options, payload, ⟨idle⟩⟩
  cases idle with
  | nil => simp [handleFor, Pool.take]
  | cons first rest =>
    intro h hmem
    have hrest : h ∈ rest := by
      cases howns : t.owns first with
      | true => simpa [handleFor, Pool.take, howns] using hmem
      | false => simpa [handleFor, Pool.take, howns] using hmem
    exact List.mem_cons_of_mem first hrest

lemma handleFor_serves (hpool : ∀ h ∈ d.pool.idle, h.Serves d) (t : Transport) :
    (d.handleFor t).1.Serves d := by
  rcases d.handleFor_fst t with ⟨hmem, -⟩ | hnew
  · exact hpool _ hmem
  · rw [hnew]
    exact Handle.serves_address d t

/-! ## The body -/

/-- The body for a method, and the sources once the one of the body is rewound. -/
def opened (d : Definition) (method : Method) (sources : Sources) :
    Except Bytes (Handle.Body × Sources) :=
  if method.isBodiless then .ok (.none, sources)
  else
    match d.payload with
    | .none => .ok (.none, sources)
    | .bytes content => .ok (.bytes content, sources)
    | .stream i =>
      match sources[i]? with
      | some source => source.rewind.map fun source => (.stream i, sources.set i source)
      | none => .ok (.none, sources)

/-- Bytes that stay in a handle because they have the right length are the right ones. -/
lemma withBody_of_holdsBytes (hs : h.Serves d) {content : Bytes}
    (hpayload : d.payload = .bytes content) (hholds : holdsBytes h content.length = true) :
    h.withBody (.bytes content) = h := by
  cases hbody : h.body with
  | none => simp [holdsBytes, hbody] at hholds
  | stream i => simp [holdsBytes, hbody] at hholds
  | bytes held =>
    have heq := hs.bytes held hbody
    rw [hpayload] at heq
    obtain rfl := Payload.bytes.inj heq
    rw [Handle.withBody, ← hbody]

/-- What a handle held before does not matter for the body that it gets. -/
lemma loadBody_eq (hs : h.Serves d) (method : Method) (sources : Sources) :
    d.loadBody method h sources
      = (d.opened method sources).map fun (body, sources) => (h.withBody body, sources) := by
  cases hbodiless : method.isBodiless with
  | true =>
    simp only [loadBody, opened, hbodiless, if_true]
    rfl
  | false =>
    cases hpayload : d.payload with
    | none =>
      simp only [loadBody, opened, hbodiless, hpayload, Bool.false_eq_true, if_false]
      rfl
    | bytes content =>
      simp only [loadBody, opened, hbodiless, hpayload, Bool.false_eq_true, if_false]
      split
      next hholds =>
        show _ = Except.ok (h.withBody (.bytes content), sources)
        rw [withBody_of_holdsBytes hs hpayload hholds]
      next => rfl
    | stream i =>
      simp only [loadBody, opened, hbodiless, hpayload, Bool.false_eq_true, if_false]
      cases sources[i]? with
      | none => rfl
      | some source =>
        show Except.map _ source.rewind = Except.map _ (Except.map _ source.rewind)
        cases source.rewind <;> rfl

/-- Only its own bytes are given to a handle, and a source is at most rewound. -/
lemma opened_ok {body : Handle.Body} {after : Sources}
    (hopened : d.opened method sources = .ok (body, after)) :
    (∀ content, body = .bytes content → d.payload = .bytes content)
      ∧ allRewound after = allRewound sources := by
  simp only [opened] at hopened
  split at hopened
  · cases hopened
    exact ⟨by simp, rfl⟩
  · split at hopened
    next =>
      cases hopened
      exact ⟨by simp, rfl⟩
    next content hpayload =>
      cases hopened
      refine ⟨?_, rfl⟩
      rintro _ ⟨⟩
      exact hpayload
    next i hpayload =>
      split at hopened
      next source hsource =>
        cases hrewind : source.rewind with
        | error reason =>
          rw [hrewind] at hopened
          cases hopened
        | ok rewound =>
          rw [hrewind] at hopened
          cases hopened
          refine ⟨by simp, allRewound_set hsource ?_⟩
          rw [rewound_of_rewind hrewind, rewound_rewound]
      next =>
        cases hopened
        exact ⟨by simp, rfl⟩

/-! ## Sending -/

/-- What a send depends on: the handle, as far as it serves the definition, and the body that it is
given. -/
lemma send_eq (hpool : ∀ h ∈ d.pool.idle, h.Serves d) (t : Transport) (sources : Sources)
    (method : Method) (exchange : Exchange) :
    let h := d.prepare method (d.handleFor t).1
    let pool := (d.handleFor t).2
    d.send t sources method exchange
      = match d.opened method sources with
        | .error reason =>
          ⟨.unrewound reason, [], { d with pool := pool.giveBack (some h) }, sources⟩
        | .ok (body, sources) =>
          let p := t.perform (h.withBody body) sources d.options.responseType exchange
          ⟨.performed p.result p.wire, p.sockets,
            { d with pool := pool.giveBack (some p.handle) }, p.sources⟩ := by
  have hs := (handleFor_serves hpool t).prepare method
  simp only [send, loadBody_eq hs]
  cases d.opened method sources with
  | error reason => rfl
  | ok opened => rfl

/-- What a transfer does to its handle, and to the sources. -/
lemma perform_handle {h : Handle} (hs : h.Serves d) (t : Transport) (sources : Sources)
    (type : ResponseType) (exchange : Exchange) :
    let p := t.perform h sources type exchange
    p.handle.Serves d ∧ p.handle.owner = h.owner ∧ allRewound p.sources = allRewound sources := by
  cases hblocked : blockedHost? t.policy h.url with
  | some rejection =>
    rw [Transport.perform_of_blocked hblocked]
    exact ⟨hs, rfl, rfl⟩
  | none =>
    rw [Transport.perform_of_free hblocked]
    exact ⟨hs.used _ _, h.used_owner _ _, allRewound_serveReads _ _ _⟩

/-- What a send leaves behind: the handle that it used waits in the pool and serves the definition
as before, and the sources are what they were. -/
lemma exists_send_definition (hpool : ∀ h ∈ d.pool.idle, h.Serves d) (t : Transport)
    (sources : Sources) (method : Method) (exchange : Exchange) :
    let sent := d.send t sources method exchange
    (∃ h rest, sent.definition = { d with pool := ⟨h :: rest⟩ }
      ∧ h.Serves d ∧ h.owner = (d.handleFor t).1.owner ∧ ∀ h ∈ rest, h ∈ d.pool.idle)
    ∧ allRewound sent.sources = allRewound sources := by
  have hs := (handleFor_serves hpool t).prepare method
  have hrest := d.handleFor_snd t
  intro sent
  have hsent : sent = _ := send_eq hpool t sources method exchange
  cases hopened : d.opened method sources with
  | error reason =>
    rw [hopened] at hsent
    rw [hsent]
    exact ⟨⟨_, _, rfl, hs, rfl, hrest⟩, rfl⟩
  | ok opened =>
    obtain ⟨body, after⟩ := opened
    obtain ⟨hbytes, hafter⟩ := opened_ok hopened
    obtain ⟨hserves, howner, hsources⟩ :=
      perform_handle (hs.withBody hbytes) t after d.options.responseType exchange
    rw [hopened] at hsent
    rw [hsent]
    exact ⟨⟨_, _, rfl, hserves, howner, hrest⟩, hsources.trans hafter⟩

end Definition

end MeteredHttp
