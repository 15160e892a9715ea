import MeteredHttp.Proofs.Transfer.Performing

/-!
# Handles that are used again

A handle goes from one transfer to the next and takes with it what it remembers: header lines, the
options of the engine, a rejection, the words of the engine.  None of this shows.

* `Handle.Use` is what can happen to a handle: a setting gets a value, or there is a transfer.
  `Handle.latest` are the uses of a history that gave every setting its latest value.
* `Handle.Agree` compares two handles in one setting.  By `Handle.agree_after_latest` the latest
  values are all that is left of a history in the settings.
* `Transport.perform_congr` says that transfers of handles with the same settings are the same.
* **`Transport.reused_as_fresh`** concludes that a handle with a history behaves like a new one with
  the latest values.
-/

namespace MeteredHttp

open Transfer

namespace Handle

/-! ## Uses -/

/-- What can be set of a handle. -/
inductive Setting where
  | url
  | host
  | fields
  | keepAlive
  | method
  | body
  deriving DecidableEq

/-- What can happen to a handle. -/
inductive Use where
  | url (url : Bytes)
  | host (host : Bytes)
  | fields (fields : List (Bytes × Bytes))
  | keepAlive (keepAlive : Bool)
  | method (method : Method)
  | noBody
  | bytes (content : Bytes)
  /-- The body is read from a source; without one there is no body. -/
  | source (source : Option Nat)
  /-- A transfer by any transport, with the sources as they are then. -/
  | transfer (t : Transport) (sources : Sources) (type : ResponseType) (exchange : Exchange)

/-- The setting that a use gives a value to. -/
def Use.setting? : Use → Option Setting
  | .url _ => some .url
  | .host _ => some .host
  | .fields _ => some .fields
  | .keepAlive _ => some .keepAlive
  | .method _ => some .method
  | .noBody | .bytes _ | .source _ => some .body
  | .transfer .. => none

def use (h : Handle) : Use → Handle
  | .url url => h.withUrl url
  | .host host => h.withHost host
  | .fields fields => h.withFields fields
  | .keepAlive keepAlive => h.withKeepAlive keepAlive
  | .method method => h.withMethod method
  | .noBody => h.withBody .none
  | .bytes content => h.withBody (.bytes content)
  | .source source => h.withBody (source.elim .none .stream)
  | .transfer t sources type exchange => (t.perform h sources type exchange).handle

/-- A handle after a history of uses. -/
def after (h : Handle) (history : List Use) : Handle := history.foldl use h

/-- The uses of a history that gave a setting the value that no later use has changed. -/
def latest : List Use → List Use
  | [] => []
  | u :: rest =>
    if u.setting? ≠ none ∧ u.setting? ∉ rest.map Use.setting? then u :: latest rest
    else latest rest

variable {h h' : Handle} {u : Use} {s : Setting}

/-! ## Settings -/

/-- Two handles have the same value of a setting. -/
def Agree (h h' : Handle) : Setting → Prop
  | .url => h.url = h'.url
  | .host => h.host = h'.host
  | .fields => h.fields = h'.fields
  | .keepAlive => h.keepAlive = h'.keepAlive
  | .method => h.method = h'.method
  | .body => h.body = h'.body

lemma Agree.refl (h : Handle) (s : Setting) : Agree h h s := by
  cases s <;> rfl

lemma Agree.symm (hs : Agree h h' s) : Agree h' h s := by
  cases s <;> exact Eq.symm hs

lemma Agree.trans {h'' : Handle} (hs : Agree h h' s) (hs' : Agree h' h'' s) : Agree h h'' s := by
  cases s <;> exact Eq.trans hs hs'

lemma agree_used (h : Handle) (sources : Sources) (words : Bytes) (s : Setting) :
    Agree h (h.used sources words) s := by
  rw [used_eq]
  cases s <;> rfl

/-- A transfer changes no setting. -/
lemma agree_perform (h : Handle) (t : Transport) (sources : Sources) (type : ResponseType)
    (exchange : Exchange) (s : Setting) :
    Agree h (t.perform h sources type exchange).handle s := by
  cases hblocked : blockedHost? t.policy h.url with
  | some rejection =>
    rw [Transport.perform_of_blocked hblocked]
    exact .refl h s
  | none =>
    simp only [Transport.perform_of_free hblocked]
    exact agree_used h sources _ s

/-- A use leaves the settings alone to which it gives no value. -/
lemma agree_use (hu : u.setting? ≠ some s) : Agree h (h.use u) s := by
  cases u with
  | transfer t sources type exchange => exact agree_perform h t sources type exchange s
  | _ => cases s <;> simp [Use.setting?] at hu <;> rfl

/-- Handles agree in a setting after both were used in the same way, if they agreed before or have
just got its value. -/
lemma Agree.use (hs : u.setting? = some s ∨ Agree h h' s) : Agree (h.use u) (h'.use u) s := by
  by_cases hu : u.setting? = some s
  · cases u <;> cases hu <;> rfl
  · have hbefore : Agree h h' s := hs.resolve_left hu
    exact ((agree_use hu).symm.trans hbefore).trans (agree_use hu)

lemma Agree.after {history : List Use}
    (hs : some s ∈ history.map Use.setting? ∨ Agree h h' s) :
    Agree (h.after history) (h'.after history) s := by
  induction history generalizing h h' with
  | nil => exact hs.resolve_left (by simp)
  | cons u rest ih =>
    refine ih ?_
    rcases hs with hmem | hbefore
    · rcases List.mem_cons.1 hmem with hu | hrest
      · exact .inr (Agree.use (.inl hu.symm))
      · exact .inl hrest
    · exact .inr (Agree.use (.inr hbefore))

/-- **Of a history the latest values are left.** -/
lemma agree_after_latest (h : Handle) (history : List Use) (s : Setting) :
    Agree (h.after history) (h.after (latest history)) s := by
  induction history generalizing h with
  | nil => exact .refl h s
  | cons u rest ih =>
    rw [latest]
    split
    next => exact ih (h.use u)
    next hlatest =>
      -- Without the use the handle is another one, but in a setting that gets a value later.
      have hwithout : Agree ((h.use u).after rest) (h.after rest) s := by
        refine Agree.after ?_
        by_cases hu : u.setting? = some s
        · left
          simpa [hu] using hlatest
        · exact .inr (agree_use hu).symm
      exact hwithout.trans (ih h)

/-! ## What a handle remembers -/

lemma owner_use (h : Handle) (u : Use) : (h.use u).owner = h.owner := by
  cases u with
  | transfer t sources type exchange =>
    cases hblocked : blockedHost? t.policy h.url with
    | some rejection => simp only [use, Transport.perform_of_blocked hblocked]
    | none => simp only [use, Transport.perform_of_free hblocked, used_owner]
  | _ => rfl

lemma owner_after (h : Handle) (history : List Use) : (h.after history).owner = h.owner := by
  induction history generalizing h with
  | nil => rfl
  | cons u rest ih => exact (ih (h.use u)).trans (h.owner_use u)

/-- The header lines are rebuilt if a setting that they depend on has changed. -/
lemma Current.use (hc : h.Current) (u : Use) : (h.use u).Current := by
  cases u with
  | host host => exact current_withHost h host
  | fields fields => exact current_withFields h fields
  | keepAlive keepAlive => exact hc.withKeepAlive keepAlive
  | transfer t sources type exchange =>
    cases hblocked : blockedHost? t.policy h.url with
    | some rejection => simpa only [Handle.use, Transport.perform_of_blocked hblocked] using hc
    | none =>
      simp only [Handle.use, Transport.perform_of_free hblocked]
      exact hc.used sources _
  | _ => exact hc

lemma Current.after (hc : h.Current) (history : List Use) : (h.after history).Current := by
  induction history generalizing h with
  | nil => exact hc
  | cons u rest ih => exact ih (hc.use u)

lemma current_newHandle (t : Transport) : t.newHandle.Current := by
  rintro ⟨⟩

end Handle

namespace Transport

open Handle

variable {h h' : Handle}

/-! ## Transfers -/

/-- Handles of one transport with the same settings make the same transfer. -/
lemma perform_congr (howner : h.owner = h'.owner) (hs : ∀ s, Agree h h' s) (hc : h.Current)
    (hc' : h'.Current) (t : Transport) (sources : Sources) (type : ResponseType)
    (exchange : Exchange) :
    let p := t.perform h sources type exchange
    let p' := t.perform h' sources type exchange
    p.wire = p'.wire ∧ p.result = p'.result ∧ p.sources = p'.sources := by
  have hurl : h.url = h'.url := hs .url
  have hbody : h.body = h'.body := hs .body
  cases hblocked : blockedHost? t.policy h.url with
  | some rejection =>
    rw [perform_of_blocked hblocked, perform_of_blocked (hurl ▸ hblocked)]
    exact ⟨rfl, rfl, rfl⟩
  | none =>
    have hlines : h.refresh.lines = h'.refresh.lines := by
      have hhost : h.host = h'.host := hs .host
      have hfields : h.fields = h'.fields := hs .fields
      have hkeep : h.keepAlive = h'.keepAlive := hs .keepAlive
      rw [hc.refresh_lines, hc'.refresh_lines, wantedLines, wantedLines, hhost, hfields, hkeep]
    have hrequest : ∀ reads, h.request sources reads = h'.request sources reads := by
      intro reads
      have hmethod : h.method = h'.method := hs .method
      have hkeep : h.keepAlive = h'.keepAlive := hs .keepAlive
      simp only [Handle.request, hurl, hmethod, hbody, hkeep, hlines]
    rw [perform_of_free hblocked, perform_of_free (hurl ▸ hblocked)]
    simp only [hbody, howner, hrequest, and_self]

/-- **A handle keeps nothing from earlier use.**  A new handle of a transport is used in any way:
settings get values, and transfers by any transport succeed, fail, are cut short by the source of
the body, have addresses refused, or are stopped before the engine is told anything.  Then its next
transfer sends the same request, has the same result and takes the same from the sources as that of
a new handle whose settings got the latest values. -/
theorem reused_as_fresh (owner t : Transport) (history : List Use) (sources : Sources)
    (type : ResponseType) (exchange : Exchange) :
    let reused := t.perform (owner.newHandle.after history) sources type exchange
    let fresh := t.perform (owner.newHandle.after (latest history)) sources type exchange
    reused.wire = fresh.wire ∧ reused.result = fresh.result ∧ reused.sources = fresh.sources := by
  have howner : (owner.newHandle.after history).owner
      = (owner.newHandle.after (latest history)).owner := by
    rw [owner_after, owner_after]
  exact perform_congr howner (agree_after_latest owner.newHandle history)
    ((current_newHandle owner).after history) ((current_newHandle owner).after (latest history))
    t sources type exchange

end Transport

end MeteredHttp
