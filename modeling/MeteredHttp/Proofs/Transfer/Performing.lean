import MeteredHttp.Transfer.Perform
import Mathlib.Tactic.Lemma

/-!
# What a transfer comes to

The engine remembers what it was told, and a handle remembers its header lines, a rejection and the
words of the engine.  A transfer begins with all of this set anew, so that in the end none of it
matters.

* `Transfer.verb_tellMethod` and `Transfer.body_tellMethod` say what the engine sends after it was
  told about a method and a body, whatever it had been told before.
* `Handle.request` is the request that the settings of a handle describe, and `Transfer.wire_begin`
  says that it is the one that is sent.
* **`Transport.perform_of_free`** is a transfer in closed form.
-/

namespace MeteredHttp

namespace Transfer

variable {method : Method} {body : Handle.Body} {sources : Sources} {o : EngineOptions}

/-! ## What the engine sends -/

/-- The body of a request with a method. -/
def methodBody (method : Method) (body : Handle.Body) (sources : Sources) : WireBody :=
  if method.isBodiless then .none
  else
    match body with
    | .none => .bytes []
    | .bytes content => .bytes content
    | .stream i => .stream (wireLength (sources[i]?.bind BodySource.size))

@[simp] lemma url_tellBody : (tellBody body sources o).url = o.url := by
  cases body <;> rfl

@[simp] lemma url_tellMethod : (tellMethod method body sources o).url = o.url := by
  cases method <;> simp [tellMethod, EngineOptions.withNoBody, EngineOptions.withCustomVerb]

@[simp] lemma forbidReuse_tellBody : (tellBody body sources o).forbidReuse = o.forbidReuse := by
  cases body <;> rfl

@[simp] lemma forbidReuse_tellMethod :
    (tellMethod method body sources o).forbidReuse = o.forbidReuse := by
  cases method <;> simp [tellMethod, EngineOptions.withNoBody, EngineOptions.withCustomVerb]

/-- A verb of its own that an earlier request had is gone, as is its being a head. -/
lemma verb_tellMethod (method : Method) (body : Handle.Body) (sources : Sources)
    (o : EngineOptions) : (tellMethod method body sources o.plain).verb = method.wireName := by
  cases method with
  | get => rfl
  | head => rfl
  | _ => cases body <;> rfl

/-- Bytes are sent in full, as the length is theirs. -/
lemma body_tellBody (hkind : o.noBody = false) (hcontent : o.content = none) :
    (tellBody body sources o).body = methodBody .post body sources := by
  cases body with
  | none => simp [tellBody, EngineOptions.body, EngineOptions.withLength,
      EngineOptions.withContent, methodBody, Method.isBodiless, hkind]
  | bytes content => simp [tellBody, EngineOptions.body, EngineOptions.withLength,
      EngineOptions.withContent, methodBody, Method.isBodiless, hkind, Int.not_lt.2]
  | stream i => simp [tellBody, EngineOptions.body, EngineOptions.withLength,
      EngineOptions.asPost, methodBody, Method.isBodiless, hcontent]

lemma body_tellMethod (method : Method) (body : Handle.Body) (sources : Sources)
    (o : EngineOptions) :
    (tellMethod method body sources o.plain).body = methodBody method body sources := by
  have hbody : (tellBody body sources o.plain).body = methodBody .post body sources :=
    body_tellBody rfl rfl
  cases method with
  | get => rfl
  | head => rfl
  | _ => exact hbody

end Transfer

open Transfer

/-! ## Handles -/

namespace Handle

variable {h : Handle} {sources : Sources}

/-- Nothing but the header lines is brought up to date. -/
lemma refresh_eq (h : Handle) :
    h.refresh = { h with lines := h.refresh.lines, stale := false } := by
  cases hstale : h.stale with
  | true => simp [refresh, hstale]
  | false =>
    have hrefresh : h.refresh = h := by simp [refresh, hstale]
    rw [hrefresh, ← hstale]

/-- The header lines are those that the settings call for, unless they are known not to be. -/
def Current (h : Handle) : Prop := h.stale = false → h.lines = h.wantedLines

lemma Current.refresh_lines (hc : h.Current) : h.refresh.lines = h.wantedLines := by
  cases hstale : h.stale with
  | true => simp [refresh, hstale]
  | false => simpa [refresh, hstale] using hc hstale

lemma current_withHost (h : Handle) (host : Bytes) : (h.withHost host).Current := by
  rintro ⟨⟩

lemma current_withFields (h : Handle) (fields : List (Bytes × Bytes)) :
    (h.withFields fields).Current := by
  rintro ⟨⟩

/-- If the connection is to be kept as before the lines do not change. -/
lemma Current.withKeepAlive (hc : h.Current) (keepAlive : Bool) :
    (h.withKeepAlive keepAlive).Current := by
  intro hstale
  simp only [Handle.withKeepAlive, Bool.or_eq_false_iff] at hstale
  obtain ⟨hstale, hkeep⟩ := hstale
  have hkeep : keepAlive = h.keepAlive := bne_eq_false_iff_eq.1 hkeep
  simpa [Handle.withKeepAlive, wantedLines, hkeep] using hc hstale

/-- The request that the settings of a handle describe. -/
def request (h : Handle) (sources : Sources) (reads : List (Option Bytes)) : Wire where
  url := h.url.untilNul
  verb := h.method.wireName
  headers := h.refresh.lines
  body := methodBody h.method h.body sources
  forbidReuse := !h.keepAlive
  reads := reads

/-- A handle after a transfer. -/
def used (h : Handle) (sources : Sources) (words : Bytes) : Handle :=
  { h.begin sources with words }

/-- A transfer changes what a handle remembers, and nothing else. -/
lemma used_eq (h : Handle) (sources : Sources) (words : Bytes) :
    h.used sources words
      = { h with
          lines := h.refresh.lines
          stale := false
          options := (h.begin sources).options
          rejection := none
          words } := by
  simp only [used, begin, apply]
  rw [refresh_eq]

@[simp] lemma begin_owner (h : Handle) (sources : Sources) : (h.begin sources).owner = h.owner := by
  show h.refresh.owner = h.owner
  rw [h.refresh_eq]

lemma used_owner (h : Handle) (sources : Sources) (words : Bytes) :
    (h.used sources words).owner = h.owner :=
  h.begin_owner sources

lemma Current.used (hc : h.Current) (sources : Sources) (words : Bytes) :
    (h.used sources words).Current := by
  rw [used_eq, hc.refresh_lines]
  intro _
  rfl

end Handle

namespace Transfer

/-- What the engine says about what went wrong. -/
def wordsOf (exchange : Exchange) : Bytes := Bytes.untilNul (exchange.error.take errorRoom)

lemma wire_begin (h : Handle) (sources : Sources) (reads : List (Option Bytes)) :
    wire (h.begin sources) reads = h.request sources reads := by
  have hmethod : h.refresh.method = h.method := by rw [h.refresh_eq]
  have hbody : h.refresh.body = h.body := by rw [h.refresh_eq]
  have hkeep : h.refresh.keepAlive = h.keepAlive := by rw [h.refresh_eq]
  have hurl : h.refresh.url = h.url := by rw [h.refresh_eq]
  simp only [wire, Handle.request, Handle.begin, Handle.apply, verb_tellMethod, body_tellMethod,
    url_tellMethod, forbidReuse_tellMethod, hmethod, hbody]
  rw [← hurl, ← hkeep]
  rfl

lemma words_endure (h : Handle) (sources : Sources) (exchange : Exchange)
    (failure? : Option Failure) :
    ((h.begin sources).endure exchange failure?).words = wordsOf exchange := by
  simp only [Handle.endure, Handle.begin, wordsOf]
  split
  next herror => simp [herror, Bytes.untilNul]
  next => rfl

lemma rejection_endure (h : Handle) (sources : Sources) (exchange : Exchange)
    (failure? : Option Failure) :
    ((h.begin sources).endure exchange failure?).rejection
      = (failure? <|> refusal? h.owner.policy exchange.sockets) := by
  have hnone : (h.begin sources).rejection = none := rfl
  simp [Handle.endure, hnone]

end Transfer

namespace Transport

variable {t : Transport} {h : Handle}

lemma perform_of_blocked {rejection : Failure}
    (hblocked : blockedHost? t.policy h.url = some rejection) (sources : Sources)
    (type : ResponseType) (exchange : Exchange) :
    t.perform h sources type exchange = ⟨blockedResult rejection, none, [], h, sources⟩ := by
  simp only [perform, hblocked]

/-- **A transfer depends on the settings of its handle**, unless the host is refused.  What is left
of earlier transfers occurs neither in the request nor in the result. -/
lemma perform_of_free (hfree : blockedHost? t.policy h.url = none) (sources : Sources)
    (type : ResponseType) (exchange : Exchange) :
    t.perform h sources type exchange
      = let served := serveReads h.body sources exchange.reads
        ⟨resultOf exchange type (wordsOf exchange)
            (served.2.1 <|> refusal? h.owner.policy exchange.sockets),
          some (h.request sources served.1), permitted h.owner.policy exchange.sockets,
          h.used sources (wordsOf exchange), served.2.2⟩ := by
  have hbody : (h.begin sources).body = h.body := by
    show h.refresh.body = h.body
    rw [h.refresh_eq]
  simp only [perform, hfree, hbody, Handle.begin_owner, words_endure, rejection_endure,
    wire_begin]
  rfl

end Transport

end MeteredHttp
