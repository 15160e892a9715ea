import MeteredHttp.Proofs.Failure.Codes
import MeteredHttp.Proofs.Transfer.Performing
import MeteredHttp.Transfer.Diagnosis

/-!
# Failures on our own side

A transfer can fail because the network or the peer fails, and then its code says why, or because
we refuse to take part in it.

* `Transfer.Rejection` are the failures that are raised on our own side, and `Result.Genuine` says
  what is known of the results of transfers with regard to them (`perform_genuine`).
* `Result.classify_blockedAddress` and `Result.classify_blockedHost` say what a refusal is reported
  as, `Result.Unrefused.classify_not_mem` that nothing else is reported as one.
-/

namespace MeteredHttp.Transfer

/-- A failure that is raised on our own side. -/
inductive Rejection : Failure → Prop
  | host (name pattern : Bytes) : Rejection (.leaf (.blockedHost name pattern))
  | address (address range : Bytes) : Rejection (.leaf (.blockedAddress address range))
  | body (reason : Bytes) : Rejection (readFailure reason)

/-- The result of a transfer that was really performed. -/
structure Result.Genuine (r : Result) : Prop where
  rejection : ∀ failure, r.rejection = some failure → Rejection failure
  failed : r.rejection.isSome = true → r.failed = true

/-! ## Raising them -/

lemma rejection_of_blockedHost? {policy : Policy} {url : Bytes} {failure : Failure}
    (h : blockedHost? policy url = some failure) :
    ∃ host pattern, failure = .leaf (.blockedHost host pattern) := by
  simp only [blockedHost?, Option.bind_eq_some_iff, Option.map_eq_some_iff] at h
  obtain ⟨host, -, pattern, -, rfl⟩ := h
  exact ⟨host, pattern.text, rfl⟩

lemma rejection_of_refuse? {policy : Policy} {offer : SocketOffer} {failure : Failure}
    (h : refuse? policy offer = some failure) :
    ∃ address range, failure = .leaf (.blockedAddress address range) := by
  cases offer with
  | peer address =>
    simp only [refuse?, Option.map_eq_some_iff] at h
    obtain ⟨network, -, rfl⟩ := h
    exact ⟨_, _, rfl⟩
  | other address => cases h

lemma rejection_of_refusal? {policy : Policy} {offers : List SocketOffer} {failure : Failure}
    (h : refusal? policy offers = some failure) :
    ∃ address range, failure = .leaf (.blockedAddress address range) := by
  obtain ⟨offer, -, hoffer⟩ := List.mem_filterMap.1 (List.mem_of_getLast? h)
  exact rejection_of_refuse? hoffer

/-- The failure of a delivery is that of a read, and there is one exactly if a read failed. -/
lemma deliver_failure (source : BodySource) (sizes : List Nat) :
    (∀ failure, (deliver source sizes).failure = some failure →
        ∃ reason, failure = readFailure reason)
      ∧ ((deliver source sizes).failure.isSome = true ↔ none ∈ (deliver source sizes).reads) := by
  induction sizes generalizing source with
  | nil => simp [deliver]
  | cons size rest ih =>
    simp only [deliver]
    split
    next bytes after _ => simpa using ih after
    next reason after _ =>
      obtain ⟨hfailure, -⟩ := ih after
      refine ⟨?_, by simp⟩
      intro failure h
      cases hrest : (deliver after rest).failure with
      | some inner =>
        obtain rfl : inner = failure := by simpa [hrest] using h
        exact hfailure inner hrest
      | none =>
        obtain rfl : readFailure reason = failure := by simpa [hrest] using h
        exact ⟨reason, rfl⟩

lemma serveReads_failure (body : Handle.Body) (sources : Sources) (sizes : List Nat) :
    (∀ failure, (serveReads body sources sizes).2.1 = some failure →
        ∃ reason, failure = readFailure reason)
      ∧ ((serveReads body sources sizes).2.1.isSome = true
        ↔ none ∈ (serveReads body sources sizes).1) := by
  cases body with
  | none => simp [serveReads]
  | bytes content => simp [serveReads]
  | stream i =>
    simp only [serveReads]
    split
    next source _ => exact deliver_failure source sizes
    next => simp

lemma perform_genuine (t : Transport) (h : Handle) (sources : Sources) (type : ResponseType)
    (exchange : Exchange) : (t.perform h sources type exchange).result.Genuine := by
  cases hblocked : blockedHost? t.policy h.url with
  | some rejection =>
    rw [Transport.perform_of_blocked hblocked]
    refine ⟨?_, by simp [blockedResult, Result.failed, Code.hostUnresolved, Code.completed]⟩
    rintro failure ⟨⟩
    obtain ⟨host, pattern, rfl⟩ := rejection_of_blockedHost? hblocked
    exact .host host pattern
  | none =>
    rw [Transport.perform_of_free hblocked]
    by_cases hcode : exchange.code = .completed
    · exact ⟨by simp [resultOf, hcode], by simp [resultOf, hcode]⟩
    · refine ⟨?_, by simp [resultOf, Result.failed, hcode]⟩
      intro failure hfailure
      have hsource : (serveReads h.body sources exchange.reads).2.1 = some failure
          ∨ (serveReads h.body sources exchange.reads).2.1 = none
            ∧ refusal? h.owner.policy exchange.sockets = some failure := by
        simpa [resultOf, hcode] using hfailure
      rcases hsource with hread | ⟨-, hrefused⟩
      · obtain ⟨reason, rfl⟩ := (serveReads_failure _ _ _).1 failure hread
        exact .body reason
      · obtain ⟨address, range, rfl⟩ := rejection_of_refusal? hrefused
        exact .address address range

/-! ## Reporting them -/

namespace Result

/-- A refused address is reported as such, whatever else is known. -/
lemma classify_blockedAddress {r : Result} {address range : Bytes}
    (h : r.rejection = some (.leaf (.blockedAddress address range))) (method : Method)
    (url : Bytes) :
    (r.failure method url).classify = ⟨.blockedAddress, utf8 "ip is blacklisted"⟩ := by
  rw [failure, h]
  rfl

lemma classify_blockedHost {r : Result} {host pattern : Bytes}
    (h : r.rejection = some (.leaf (.blockedHost host pattern))) (method : Method)
    (url : Bytes) :
    (r.failure method url).classify = ⟨.blockedHost, utf8 "hostname is blocked"⟩ := by
  rw [failure, h]
  rfl

/-- A body that could not be read is reported by the reason. -/
lemma classify_readFailure {r : Result} {reason : Bytes}
    (h : r.rejection = some (readFailure reason)) (method : Method) (url : Bytes) :
    (r.failure method url).classify = ⟨.unspecific, reason.untilNul⟩ := by
  rw [failure, h]
  simp [rejectionFailure, readFailure, Failure.classify, Failure.classifyOuter, Failure.node,
    Failure.unspecific, Failure.text, Failure.Node.text, Failure.joinTexts]

/-- The codes that follow from the code of a transfer alone. -/
def statedCodes : List ErrorCode := [.requestTimeout, .dialTimeout, .decompression, .invalidUrl]

/-- A link that can stand in what the code of a transfer stands for. -/
def Describes : Failure.Node → Prop
  | .classified code _ => code ∈ statedCodes
  | .blockedAddress _ _ | .blockedHost _ _ => False
  | _ => True

/-- A failure all of whose links can. -/
def Described (failure : Failure) : Prop := ∀ node ∈ failure.nodes, Describes node

@[simp] lemma described_leaf (node : Failure.Node) : Described (.leaf node) ↔ Describes node := by
  simp [Described, Failure.nodes]

@[simp] lemma described_because (node : Failure.Node) (cause : Failure) :
    Described (.because node cause) ↔ Describes node ∧ Described cause := by
  simp [Described, Failure.nodes]

lemma connectFailure_described (r : Result) : Described r.connectFailure := by
  simp only [connectFailure, networkFailure, described_because, described_leaf]
  split <;> simp [Describes]

lemma socketFailure_described (r : Result) (operation : String) :
    Described (r.socketFailure operation) := by
  simp only [socketFailure, networkFailure, described_because, described_leaf]
  split
  · simp [Describes]
  · split <;> simp [Describes]

lemma certificateFailure_described (r : Result) : Described r.certificateFailure := by
  simp only [certificateFailure, described_leaf]
  split
  · simp [Describes]
  · split <;> simp [Describes]

lemma handshakeFailure_described (r : Result) : Described r.handshakeFailure := by
  simp only [handshakeFailure]
  split
  · simp [Describes]
  · exact r.certificateFailure_described

lemma timeoutFailure_described (r : Result) : Described r.timeoutFailure := by
  simp only [timeoutFailure, described_leaf]
  split <;> simp [Describes, statedCodes]

lemma http2Failure_described (r : Result) : Described r.http2Failure := by
  simp only [http2Failure, described_leaf]
  split <;> simp [Describes]

lemma codeFailure_described (r : Result) : Described r.codeFailure := by
  simp only [codeFailure]
  split
  · simp [lookupFailure, Describes]
  · simp [Describes]
  · exact r.connectFailure_described
  · exact r.timeoutFailure_described
  · exact r.socketFailure_described "write"
  · exact r.socketFailure_described "read"
  · exact r.certificateFailure_described
  · exact r.handshakeFailure_described
  · exact r.http2Failure_described
  · simp [streamFailure, Describes]
  · simp [Describes, statedCodes]
  · simp [Describes, statedCodes]
  · simp [Describes, statedCodes]
  · simp [Describes]

def Unrefused (r : Result) : Prop :=
  ∀ failure, r.rejection = some failure → ∃ reason, failure = readFailure reason

lemma failure_described {r : Result} (h : r.Unrefused) (method : Method) (url : Bytes) :
    Described (r.failure method url) := by
  simp only [failure, described_because]
  refine ⟨trivial, ?_⟩
  split
  next rejection hrejection =>
    obtain ⟨reason, rfl⟩ := h rejection hrejection
    simp [rejectionFailure, readFailure, Failure.node, Describes]
  next => exact r.codeFailure_described

/-- Nothing but a refusal is reported as one. -/
lemma Unrefused.classify_not_mem {r : Result} (h : r.Unrefused) (method : Method) (url : Bytes) :
    (r.failure method url).classify.code ∉ Failure.refusalCodes := by
  intro hcode
  obtain ⟨node, hnode, hyields⟩ := (r.failure method url).exists_yields_classify
  have hdescribes := failure_described h method url node hnode
  rcases hyields.of_refusalCodes hcode with ⟨_, _, rfl⟩ | ⟨_, _, rfl⟩ | ⟨message, rfl⟩
  · exact hdescribes
  · exact hdescribes
  · have hstated : ∀ code ∈ statedCodes, code ∉ Failure.refusalCodes := by decide
    exact hstated _ hdescribes hcode

lemma Genuine.classified_mem {r : Result} (h : r.Genuine) {method : Method} {url : Bytes}
    {code : ErrorCode} {message : Bytes}
    (hmem : .classified code message ∈ (r.failure method url).nodes) :
    code ∈ statedCodes := by
  cases hrejection : r.rejection with
  | none => exact failure_described (by simp [Unrefused, hrejection]) method url _ hmem
  | some rejection =>
    cases h.rejection rejection hrejection with
    | host name pattern =>
      simp [failure, hrejection, rejectionFailure, networkFailure, Failure.node,
        Failure.nodes] at hmem
    | address address range =>
      simp [failure, hrejection, rejectionFailure, networkFailure, Failure.node,
        Failure.nodes] at hmem
    | body reason =>
      refine failure_described ?_ method url _ hmem
      intro failure hfailure
      rw [hrejection] at hfailure
      exact ⟨reason, (Option.some.inj hfailure).symm⟩

end Result

end MeteredHttp.Transfer
