import MeteredHttp.Failure.Classification
import Mathlib.Tactic.Lemma

/-!
# Where the code of a failure comes from

A chain of failures is classified by one of its links.  `Failure.Node.Yields` says which codes a
link can decide on by itself, and `Failure.exists_yields_classify` that the code of a chain is one
of those of some link of it.  What is known of the links of a chain is thus known of its code.
-/

namespace MeteredHttp

/-- The code of a status has 32 bits. -/
lemma ErrorCode.toNat_ofStatus_emod (status : Int) :
    ((ofStatus status).number.toNat : Int) = (1000 + status) % UInt32.size := by
  simp only [ofStatus, UInt32.ofInt, UInt32.toNat_ofNat', UInt32.size]
  omega

/-- The code of an error status does not wrap around. -/
lemma ErrorCode.toNat_ofStatus {status : Int} (hfirst : 400 ≤ status) (hlast : status ≤ 999) :
    ((ofStatus status).number.toNat : Int) = 1000 + status := by
  rw [toNat_ofStatus_emod, UInt32.size]
  omega

namespace Failure

/-- The links of a chain, the outermost first. -/
def nodes : Failure → List Node
  | .leaf node => [node]
  | .because node cause => node :: cause.nodes

/-- The codes of operations on a network that are not taken over from their cause. -/
def networkCodes : List ErrorCode :=
  [.notTcp, .tcp, .brokenPipe, .tcpSystemError, .dial, .dialRefused, .dialSystemError,
    .connectionReset]

/-- A code that a link decides on. -/
def Node.Yields (code : ErrorCode) : Node → Prop
  | .generic _ | .systemCall _ _ | .systemError _ | .url _ _ => code = .unspecific
  | .classified own _ => code = own
  | .lookup _ _ => code = .noSuchHost ∨ code = .lookup
  | .blockedAddress _ _ => code = .blockedAddress
  | .blockedHost _ _ => code = .blockedHost
  | .goAway number _ => code = ⟨ErrorCode.http2GoAway.number + Http2.codeOffset number⟩
  | .stream _ number => code = ⟨ErrorCode.http2Stream.number + Http2.codeOffset number⟩
  | .connection number => code = ⟨ErrorCode.http2Connection.number + Http2.codeOffset number⟩
  | .network _ _ _ => code ∈ networkCodes
  | .unknownAuthority _ => code = .unknownAuthority
  | .certificateHost _ => code = .certificateHost
  | .tlsRecord _ => code = .tlsRecord

/-! ## Operations on a network -/

lemma classifyDial_code (failure : Failure) (cause? : Option Failure)
    (inner? : Option Classification) :
    (classifyDial failure cause? inner?).code ∈ networkCodes
      ∨ inner? = some (classifyDial failure cause? inner?) := by
  simp only [classifyDial]
  split
  · split
    · simp [networkCodes]
    · split <;> simp [networkCodes]
  · split
    · split
      · simp [networkCodes]
      · exact .inr rfl
    · simp [networkCodes]

lemma classifyConnected_code (failure : Failure) (operation : Bytes) (cause? : Option Failure) :
    (classifyConnected failure operation cause?).code ∈ networkCodes := by
  simp only [classifyConnected]
  split <;> simp [networkCodes]

lemma classifyNetwork_code (failure : Failure) (operation net : Bytes) (cause? : Option Failure)
    (inner? : Option Classification) :
    (classifyNetwork failure operation net cause? inner?).code ∈ networkCodes
      ∨ inner? = some (classifyNetwork failure operation net cause? inner?) := by
  simp only [classifyNetwork]
  split
  · simp [networkCodes]
  · split
    · simp [networkCodes]
    · simp [networkCodes]
    · split
      · exact classifyDial_code failure cause? inner?
      · exact .inl (classifyConnected_code failure operation cause?)

/-! ## Chains -/

/-- What the outermost link decides by itself holds of the chain, whatever the cause is. -/
lemma exists_classify_eq (failure : Failure) :
    ∃ inner?, failure.classify = classifyOuter failure inner? := by
  cases failure with
  | leaf node => exact ⟨none, rfl⟩
  | because node cause => exact ⟨some cause.classify, rfl⟩

/-- The outermost link decides, or leaves the decision to its cause. -/
lemma classifyOuter_code (failure : Failure) (inner? : Option Classification) :
    failure.node.Yields (classifyOuter failure inner?).code
      ∨ inner? = some (classifyOuter failure inner?) := by
  cases hnode : failure.node with
  | network operation net address =>
    simp only [classifyOuter, hnode]
    exact classifyNetwork_code _ _ _ _ _
  | lookup host reason =>
    simp only [classifyOuter, hnode]
    split <;> simp [Node.Yields]
  | systemCall name errno =>
    simp only [classifyOuter, hnode]
    split <;> simp [Node.Yields, unspecific]
  | generic message => cases inner? <;> simp [classifyOuter, hnode, Node.Yields, unspecific]
  | systemError errno => cases inner? <;> simp [classifyOuter, hnode, Node.Yields, unspecific]
  | url operation target => cases inner? <;> simp [classifyOuter, hnode, Node.Yields, unspecific]
  | goAway number debug => simp [classifyOuter, hnode, Node.Yields, http2Classification]
  | stream id number => simp [classifyOuter, hnode, Node.Yields, http2Classification]
  | connection number => simp [classifyOuter, hnode, Node.Yields, http2Classification]
  | _ => simp [classifyOuter, hnode, Node.Yields]

/-- **The code of a chain is one that a link of it decides on.** -/
lemma exists_yields_classify (failure : Failure) :
    ∃ node ∈ failure.nodes, node.Yields failure.classify.code := by
  induction failure with
  | leaf node =>
    rcases classifyOuter_code (.leaf node) none with hown | hinner
    · exact ⟨node, List.mem_cons_self, hown⟩
    · cases hinner
  | because node cause ih =>
    rcases classifyOuter_code (.because node cause) (some cause.classify) with hown | hinner
    · exact ⟨node, List.mem_cons_self, hown⟩
    · obtain ⟨inside, hmem, hyields⟩ := ih
      refine ⟨inside, List.mem_cons_of_mem node hmem, ?_⟩
      rw [classify, ← Option.some.inj hinner]
      exact hyields

/-! ## Codes as numbers -/

lemma toNat_http2Code {band : ErrorCode} (hband : band.number.toNat ≤ 1650) (number : UInt32) :
    (ErrorCode.mk (band.number + Http2.codeOffset number)).number.toNat
      = band.number.toNat + if number.toNat < 14 then number.toNat + 1 else 0 := by
  have hnames : Http2.codeNames.length = 14 := rfl
  simp only [Http2.codeOffset, hnames]
  split
  next hlt =>
    rw [UInt32.toNat_add, UInt32.toNat_add]
    have hone : (1 : UInt32).toNat = 1 := rfl
    omega
  next => simp

/-- The codes of what the network policy refuses. -/
def refusalCodes : List ErrorCode := [.blockedAddress, .blockedHost]

/-- Few kinds of links decide on the code of a refusal. -/
lemma Node.Yields.of_refusalCodes {node : Node} {code : ErrorCode} (h : node.Yields code)
    (hcode : code ∈ refusalCodes) :
    (∃ address range, node = .blockedAddress address range)
      ∨ (∃ host pattern, node = .blockedHost host pattern)
      ∨ ∃ message, node = .classified code message := by
  have hnumber : code.number.toNat ≤ 1111 := by
    have hall : ∀ code ∈ refusalCodes, code.number.toNat ≤ 1111 := by decide
    exact hall code hcode
  have hhttp2 : ∀ {band : ErrorCode}, 1610 ≤ band.number.toNat → band.number.toNat ≤ 1650 →
      ∀ number, code ≠ ErrorCode.mk (band.number + Http2.codeOffset number) := by
    intro band hle hband number heq
    have hband' := toNat_http2Code hband number
    rw [← heq] at hband'
    omega
  have hne : ∀ other ∉ refusalCodes, code ≠ other := by
    rintro other hother rfl
    exact hother hcode
  cases node with
  | blockedAddress address range => exact .inl ⟨address, range, rfl⟩
  | blockedHost host pattern => exact .inr (.inl ⟨host, pattern, rfl⟩)
  | classified own message =>
    obtain rfl : code = own := h
    exact .inr (.inr ⟨message, rfl⟩)
  | goAway number debug => exact absurd h (hhttp2 (by decide) (by decide) number)
  | stream id number => exact absurd h (hhttp2 (by decide) (by decide) number)
  | connection number => exact absurd h (hhttp2 (by decide) (by decide) number)
  | lookup host reason =>
    rcases h with h | h
    · exact absurd h (hne _ (by decide))
    · exact absurd h (hne _ (by decide))
  | network operation net address =>
    have hnetwork : ∀ code ∈ networkCodes, code ∉ refusalCodes := by decide
    exact absurd hcode (hnetwork code h)
  | _ => exact absurd (show code = _ from h) (hne _ (by decide))

end Failure

end MeteredHttp
