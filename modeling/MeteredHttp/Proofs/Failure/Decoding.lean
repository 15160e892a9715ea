import MeteredHttp.Proofs.Failure.Codes

/-!
# What codes say about failures

The code of a chain of failures is read backwards here.  Besides the codes that somebody else gave,
there are single ones, listed in `Failure.plainNumbers`, and three bands for HTTP/2.  A band has one
code for each number that is known and, in front of them, one for all the others.

* `Failure.Decodes` says what can be read from the code of a chain, and `Failure.decodes` for which
  chains.
* `Failure.bandCode_eq_iff` says that a known number can be read from a code in a band.
-/

namespace MeteredHttp

namespace Failure

/-- The numbers of the codes outside the bands. -/
def plainNumbers : List Nat :=
  [1000, 1010, 1100, 1101, 1110, 1111, 1200, 1201, 1202, 1210, 1212, 1213, 1220, 1301, 1310, 1311]

/-- The codes that the bands begin with. -/
def bands : List ErrorCode := [.http2GoAway, .http2Stream, .http2Connection]

def bandCode (band : ErrorCode) (number : UInt32) : ErrorCode :=
  ⟨band.number + Http2.codeOffset number⟩

def InBand (band : ErrorCode) (n : Nat) : Prop :=
  band.number.toNat ≤ n ∧ n ≤ band.number.toNat + 14

instance (band : ErrorCode) (n : Nat) : Decidable (InBand band n) := instDecidableAnd

/-- The band of a link that HTTP/2 failed in, and the number that the peer gave. -/
def Node.http2? : Node → Option (ErrorCode × UInt32)
  | .goAway number _ => some (.http2GoAway, number)
  | .stream _ number => some (.http2Stream, number)
  | .connection number => some (.http2Connection, number)
  | _ => none

/-- What can be read from the code of a chain, if `stated` are the codes that others give: it is one
of few, and if it is in a band then a link of that band has it. -/
structure Decodes (stated : List Nat) (failure : Failure) : Prop where
  range : failure.classify.code.number.toNat ∈ plainNumbers ++ stated
    ∨ ∃ band ∈ bands, InBand band failure.classify.code.number.toNat
  origin : ∀ band ∈ bands, InBand band failure.classify.code.number.toNat →
    ∃ node ∈ failure.nodes, ∃ number,
      node.http2? = some (band, number) ∧ failure.classify.code = bandCode band number

variable {band band' : ErrorCode} {number number' : UInt32} {node : Node} {code : ErrorCode}
  {failure : Failure} {n : Nat}

/-! ## Bands -/

lemma mem_bands_of_http2? (h : node.http2? = some (band, number)) : band ∈ bands := by
  cases node <;> simp_all [Node.http2?, bands]

lemma toNat_bandCode (hband : band ∈ bands) (number : UInt32) :
    (bandCode band number).number.toNat
      = band.number.toNat + if number.toNat < 14 then number.toNat + 1 else 0 := by
  have hle : ∀ band ∈ bands, band.number.toNat ≤ 1650 := by decide
  exact toNat_http2Code (hle band hband) number

lemma inBand_bandCode (hband : band ∈ bands) (number : UInt32) :
    InBand band (bandCode band number).number.toNat := by
  rw [toNat_bandCode hband]
  unfold InBand
  split <;> omega

/-- No code is in two bands. -/
lemma InBand.unique (h : InBand band n) (h' : InBand band' n) (hband : band ∈ bands)
    (hband' : band' ∈ bands) : band = band' := by
  have hapart : ∀ band ∈ bands, ∀ band' ∈ bands,
      band.number.toNat ≤ band'.number.toNat + 14 → band'.number.toNat ≤ band.number.toNat + 14 →
      band = band' := by decide
  exact hapart band hband band' hband' (Nat.le_trans h.1 h'.2) (Nat.le_trans h'.1 h.2)

/-- **Known numbers have codes of their own.** -/
lemma bandCode_eq_iff (hband : band ∈ bands) (hband' : band' ∈ bands) (hknown : number.toNat < 14) :
    bandCode band number = bandCode band' number' ↔ band = band' ∧ number = number' := by
  constructor
  · intro h
    have hin : InBand band' (bandCode band number).number.toNat :=
      h ▸ inBand_bandCode hband' number'
    obtain rfl := (inBand_bandCode hband number).unique hin hband hband'
    have hnumber := congrArg (·.number.toNat) h
    simp only [toNat_bandCode hband, hknown, if_true] at hnumber
    refine ⟨rfl, UInt32.toNat.inj ?_⟩
    split at hnumber <;> omega
  · rintro ⟨rfl, rfl⟩
    rfl

/-! ## Chains -/

/-- The outermost link decides if HTTP/2 failed in it. -/
lemma classify_http2 (h : failure.node.http2? = some (band, number)) :
    failure.classify.code = bandCode band number := by
  obtain ⟨inner?, hclassify⟩ := failure.exists_classify_eq
  rw [hclassify]
  cases hnode : failure.node with
  | goAway number' debug =>
    obtain ⟨rfl, rfl⟩ : _ ∧ number' = number := by simpa [hnode, Node.http2?] using h
    simp [classifyOuter, hnode, http2Classification, bandCode]
  | stream id number' =>
    obtain ⟨rfl, rfl⟩ : _ ∧ number' = number := by simpa [hnode, Node.http2?] using h
    simp [classifyOuter, hnode, http2Classification, bandCode]
  | connection number' =>
    obtain ⟨rfl, rfl⟩ : _ ∧ number' = number := by simpa [hnode, Node.http2?] using h
    simp [classifyOuter, hnode, http2Classification, bandCode]
  | _ => simp [hnode, Node.http2?] at h

/-- A link decides on a single code, or on one in its band. -/
lemma Node.Yields.plain_or_http2 (h : node.Yields code)
    (hnode : ∀ own message, node ≠ .classified own message) :
    code.number.toNat ∈ plainNumbers
      ∨ ∃ band number, node.http2? = some (band, number) ∧ code = bandCode band number := by
  cases node with
  | classified own message => exact absurd rfl (hnode own message)
  | goAway number debug => exact .inr ⟨_, number, rfl, h⟩
  | stream id number => exact .inr ⟨_, number, rfl, h⟩
  | connection number => exact .inr ⟨_, number, rfl, h⟩
  | lookup host reason =>
    refine .inl ?_
    rcases h with rfl | rfl
    · decide
    · decide
  | network operation net address =>
    have hcodes : ∀ code ∈ networkCodes, code.number.toNat ∈ plainNumbers := by decide
    exact .inl (hcodes code h)
  | _ =>
    obtain rfl : code = _ := h
    exact .inl (by decide)

/-- **Codes say what they come from**, in chains in which others give the codes `stated` only. -/
lemma decodes {stated : List Nat}
    (hclassified : ∀ code message, .classified code message ∈ failure.nodes →
      code.number.toNat ∈ stated)
    (hstated : ∀ n ∈ stated, ∀ band ∈ bands, ¬InBand band n) : Decodes stated failure := by
  obtain ⟨node, hnode, hyields⟩ := failure.exists_yields_classify
  have hcases : failure.classify.code.number.toNat ∈ plainNumbers ++ stated
      ∨ ∃ band number, node.http2? = some (band, number)
        ∧ failure.classify.code = bandCode band number := by
    by_cases hown : ∃ own message, node = .classified own message
    · obtain ⟨own, message, rfl⟩ := hown
      obtain rfl : _ = own := hyields
      exact .inl (List.mem_append_right _ (hclassified _ message hnode))
    · refine (hyields.plain_or_http2 ?_).imp_left (List.mem_append_left stated)
      rintro own message rfl
      exact hown ⟨own, message, rfl⟩
  rcases hcases with hplain | ⟨band, number, hhttp2, hcode⟩
  · refine ⟨.inl hplain, ?_⟩
    intro band hband hin
    have hplainNumbers : ∀ n ∈ plainNumbers, ∀ band ∈ bands, ¬InBand band n := by decide
    rcases List.mem_append.1 hplain with hmem | hmem
    · exact absurd hin (hplainNumbers _ hmem band hband)
    · exact absurd hin (hstated _ hmem band hband)
  · have hband := mem_bands_of_http2? hhttp2
    have hin : InBand band failure.classify.code.number.toNat :=
      hcode ▸ inBand_bandCode hband number
    refine ⟨.inr ⟨band, hband, hin⟩, ?_⟩
    intro band' hband' hin'
    obtain rfl := hin'.unique hin hband' hband
    exact ⟨node, hnode, number, hhttp2, hcode⟩

end Failure

end MeteredHttp
