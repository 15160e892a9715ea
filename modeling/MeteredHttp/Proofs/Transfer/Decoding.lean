import MeteredHttp.Proofs.Failure.Decoding
import MeteredHttp.Proofs.Transfer.Rejection

/-!
# What codes say about transfers

The code of a transfer that failed can be read backwards as well, and there are four more.  A
response whose status is an error has 1000 plus its status for a code, so that some codes mean two
things.  **`Transfer.error_codes_decode`** says which.
-/

namespace MeteredHttp.Transfer

open Failure (Node Decodes bands bandCode InBand plainNumbers)

/-- The numbers of the codes that follow from the code of a transfer alone. -/
def statedNumbers : List Nat := [1020, 1050, 1211, 1701]

/-- The statuses whose codes are those of failures, too. -/
def Ambiguous (status : Int) : Prop :=
  (610 ≤ status ∧ status ≤ 624) ∨ (630 ≤ status ∧ status ≤ 644) ∨ (650 ≤ status ∧ status ≤ 664)
    ∨ status = 701

namespace Result

variable {r : Result}

lemma mem_statedNumbers {code : ErrorCode} (h : code ∈ statedCodes) :
    code.number.toNat ∈ statedNumbers := by
  have hcodes : ∀ code ∈ statedCodes, code.number.toNat ∈ statedNumbers := by decide
  exact hcodes code h

lemma Genuine.decodes (h : r.Genuine) (method : Method) (url : Bytes) :
    Decodes statedNumbers (r.failure method url) := by
  refine Failure.decodes ?_ (by decide)
  intro code message hmem
  exact mem_statedNumbers (h.classified_mem hmem)

/-- A transfer that failed has a code that is not that of success. -/
lemma Genuine.unspecific_le (h : r.Genuine) (method : Method) (url : Bytes) :
    1000 ≤ (r.failure method url).classify.code.number.toNat := by
  rcases (h.decodes method url).range with hmem | ⟨band, hband, hin⟩
  · have hnumbers : ∀ n ∈ plainNumbers ++ statedNumbers, 1000 ≤ n := by decide
    exact hnumbers _ hmem
  · have hbands : ∀ band ∈ bands, 1000 ≤ band.number.toNat := by decide
    exact Nat.le_trans (hbands band hband) hin.1

/-! ## Collisions -/

variable {status : Int}

lemma Genuine.ambiguous (h : r.Genuine) {method : Method} {url : Bytes} (hfirst : 400 ≤ status)
    (hlast : status ≤ 999) (hcode : (r.failure method url).classify.code = .ofStatus status) :
    Ambiguous status := by
  have hnumber := ErrorCode.toNat_ofStatus hfirst hlast
  have hrange := (h.decodes method url).range
  rw [hcode] at hrange
  generalize (ErrorCode.ofStatus status).number.toNat = n at hnumber hrange
  unfold Ambiguous
  rcases hrange with hmem | ⟨band, hband, hin⟩
  · have hplain : ∀ n ∈ plainNumbers ++ statedNumbers, 1400 ≤ n → n = 1701 := by decide
    have hdecompression := hplain n hmem (by omega)
    omega
  · have hbands : ∀ band ∈ bands, band.number.toNat ∈ [1610, 1630, 1650] := by decide
    have hfirsts := hbands band hband
    simp only [List.mem_cons, List.not_mem_nil, or_false] at hfirsts
    unfold InBand at hin
    omega

/-- A transfer that fails with the code at the given place of a band. -/
def failedInBand (band : ErrorCode) (place : Nat) : Result :=
  let stated := (([] :: Http2.codeNames)[place]?).getD []
  if band = .http2Stream then { code := .streamFailed, error := stated }
  else if band = .http2Connection then { code := .http2Failed, error := stated }
  else { code := .http2Failed, error := utf8 "GOAWAY " ++ stated }

lemma genuine_of_unrejected (h : r.rejection = none) : r.Genuine := by
  refine ⟨?_, ?_⟩ <;> simp [h]

/-- Every place of every band is taken. -/
lemma exists_failed_of_inBand {band : ErrorCode} (hband : band ∈ bands) {n : Nat}
    (h : InBand band n) :
    ∃ r : Result, r.Genuine ∧ r.failed = true
      ∧ (r.failure .get []).classify.code.number.toNat = n := by
  have hall : ∀ band ∈ bands, ∀ place : Fin 15,
      (failedInBand band place).rejection = none ∧ (failedInBand band place).failed = true
        ∧ ((failedInBand band place).failure .get []).classify.code.number.toNat
          = band.number.toNat + place := by
    decide +kernel
  obtain ⟨hle, hlast⟩ := h
  obtain ⟨hrejection, hfailed, hcode⟩ := hall band hband ⟨n - band.number.toNat, by omega⟩
  refine ⟨_, genuine_of_unrejected hrejection, hfailed, hcode.trans ?_⟩
  exact Nat.add_sub_of_le hle

lemma exists_failed_of_ambiguous (h : Ambiguous status) :
    ∃ r : Result, r.Genuine ∧ r.failed = true
      ∧ (r.failure .get []).classify.code = .ofStatus status := by
  have hnumber : ((ErrorCode.ofStatus status).number.toNat : Int) = 1000 + status := by
    unfold Ambiguous at h
    exact ErrorCode.toNat_ofStatus (by omega) (by omega)
  suffices hexists : ∃ r : Result, r.Genuine ∧ r.failed = true
      ∧ (r.failure .get []).classify.code.number.toNat = (ErrorCode.ofStatus status).number.toNat by
    obtain ⟨r, hgenuine, hfailed, hcode⟩ := hexists
    exact ⟨r, hgenuine, hfailed, congrArg ErrorCode.mk (UInt32.toNat.inj hcode)⟩
  generalize (ErrorCode.ofStatus status).number.toNat = n at hnumber
  have hcases : (∃ band ∈ bands, InBand band n) ∨ n = 1701 := by
    simp only [bands, List.mem_cons, List.not_mem_nil, or_false, exists_eq_or_imp,
      exists_eq_left, InBand, ErrorCode.http2GoAway, ErrorCode.http2Stream,
      ErrorCode.http2Connection, UInt32.reduceToNat]
    unfold Ambiguous at h
    omega
  rcases hcases with ⟨band, hband, hin⟩ | rfl
  · exact exists_failed_of_inBand hband hin
  · exact ⟨{ code := .badEncoding }, genuine_of_unrejected rfl, rfl, rfl⟩

end Result

/-- **Codes can be told apart.**

* The code of a chain in which nobody else gave a code is one of `plainNumbers` or in a band of
  HTTP/2, and then a link of that kind is in the chain.
* Where HTTP/2 failed in the outermost link, the code is in its band, and a known number can be read
  from it.
* The code of a transfer that failed is such a one, or in `statedNumbers`.
* The code of an error status is that of a transfer that failed exactly for the statuses of the
  three bands and 701. -/
theorem error_codes_decode :
    (∀ failure : Failure, (∀ code message, .classified code message ∉ failure.nodes) →
        Decodes [] failure)
      ∧ (∀ (failure failure' : Failure) (band band' : ErrorCode) (number number' : UInt32),
        failure.node.http2? = some (band, number) → failure'.node.http2? = some (band', number') →
        InBand band failure.classify.code.number.toNat
          ∧ (number.toNat < Http2.codeNames.length →
            (failure.classify.code = failure'.classify.code ↔ band = band' ∧ number = number')))
      ∧ (∀ r : Result, r.Genuine → r.failed = true → ∀ (method : Method) (url : Bytes),
        Decodes statedNumbers (r.failure method url))
      ∧ ∀ status : Int, 400 ≤ status → status ≤ 999 →
        ((∃ (r : Result) (method : Method) (url : Bytes), r.Genuine ∧ r.failed = true
          ∧ (r.failure method url).classify.code = .ofStatus status) ↔ Ambiguous status) := by
  refine ⟨?_, ?_, ?_, ?_⟩
  · intro failure hfailure
    refine Failure.decodes ?_ (by simp)
    intro code message hmem
    exact absurd hmem (hfailure code message)
  · intro failure failure' band band' number number' h h'
    have hband := Failure.mem_bands_of_http2? h
    rw [Failure.classify_http2 h, Failure.classify_http2 h']
    exact ⟨Failure.inBand_bandCode hband number,
      Failure.bandCode_eq_iff hband (Failure.mem_bands_of_http2? h')⟩
  · intro r hgenuine _ method url
    exact hgenuine.decodes method url
  · intro status hfirst hlast
    constructor
    · rintro ⟨r, method, url, hgenuine, -, hcode⟩
      exact hgenuine.ambiguous hfirst hlast hcode
    · intro h
      obtain ⟨r, hgenuine, hfailed, hcode⟩ := Result.exists_failed_of_ambiguous h
      exact ⟨r, .get, [], hgenuine, hfailed, hcode⟩

theorem error_codes_decode_goAway :
    let r : Result := { code := .http2Failed, error := utf8 "GOAWAY received, err 11" }
    let failure := r.failure .get (utf8 "http://a/")
    (∀ code message, .classified code message ∉ failure.nodes) ∧ Decodes [] failure
      ∧ r.Genuine ∧ r.failed = true ∧ Decodes statedNumbers failure
      ∧ failure.classify.code = .ofStatus 622 ∧ Ambiguous 622 := by
  intro r failure
  have hnodes : ∀ code message, .classified code message ∉ failure.nodes := by
    have hshape : failure.nodes = [.url (utf8 "Get") (utf8 "http://a/"), .goAway 11 []] := by
      decide +kernel
    simp [hshape]
  have hgenuine : r.Genuine := Result.genuine_of_unrejected rfl
  have hcode : failure.classify.code = .ofStatus 622 := by decide +kernel
  obtain ⟨hchains, -, htransfers, hstatuses⟩ := error_codes_decode
  exact ⟨hnodes, hchains failure hnodes, hgenuine, rfl, htransfers r hgenuine rfl _ _, hcode,
    (hstatuses 622 (by decide) (by decide)).1 ⟨r, _, _, hgenuine, rfl, hcode⟩⟩

end MeteredHttp.Transfer
