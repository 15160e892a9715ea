import MeteredHttp.Proofs.Transfer.Reference

/-!
# Failures of bodies are not blamed on connecting

When the head of a response has arrived there was a connection.  Whatever else the result of such a
transfer says, its failure is not reported as one of a stage before.

* `Transfer.BodyNumber` are the numbers that remain, `Transfer.ConnectingNumber` those of the stages
  before.
* **`Transfer.Result.body_failure_number`** says that these are the numbers of failures of bodies,
  and that each of them occurs.
-/

namespace MeteredHttp.Transfer

/-- A number that the failure of a body is reported with. -/
def BodyNumber (n : Nat) : Prop :=
  n ∈ [1000, 1050, 1200, 1201, 1202, 1220, 1701] ∨ 1630 ≤ n ∧ n ≤ 1644

instance (n : Nat) : Decidable (BodyNumber n) := instDecidableOr

/-- A number that stands for the URL, the lookup, the network policy, dialing or TLS. -/
def ConnectingNumber (n : Nat) : Prop :=
  n = 1020 ∨ 1100 ≤ n ∧ n < 1200 ∨ 1210 ≤ n ∧ n < 1220 ∨ 1300 ≤ n ∧ n < 1400

lemma BodyNumber.not_connecting {n : Nat} (h : BodyNumber n) : ¬ConnectingNumber n := by
  simp only [BodyNumber, List.mem_cons, List.not_mem_nil, or_false] at h
  unfold ConnectingNumber
  omega

lemma bodyNumber_socketNumber (errno : Int) : BodyNumber (socketNumber errno) := by
  unfold socketNumber BodyNumber
  split_ifs <;> simp

lemma bodyNumber_streamNumber (code : UInt32) : BodyNumber (http2Number 1630 code) := by
  refine .inr ?_
  unfold http2Number
  split <;> omega

namespace Result

variable {r : Result}

lemma bodyNumber_reference (h : r.failedInBody = true) : BodyNumber r.reference := by
  simp only [failedInBody, Bool.and_eq_true, decide_eq_true_eq, Option.isNone_iff_eq_none] at h
  obtain ⟨⟨hstatus, hrejection⟩, hcode⟩ := h
  have hreference : r.reference = r.codeNumber := by simp only [reference, hrejection]
  rw [hreference, codeNumber]
  simp only [bodyCodes, List.mem_cons, List.not_mem_nil, or_false] at hcode
  rcases hcode with hcode | hcode | hcode | hcode | hcode | hcode <;> rw [hcode]
  · show BodyNumber 1701
    decide
  · show BodyNumber 1000
    decide
  · exact bodyNumber_socketNumber r.narrowErrno
  · -- the head has arrived, so there was a connection
    have hconnected : r.connected = true := by simp [connected, hstatus]
    show BodyNumber (if r.connected then 1050 else 1211)
    rw [if_pos hconnected]
    decide
  · exact bodyNumber_streamNumber _
  · show BodyNumber 1000
    decide

/-- The failure of a body whose head arrived with status 200. -/
def failedBody (code : Code) (osErrno : Int) (error : Bytes) : Result :=
  { code, osErrno, error, status := 200 }

/-- Every one of the numbers occurs. -/
lemma exists_failedInBody {n : Nat} (h : BodyNumber n) :
    ∃ r : Result, r.failedInBody = true ∧ r.reference = n := by
  rcases h with hmem | ⟨hfirst, hlast⟩
  · have hall : ∀ n ∈ [1000, 1050, 1200, 1201, 1202, 1220, 1701],
        ∃ r ∈ [failedBody .partialBody 0 [], failedBody .timedOut 0 [],
            failedBody .receiveFailed 0 [], failedBody .receiveFailed 32 [],
            failedBody .receiveFailed 5 [], failedBody .receiveFailed 104 [],
            failedBody .badEncoding 0 []],
          r.failedInBody = true ∧ r.reference = n := by
      decide
    obtain ⟨r, -, hr⟩ := hall n hmem
    exact ⟨r, hr⟩
  · have hband : ∀ place : Fin 15, ∃ name ∈ [] :: Http2.codeNames,
        (failedBody .streamFailed 0 name).failedInBody = true
          ∧ (failedBody .streamFailed 0 name).reference = 1630 + place := by
      decide +kernel
    obtain ⟨name, -, hbody, hnumber⟩ := hband ⟨n - 1630, by omega⟩
    exact ⟨_, hbody, hnumber.trans (Nat.add_sub_of_le hfirst)⟩

/-- **Failures of bodies have numbers of their own.**  A failure of a body is reported with one of
`BodyNumber`, which is not one for the stages before, whatever the method and the URL are; and each
of these numbers is that of some failure of a body. -/
theorem body_failure_number :
    (∀ r : Result, r.failedInBody = true → ∀ (method : Method) (url : Bytes),
        BodyNumber (r.failure method url).classify.code.number.toNat
          ∧ ¬ConnectingNumber (r.failure method url).classify.code.number.toNat)
      ∧ ∀ n, BodyNumber n → ∃ r : Result, r.failedInBody = true ∧ ∀ (method : Method) (url : Bytes),
        (r.failure method url).classify.code.number.toNat = n := by
  constructor
  · intro r hbody method url
    have hnumber : BodyNumber (r.failure method url).number := by
      rw [number_failure]
      exact bodyNumber_reference hbody
    exact ⟨hnumber, hnumber.not_connecting⟩
  · intro n hn
    obtain ⟨r, hbody, hreference⟩ := exists_failedInBody hn
    refine ⟨r, hbody, ?_⟩
    intro method url
    exact (r.number_failure method url).trans hreference

/-- The connection was refused, or so errno and certificate say, but the head had arrived. -/
theorem body_failure_number_refused :
    let r : Result := { failedBody .receiveFailed 111 (utf8 "issuer") with verification := 62 }
    r.failedInBody = true ∧ BodyNumber (r.failure .get []).classify.code.number.toNat
      ∧ ∃ r : Result, r.failedInBody = true
        ∧ (r.failure .get []).classify.code.number.toNat = 1644 := by
  intro r
  have hbody : r.failedInBody = true := by decide
  refine ⟨hbody, (body_failure_number.1 r hbody .get []).1, ?_⟩
  obtain ⟨other, hother, hnumber⟩ := body_failure_number.2 1644 (by decide)
  exact ⟨other, hother, hnumber .get []⟩

end Result

end MeteredHttp.Transfer
