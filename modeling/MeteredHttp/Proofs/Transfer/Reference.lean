import MeteredHttp.Proofs.Bytes
import MeteredHttp.Proofs.Failure.Codes
import MeteredHttp.Proofs.Failure.Wrapping
import MeteredHttp.Transfer.Diagnosis
import MeteredHttp.Transfer.Perform

/-!
# The reference table of failed transfers

What a transfer that failed is reported as is worked out in two stages.  A chain of failures is
built from its result, and the chain is taken apart again by the classification.  The table says
what comes of it, without chains.

* `Transfer.Result.codeNumber` is the table for the code of a transfer, `Transfer.Result.reference`
  that for a whole result.
* `Transfer.Result.number_codeFailure` says that the chain for a code is classified by the table,
  and there is one lemma for each stage that a transfer can fail in.
* **`Transfer.Result.classified_by_reference`** says so of all results, whatever the method and the
  URL are.
-/

namespace MeteredHttp

/-- The number of the code that a failure is reported with. -/
def Failure.number (failure : Failure) : Nat := failure.classify.code.number.toNat

namespace Transfer

/-! ## The table -/

/-- The words occur in a message. -/
def Says (message : Bytes) (words : String) : Prop := utf8 words <:+: message

instance (message : Bytes) (words : String) : Decidable (Says message words) :=
  inferInstanceAs (Decidable (utf8 words <:+: message))

/-- A host was not resolved. -/
def hostNumber (message : Bytes) : Nat :=
  if ¬Says message "(" ∨ Says message "not found" ∨ Says message "NXDOMAIN"
      ∨ Says message "Name or service not known" then 1101
  else 1100

/-- A connection could not be opened, with an error number. -/
def dialNumber (errno : Int) : Nat :=
  if errno = 104 then 1220
  else if errno = 32 then 1201
  else if errno = 111 then 1212
  else if errno = 0 then 1210
  else 1213

/-- A connection failed after it was opened, with an error number. -/
def socketNumber (errno : Int) : Nat :=
  if errno = 104 then 1220
  else if errno = 32 then 1201
  else if errno = 0 then 1200
  else 1202

/-- A certificate was not accepted. -/
def certificateNumber (verification : Int) (message : Bytes) : Nat :=
  if verification = 62 ∨ Says message "subject name" ∨ Says message "does not match" then 1311
  else if verification ∈ [2, 18, 19, 20, 21] ∨ Says message "issuer" ∨ Says message "unknown ca"
      ∨ Says message "self-signed" ∨ Says message "self signed" then 1310
  else 1000

/-- HTTP/2 failed with an error code.  The numbers of the known ones follow the first number. -/
def http2Number (first : Nat) (code : UInt32) : Nat :=
  first + if code.toNat < 14 then code.toNat + 1 else 0

namespace Result

/-- The error number of the last socket operation as 32 bits hold it. -/
def narrowErrno (r : Result) : Int := r.osErrno.bmod Int32.size

/-- What the code of a transfer is reported as. -/
def codeNumber (r : Result) : Nat :=
  match r.code with
  | .hostUnresolved => hostNumber r.error
  | .proxyUnresolved => if r.error = utf8 "no such host" then 1101 else 1100
  | .connectFailed => dialNumber r.narrowErrno
  | .timedOut => if r.connected then 1050 else 1211
  | .sendFailed | .receiveFailed => socketNumber r.narrowErrno
  | .certificateRejected => certificateNumber r.verification r.error
  | .handshakeFailed =>
    if Says r.error "wrong version number" ∨ Says r.error "record" then 1301
    else certificateNumber r.verification r.error
  | .http2Failed =>
    http2Number (if Says r.error "GOAWAY" ∨ Says r.error "GoAway" then 1610 else 1650)
      (statedHttp2Code r.error)
  | .streamFailed => http2Number 1630 (statedHttp2Code r.error)
  | .badEncoding => 1701
  | .malformedUrl | .unsupportedScheme => 1020
  | _ => 1000

/-- What a result is reported as.  A failure raised on our own side speaks for itself, and that of a
refusal has a number of its own. -/
def reference (r : Result) : Nat :=
  match r.rejection with
  | none => r.codeNumber
  | some rejection =>
    match rejection.node with
    | .blockedAddress _ _ => 1110
    | .blockedHost _ _ => 1111
    | _ => rejection.number

end Result

/-! ## Messages and error numbers -/

lemma mentions_iff {message : Bytes} {keys : List String} :
    mentions message keys = true ↔ ∃ key ∈ keys, Says message key := by
  simp only [mentions, List.any_eq_true, Bytes.contains_iff, Says]

namespace Result

variable {r : Result}

lemma errno_eq_iff {errno : Int32} : r.errno = errno ↔ r.narrowErrno = errno.toInt := by
  rw [← Int32.toInt_inj, Result.errno, Int32.toInt_ofInt]
  rfl

/-! ## The stages -/

lemma number_lookup (host reason : Bytes) :
    (Failure.leaf (.lookup host reason)).number
      = if reason = utf8 "no such host" then 1101 else 1100 := by
  simp only [Failure.number, Failure.classify, Failure.classifyOuter, Failure.node]
  split <;> rfl

lemma number_lookupFailure (r : Result) : r.lookupFailure.number = hostNumber r.error := by
  have hmissing : (¬mentions r.error ["("]
        ∨ mentions r.error ["not found", "NXDOMAIN", "Name or service not known"])
      ↔ ¬Says r.error "(" ∨ Says r.error "not found" ∨ Says r.error "NXDOMAIN"
        ∨ Says r.error "Name or service not known" := by
    simp [mentions_iff]
  rw [lookupFailure, number_lookup, hostNumber]
  simp only [hmissing]
  split_ifs with hhost hreason
  · rfl
  · exact absurd rfl hreason
  · -- a reason that is kept is in parentheses, so it is not the one for names that are missing
    rename_i hreason
    rw [hreason] at hhost
    exact absurd (.inl (by decide)) hhost
  · rfl

/-- Dialing does not hide a cause that has a code of its own. -/
lemma number_dial {cause : Failure} (h : cause.number ≠ 1000) (address : Bytes) :
    (Failure.because (.network (utf8 "dial") (utf8 "tcp") address) cause).number
      = cause.number := by
  have hdials : Failure.Node.Dials (.network (utf8 "dial") (utf8 "tcp") address) :=
    .dial (.inl rfl) address
  have hspecific : cause.classify.code ≠ .unspecific := by
    intro hcode
    rw [Failure.number, hcode] at h
    exact h rfl
  rw [Failure.number, hdials.classify_of_specific hspecific]
  rfl

lemma number_unresolved (r : Result) :
    (Failure.because (.network (utf8 "dial") (utf8 "tcp") []) r.lookupFailure).number
      = hostNumber r.error := by
  rw [number_dial, number_lookupFailure]
  rw [number_lookupFailure, hostNumber]
  split <;> decide

lemma number_connectFailure (r : Result) :
    r.connectFailure.number = dialNumber r.narrowErrno := by
  rw [connectFailure, networkFailure, Failure.number]
  by_cases hzero : r.osErrno = 0
  · rw [if_pos hzero, Failure.classify_dial (.inl rfl) _ (by simp [Failure.node])]
    have hnarrow : r.narrowErrno = 0 := by simp [narrowErrno, hzero]
    rw [hnarrow]
    rfl
  · rw [if_neg hzero, Failure.code_dial_systemCall (.inl rfl) _ rfl, dialNumber]
    simp only [errno_eq_iff, Int32.reduceToInt]
    split_ifs <;> rfl

lemma number_socketFailure {operation : String} (hoperation : utf8 operation ≠ utf8 "dial")
    (r : Result) : (r.socketFailure operation).number = socketNumber r.narrowErrno := by
  rw [socketFailure, networkFailure, Failure.number, Failure.classify_tcp (.inl rfl),
    if_neg hoperation]
  have hreset : r.errno = SystemError.connectionReset ↔ r.narrowErrno = 104 := errno_eq_iff
  have hpipe : r.errno = SystemError.brokenPipe ↔ r.narrowErrno = 32 := errno_eq_iff
  have hzero : r.errno = 0 ↔ r.narrowErrno = 0 := errno_eq_iff
  rw [socketNumber]
  by_cases h104 : r.errno = SystemError.connectionReset
  · rw [if_pos (.inr h104), if_pos (hreset.1 h104), h104]
    rfl
  rw [if_neg (mt hreset.2 h104)]
  by_cases h32 : r.errno = SystemError.brokenPipe
  · rw [if_pos (.inl h32), if_pos (hpipe.1 h32), h32]
    rfl
  rw [if_neg (not_or.2 ⟨h32, h104⟩), if_neg (mt hpipe.2 h32)]
  by_cases h0 : r.errno = 0
  · rw [if_pos h0, if_pos (hzero.1 h0)]
    rfl
  · rw [if_neg h0, if_neg (mt hzero.2 h0)]
    rfl

lemma number_certificateFailure (r : Result) :
    r.certificateFailure.number = certificateNumber r.verification r.error := by
  have hhost : (r.verification = hostMismatch ∨ mentions r.error ["subject name", "does not match"])
      ↔ r.verification = 62 ∨ Says r.error "subject name" ∨ Says r.error "does not match" := by
    simp [mentions_iff, hostMismatch]
  have hauthority : (r.verification ∈ unknownAuthorities
        ∨ mentions r.error ["issuer", "unknown ca", "self-signed", "self signed"])
      ↔ r.verification ∈ [2, 18, 19, 20, 21] ∨ Says r.error "issuer" ∨ Says r.error "unknown ca"
        ∨ Says r.error "self-signed" ∨ Says r.error "self signed" := by
    simp [mentions_iff, unknownAuthorities]
  rw [certificateFailure, certificateNumber]
  simp only [hhost, hauthority]
  split_ifs <;> rfl

lemma number_handshakeFailure (r : Result) :
    r.handshakeFailure.number
      = if Says r.error "wrong version number" ∨ Says r.error "record" then 1301
        else certificateNumber r.verification r.error := by
  have hrecord : mentions r.error ["wrong version number", "record"] = true
      ↔ Says r.error "wrong version number" ∨ Says r.error "record" := by
    simp [mentions_iff]
  rw [handshakeFailure]
  simp only [hrecord]
  split_ifs
  · rfl
  · exact r.number_certificateFailure

lemma number_timeoutFailure (r : Result) :
    r.timeoutFailure.number = if r.connected then 1050 else 1211 := by
  rw [timeoutFailure]
  split_ifs <;> rfl

lemma number_http2Failure (r : Result) :
    r.http2Failure.number
      = http2Number (if Says r.error "GOAWAY" ∨ Says r.error "GoAway" then 1610 else 1650)
          (statedHttp2Code r.error) := by
  have hgoAway : mentions r.error ["GOAWAY", "GoAway"] = true
      ↔ Says r.error "GOAWAY" ∨ Says r.error "GoAway" := by
    simp [mentions_iff]
  rw [http2Failure]
  simp only [hgoAway]
  split_ifs
  · exact @Failure.toNat_http2Code .http2GoAway (by decide) _
  · exact @Failure.toNat_http2Code .http2Connection (by decide) _

lemma number_streamFailure (r : Result) :
    r.streamFailure.number = http2Number 1630 (statedHttp2Code r.error) :=
  @Failure.toNat_http2Code .http2Stream (by decide) _

/-! ## Results -/

/-- **The chain for the code of a transfer is classified by the table.** -/
lemma number_codeFailure (r : Result) : r.codeFailure.number = r.codeNumber := by
  fun_cases codeFailure r <;> simp only [codeNumber, *]
  · exact r.number_unresolved
  · exact number_lookup _ _
  · exact r.number_connectFailure
  · exact r.number_timeoutFailure
  · exact number_socketFailure (by decide) r
  · exact number_socketFailure (by decide) r
  · exact r.number_certificateFailure
  · exact r.number_handshakeFailure
  · exact r.number_http2Failure
  · exact r.number_streamFailure
  · rfl
  · rfl
  · rfl
  · rfl

lemma number_rejectionFailure (r : Result) (rejection : Failure) :
    (r.rejectionFailure rejection).number
      = match rejection.node with
        | .blockedAddress _ _ => 1110
        | .blockedHost _ _ => 1111
        | _ => rejection.number := by
  obtain ⟨inner?, hclassify⟩ := rejection.exists_classify_eq
  cases hnode : rejection.node with
  | blockedAddress address range =>
    have hnumber : rejection.number = 1110 := by
      rw [Failure.number, hclassify]
      simp only [Failure.classifyOuter, hnode]
      rfl
    simp only [rejectionFailure, networkFailure, hnode]
    rw [number_dial (by rw [hnumber]; decide), hnumber]
  | blockedHost host pattern =>
    have hnumber : rejection.number = 1111 := by
      rw [Failure.number, hclassify]
      simp only [Failure.classifyOuter, hnode]
      rfl
    simp only [rejectionFailure, networkFailure, hnode]
    rw [number_dial (by rw [hnumber]; decide), hnumber]
  | _ => simp only [rejectionFailure, hnode]

/-- The method and the URL have no part in the code. -/
lemma number_failure (r : Result) (method : Method) (url : Bytes) :
    (r.failure method url).number = r.reference := by
  rw [failure, Failure.number, Failure.classify_passing (.url _ _), reference]
  split
  next rejection hrejection =>
    rw [hrejection]
    exact r.number_rejectionFailure rejection
  next hrejection =>
    rw [hrejection]
    exact r.number_codeFailure

/-- **Failed transfers are classified by the table**, whatever the method and the URL are.  Of the
failures that are raised on our own side, that of a body which could not be read has code 1000. -/
theorem classified_by_reference (r : Result) (method : Method) (url : Bytes) :
    (r.failure method url).classify.code.number.toNat = r.reference
      ∧ ∀ reason, { r with rejection := some (readFailure reason) }.reference = 1000 :=
  ⟨r.number_failure method url, fun _ => rfl⟩

end Result

end Transfer

end MeteredHttp
