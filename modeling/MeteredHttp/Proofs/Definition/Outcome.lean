import MeteredHttp.Definition
import MeteredHttp.Proofs.Transfer.Rejection

/-!
# What a caller is told

A caller gets a code and a message with its response, or in the failure that is raised.
`Outcome.told?` is both of them wherever they are.

`Definition.told?_outcome` says that it makes no difference where.  What the network policy refuses
has a code and a message of its own: a caller is told of a refusal if there was one
(`Definition.told?_of_refusedAddress`, `Definition.told?_of_refusedHost`), and of none otherwise
(`Definition.told?_of_unrefused`).
-/

namespace MeteredHttp

/-- What is reported when the policy refuses an address, and below, a host. -/
def Classification.refusedAddress : Classification := ⟨.blockedAddress, utf8 "ip is blacklisted"⟩

def Classification.refusedHost : Classification := ⟨.blockedHost, utf8 "hostname is blocked"⟩

namespace Definition

/-- The code and the message that a caller gets, if there was a transfer. -/
def Outcome.told? : Outcome → Option Classification
  | .response r => some ⟨r.code, r.error⟩
  | .raised failure => some failure.classify
  | .unrewound _ => none

variable {d : Definition} {method : Method} {r : Transfer.Result}

lemma eq_of_failure? {failure : Failure} (h : d.failure? method r = some failure) :
    failure = r.failure method d.url := by
  simp only [failure?] at h
  split at h
  · exact (Option.some.inj h).symm
  · cases h

lemma failure?_of_rejection {rejection : Failure} (h : r.rejection = some rejection) :
    d.failure? method r = some (r.failure method d.url) := by
  simp [failure?, h]

/-- The code and the message of a failure, or else those of the status. -/
lemma told?_outcome (d : Definition) (method : Method) (r : Transfer.Result) :
    (d.outcome method r).told?
      = some (match d.failure? method r with
        | some failure => failure.classify
        | none => ⟨if 400 ≤ r.status then .ofStatus r.status else .success, []⟩) := by
  cases hfailure : d.failure? method r with
  | none =>
    simp only [outcome, hfailure]
    rfl
  | some failure =>
    simp only [outcome, hfailure]
    split
    · rfl
    · split <;> rfl

/-! ## Refusals -/

lemma told?_of_refusedAddress {address range : Bytes}
    (h : r.rejection = some (.leaf (.blockedAddress address range))) :
    (d.outcome method r).told? = some .refusedAddress := by
  rw [told?_outcome, failure?_of_rejection h]
  exact congrArg some (r.classify_blockedAddress h method d.url)

lemma told?_of_refusedHost {host pattern : Bytes}
    (h : r.rejection = some (.leaf (.blockedHost host pattern))) :
    (d.outcome method r).told? = some .refusedHost := by
  rw [told?_outcome, failure?_of_rejection h]
  exact congrArg some (r.classify_blockedHost h method d.url)

lemma told?_of_unrefused (h : r.Unrefused) {told : Classification}
    (htold : (d.outcome method r).told? = some told) :
    told ≠ .refusedAddress ∧ told ≠ .refusedHost := by
  -- A status can make any code, also that of a refusal, but it comes without a message.
  have hne : told.code ∉ Failure.refusalCodes ∨ told.message = [] := by
    rw [told?_outcome] at htold
    obtain rfl := Option.some.inj htold
    cases hfailure : d.failure? method r with
    | none => exact .inr rfl
    | some failure =>
      obtain rfl := eq_of_failure? hfailure
      exact .inl (h.classify_not_mem method d.url)
  constructor
  · rintro rfl
    exact absurd hne (by decide)
  · rintro rfl
    exact absurd hne (by decide)

end Definition

end MeteredHttp
