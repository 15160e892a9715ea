import MeteredHttp.Proofs.Definition.Candidates
import MeteredHttp.Proofs.Policy
import MeteredHttp.Proofs.Run.Step

/-!
# Which transfers the blocked hosts stop

A transfer does not start if the host of its URL is blocked.  The host is looked for in the text of
the URL before, and the transfer, which is given the same text, looks for it once more.  It is more
lenient: where the text has no scheme it guesses one.

* `Url.hasScheme` says whether a transfer finds a scheme, and `Url.contacted?` which host it
  contacts.  `Url.host?_eq` compares this with `Url.host?`.
* `Transport.Forbids` says that the host that would be contacted is blocked, and
  **`Transport.host_blocked_iff_scheme`** which transfers are stopped then.
-/

namespace MeteredHttp

/-! ## Two ways of reading a URL -/

namespace Url

/-- Whether a transfer finds a scheme.  A slash has to follow its colon, as behind a host there can
be a colon with a port. -/
def hasScheme (url : Bytes) : Bool :=
  (splitScheme? url.untilNul).any fun parts => parts.2.head? == some 47

/-- The host that a transfer contacts.  Without a scheme it guesses that of HTTP. -/
def contacted? (url : Bytes) : Option Bytes :=
  if hasScheme url then host? url else host? (utf8 "http://" ++ url)

variable {url host : Bytes}

lemma hasScheme_of_authority? {authority : Bytes} (h : authority? url.untilNul = some authority) :
    hasScheme url = true := by
  rw [hasScheme]
  cases hsplit : splitScheme? url.untilNul with
  | none => simp [authority?, hsplit] at h
  | some parts =>
    obtain ⟨scheme, rest⟩ := parts
    cases rest with
    | nil => simp [authority?, hsplit] at h
    | cons b rest =>
      by_cases hslash : b = 47
      · simp [hslash]
      · simp [authority?, hsplit, hslash] at h

/-- Only where there is a scheme a host is found. -/
lemma hasScheme_of_host? (h : host? url = some host) : hasScheme url = true := by
  simp only [host?] at h
  split at h
  · cases h
  · obtain ⟨authority, hauthority, -⟩ := Option.bind_eq_some_iff.1 h
    exact hasScheme_of_authority? hauthority

/-- **What is found before the transfer** is what the transfer contacts, or nothing. -/
lemma host?_eq (url : Bytes) : host? url = if hasScheme url then contacted? url else none := by
  cases hscheme : hasScheme url with
  | true => simp [contacted?, hscheme]
  | false =>
    rw [if_neg Bool.false_ne_true, ← Option.not_isSome_iff_eq_none]
    intro hsome
    obtain ⟨host, hhost⟩ := Option.isSome_iff_exists.1 hsome
    rw [hasScheme_of_host? hhost] at hscheme
    cases hscheme

end Url

namespace Transport

open Transfer

variable {id : Nat} {config : ClientConfig} {files : Files} {t : Transport} {h : Handle}

/-! ## Stopped transfers -/

/-- The patterns of a configuration are those of its transports. -/
lemma mem_patterns_of_make (hmake : make id config files = .ok t) {text : Bytes}
    (htext : text ∈ config.blockHostnames) {pattern : HostPattern}
    (hparse : HostPattern.parse? text = some pattern) : pattern ∈ t.policy.patterns := by
  obtain ⟨-, -, hpolicy⟩ := of_make hmake
  exact Policy.mem_patterns_of_ofLists (ClientConfig.ofLists_of_policy hpolicy) htext hparse

/-- The configuration blocks the host that a transfer to the URL contacts. -/
def Forbids (config : ClientConfig) (url : Bytes) : Prop :=
  ∃ text ∈ config.blockHostnames, ∃ pattern host, HostPattern.parse? text = some pattern
    ∧ Url.contacted? url = some host ∧ pattern.covers host = true

/-- A transfer ended with the refusal of a host. -/
def RefusesHost (r : Result) : Prop :=
  ∃ host pattern, r.rejection = some (.leaf (.blockedHost host pattern))

lemma coversHost_of_scheme (hmake : make id config files = .ok t) {url : Bytes}
    (hforbids : Forbids config url) (hscheme : Url.hasScheme url = true) :
    CoversHost t.policy url := by
  obtain ⟨text, htext, pattern, host, hparse, hcontacted, hcovers⟩ := hforbids
  refine ⟨host, pattern, ?_, mem_patterns_of_make hmake htext hparse, hcovers⟩
  rw [Url.host?_eq, if_pos hscheme, hcontacted]

lemma scheme_of_coversHost {policy : Policy} {url : Bytes} (hcovers : CoversHost policy url) :
    Url.hasScheme url = true := by
  obtain ⟨host, pattern, hhost, -, -⟩ := hcovers
  exact Url.hasScheme_of_host? hhost

/-- A transfer that is stopped sends nothing and refuses the host. -/
lemma perform_of_coversHost (hcovers : CoversHost t.policy h.url) (sources : Sources)
    (type : ResponseType) (exchange : Exchange) :
    (t.perform h sources type exchange).wire = none
      ∧ RefusesHost (t.perform h sources type exchange).result := by
  obtain ⟨failure, hfailure⟩ := Option.isSome_iff_exists.1 (isSome_blockedHost?.2 hcovers)
  obtain ⟨host, pattern, rfl⟩ := rejection_of_blockedHost? hfailure
  rw [perform_of_blocked hfailure]
  exact ⟨rfl, host, pattern, rfl⟩

/-- A transfer that is not stopped sends something and refuses no host. -/
lemma perform_of_not_coversHost (hcovers : ¬CoversHost t.policy h.url) (sources : Sources)
    (type : ResponseType) (exchange : Exchange) :
    (t.perform h sources type exchange).wire.isSome = true
      ∧ ¬RefusesHost (t.perform h sources type exchange).result := by
  have hfree : blockedHost? t.policy h.url = none := by
    rw [← Option.not_isSome_iff_eq_none, isSome_blockedHost?]
    exact hcovers
  rw [perform_of_free hfree]
  refine ⟨rfl, ?_⟩
  rintro ⟨host, pattern, hrejection⟩
  have hreads := ofReads_serveReads h.body sources exchange.reads
  by_cases hcode : exchange.code = .completed
  · simp [resultOf, hcode] at hrejection
  · simp only [resultOf, hcode, if_false] at hrejection
    cases hread : (serveReads h.body sources exchange.reads).2.1 with
    | some failure =>
      obtain ⟨reason, rfl⟩ := hreads.read failure hread
      simp [hread, readFailure] at hrejection
    | none =>
      rw [hread] at hrejection
      obtain ⟨address, range, haddress⟩ := rejection_of_refusal? hrejection
      cases haddress

/-- **Blocked hosts and schemes.**  A transport was made from a configuration that blocks the host
which a transfer contacts.  Whatever happens then, the transfer is stopped, and its failure is the
refusal of a host, exactly if the text of the URL has a scheme. -/
theorem host_blocked_iff_scheme (hmake : make id config files = .ok t)
    (hforbids : Forbids config h.url) (sources : Sources) (type : ResponseType)
    (exchange : Exchange) :
    let performed := t.perform h sources type exchange
    (performed.wire = none ↔ Url.hasScheme h.url = true)
      ∧ (RefusesHost performed.result ↔ Url.hasScheme h.url = true) := by
  intro performed
  by_cases hcovers : CoversHost t.policy h.url
  · have hscheme := scheme_of_coversHost hcovers
    obtain ⟨hwire, hrefuses⟩ := perform_of_coversHost hcovers sources type exchange
    exact ⟨iff_of_true hwire hscheme, iff_of_true hrefuses hscheme⟩
  · have hscheme : ¬Url.hasScheme h.url = true :=
      fun hscheme => hcovers (coversHost_of_scheme hmake hforbids hscheme)
    obtain ⟨hwire, hrefuses⟩ := perform_of_not_coversHost hcovers sources type exchange
    refine ⟨iff_of_false ?_ hscheme, iff_of_false hrefuses hscheme⟩
    intro hnone
    rw [hnone] at hwire
    cases hwire

/-- The transport of a configuration that blocks the host `a`. -/
def blockingA : Transport where
  id := 0
  config := { blockHostnames := [utf8 "a"] }
  policy := { networks := [], patterns := [.exactly (utf8 "a")] }

lemma forbids_a {url : Bytes} (h : Url.contacted? url = some (utf8 "a")) :
    Forbids blockingA.config url :=
  ⟨utf8 "a", List.mem_cons_self, .exactly (utf8 "a"), utf8 "a", by decide, h, by decide⟩

theorem host_blocked_iff_scheme_stated :
    make 0 blockingA.config {} = .ok blockingA
      ∧ Forbids blockingA.config (utf8 "http://a/x") ∧ Url.hasScheme (utf8 "http://a/x") = true
      ∧ ∀ exchange, (blockingA.perform (blockingA.newHandle.withUrl (utf8 "http://a/x")) [] .text
          exchange).wire = none := by
  have hforbids : Forbids blockingA.config (utf8 "http://a/x") := forbids_a (by decide +kernel)
  have hscheme : Url.hasScheme (utf8 "http://a/x") = true := by decide
  have hmake : make 0 blockingA.config {} = .ok blockingA := rfl
  refine ⟨hmake, hforbids, hscheme, ?_⟩
  intro exchange
  have hblocked := host_blocked_iff_scheme (h := blockingA.newHandle.withUrl (utf8 "http://a/x"))
    hmake hforbids [] .text exchange
  exact hblocked.1.2 hscheme

/-- Not every transfer to a blocked host is stopped: without a scheme it goes on, and succeeds. -/
theorem schemeless_url_reaches_blocked_host :
    make 0 blockingA.config {} = .ok blockingA ∧ Forbids blockingA.config (utf8 "a/x")
      ∧ let performed := blockingA.perform (blockingA.newHandle.withUrl (utf8 "a/x")) [] .text
          { status := 200, chunks := [utf8 "hello"] }
        performed.wire.map (·.url) = some (utf8 "a/x") ∧ ¬RefusesHost performed.result
          ∧ performed.result.failed = false ∧ performed.result.body = utf8 "hello" := by
  have hscheme : Url.hasScheme (utf8 "a/x") = false := by decide
  have hfree : ¬CoversHost blockingA.policy (utf8 "a/x") := by
    intro hcovers
    rw [scheme_of_coversHost hcovers] at hscheme
    cases hscheme
  have hperform := perform_of_not_coversHost (t := blockingA)
    (h := blockingA.newHandle.withUrl (utf8 "a/x")) hfree [] .text
    { status := 200, chunks := [utf8 "hello"] }
  exact ⟨rfl, forbids_a (by decide +kernel), by decide +kernel, hperform.2, by decide +kernel,
    by decide +kernel⟩

end Transport

end MeteredHttp
