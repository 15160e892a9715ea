import MeteredHttp.Proofs.Bytes
import MeteredHttp.Proofs.Policy

/-!
# Patterns of hosts

A policy refuses a host if a pattern of its list matches it, and names the first one that does.

* `HostPattern.Writes` is the grammar of patterns, and `HostPattern.parse?_eq_some` says that
  nothing else is read.
* `HostPattern.Matches` says what a pattern means, in terms of the text that it is written as.
  `HostPattern.Writes.covers_iff` says that this is what is looked for.
* **`Policy.blocked_iff_matches`** puts them together for the lists of a policy.
-/

namespace MeteredHttp

/-! ## Letter case -/

namespace Bytes

/-- The same byte, or the two cases of a letter. -/
inductive SameLetter : UInt8 → UInt8 → Prop
  | same (b : UInt8) : SameLetter b b
  | capital {b : UInt8} (h : 65 ≤ b ∧ b ≤ 90) : SameLetter b (b + 32)
  | small {b : UInt8} (h : 65 ≤ b ∧ b ≤ 90) : SameLetter (b + 32) b

/-- Two texts are the same but for the case of their letters. -/
def SameText (s t : Bytes) : Prop := List.Forall₂ SameLetter s t

variable {b c : UInt8} {s t : Bytes}

lemma lowerByte_of_capital (h : 65 ≤ b ∧ b ≤ 90) :
    lowerByte b = b + 32 ∧ lowerByte (b + 32) = b + 32 := by
  have hsmall : ¬(65 ≤ b + 32 ∧ b + 32 ≤ 90) := by grind
  exact ⟨if_pos h, if_neg hsmall⟩

lemma lowerByte_eq_iff : lowerByte b = lowerByte c ↔ SameLetter b c := by
  constructor
  · intro h
    by_cases hb : 65 ≤ b ∧ b ≤ 90
    · by_cases hc : 65 ≤ c ∧ c ≤ 90
      · rw [(lowerByte_of_capital hb).1, (lowerByte_of_capital hc).1, UInt8.add_left_inj] at h
        exact h ▸ .same b
      · rw [(lowerByte_of_capital hb).1, lowerByte, if_neg hc] at h
        exact h ▸ .capital hb
    · by_cases hc : 65 ≤ c ∧ c ≤ 90
      · rw [(lowerByte_of_capital hc).1, lowerByte, if_neg hb] at h
        exact h ▸ .small hc
      · rw [lowerByte, lowerByte, if_neg hb, if_neg hc] at h
        exact h ▸ .same b
  · intro h
    cases h with
    | same => rfl
    | capital h => rw [(lowerByte_of_capital h).1, (lowerByte_of_capital h).2]
    | small h => rw [(lowerByte_of_capital h).1, (lowerByte_of_capital h).2]

/-- **Texts are the same but for case if their forms in lower case are.** -/
lemma lower_eq_iff : s.lower = t.lower ↔ SameText s t := by
  have hbytes : (fun b c => lowerByte b = lowerByte c) = SameLetter := by
    funext b c
    exact propext lowerByte_eq_iff
  rw [lower, lower, ← List.forall₂_eq_eq_eq, List.forall₂_map_left_iff, List.forall₂_map_right_iff,
    hbytes]
  rfl

lemma SameText.symm (h : SameText s t) : SameText t s := lower_eq_iff.1 (lower_eq_iff.2 h).symm

/-- Other bytes than letters have to be the same. -/
lemma SameLetter.eq_of_not_letter (h : SameLetter b c) (hb : isLetter b = false) : b = c := by
  cases h with
  | same => rfl
  | capital h => grind [isLetter]
  | small h => grind [isLetter]

lemma SameText.mem_iff (h : SameText s t) (hb : isLetter b = false) : b ∈ s ↔ b ∈ t := by
  induction h with
  | nil => rfl
  | @cons first first' rest rest' hfirst _ ih =>
    have heq : b = first ↔ b = first' := by
      constructor
      · rintro rfl
        exact hfirst.eq_of_not_letter hb
      · rintro rfl
        have hlower := lowerByte_eq_iff.2 hfirst
        exact (lowerByte_eq_iff.1 hlower.symm).eq_of_not_letter hb
    rw [List.mem_cons, List.mem_cons, heq, ih]

lemma SameText.ne_nil (h : SameText s t) (hs : s ≠ []) : t ≠ [] := by
  rintro rfl
  exact hs (List.forall₂_nil_right_iff.1 h)

lemma lower_append_dot (front domain : Bytes) :
    lower (front ++ 46 :: domain) = front.lower ++ 46 :: domain.lower := by
  have hdot : lowerByte 46 = 46 := rfl
  simp [lower, hdot]

end Bytes

/-! ## Patterns -/

namespace HostPattern

open Bytes (SameText)

/-- What patterns are written as: a name, or `*.` and a domain.  Names and domains are not empty,
and no star is in them. -/
inductive Writes : HostPattern → Bytes → Prop
  | exactly {name : Bytes} (hne : name ≠ []) (hstar : 42 ∉ name) :
    Writes (.exactly name.lower) name
  | below {domain : Bytes} (hne : domain ≠ []) (hstar : 42 ∉ domain) :
    Writes (.below domain.lower) (utf8 "*." ++ domain)

/-- The hosts that a pattern means.  Without a star this is one host, with a star the hosts that
have something in front of a dot and the domain.  Letter case does not count. -/
inductive Matches : Bytes → Bytes → Prop
  | exactly {text host : Bytes} (hstart : ¬utf8 "*." <+: text) (h : SameText host text) :
    Matches text host
  | below {domain front host : Bytes} (hne : front ≠ [])
    (h : SameText host (front ++ 46 :: domain)) : Matches (utf8 "*." ++ domain) host

variable {pattern : HostPattern} {text text' host host' domain name : Bytes}

/-- Where there is no star there is none at the start. -/
lemma not_prefix_of_star_free (h : 42 ∉ name) : ¬utf8 "*." <+: name := by
  intro hstart
  exact h (hstart.subset (by decide))

lemma parse?_of_star (domain : Bytes) :
    parse? (utf8 "*." ++ domain)
      = if domain ≠ [] ∧ 42 ∉ domain then some (.below domain.lower) else none := by
  rw [parse?, Bytes.dropStart?_append]

lemma parse?_of_no_star (h : ¬utf8 "*." <+: text) :
    parse? text = if text ≠ [] ∧ 42 ∉ text then some (.exactly text.lower) else none := by
  rw [parse?, Bytes.dropStart?_eq_none.2 h]

/-- A text is read as the pattern that it writes, and other texts are not read. -/
lemma parse?_eq_some : parse? text = some pattern ↔ pattern.Writes text := by
  constructor
  · intro h
    by_cases hstart : utf8 "*." <+: text
    · obtain ⟨domain, rfl⟩ := hstart
      rw [parse?_of_star] at h
      obtain ⟨⟨hne, hstar⟩, hpattern⟩ := Option.ite_none_right_eq_some.1 h
      rw [← Option.some.inj hpattern]
      exact .below hne hstar
    · rw [parse?_of_no_star hstart] at h
      obtain ⟨⟨hne, hstar⟩, hpattern⟩ := Option.ite_none_right_eq_some.1 h
      rw [← Option.some.inj hpattern]
      exact .exactly hne hstar
  · intro h
    cases h with
    | exactly hne hstar =>
      rw [parse?_of_no_star (not_prefix_of_star_free hstar), if_pos ⟨hne, hstar⟩]
    | below hne hstar => rw [parse?_of_star, if_pos ⟨hne, hstar⟩]

/-- A pattern is shown as it is written, in lower case. -/
lemma Writes.text_eq (h : pattern.Writes text) : pattern.text = text.lower := by
  cases h with
  | exactly => rfl
  | below => rfl

/-- The case of the letters of a pattern does not count. -/
lemma Writes.congr (h : pattern.Writes text) (hsame : SameText text text') :
    pattern.Writes text' := by
  cases h with
  | exactly hne hstar =>
    rw [Bytes.lower_eq_iff.2 hsame]
    exact .exactly (hsame.ne_nil hne) (mt (hsame.mem_iff rfl).2 hstar)
  | @below domain hne hstar =>
    have hparts : SameText (42 :: 46 :: domain) text' := hsame
    obtain ⟨star, rest, hstar', hrest, rfl⟩ := List.forall₂_cons_left_iff.1 hparts
    obtain ⟨dot, domain', hdot, hdomain, rfl⟩ := List.forall₂_cons_left_iff.1 hrest
    obtain rfl := hstar'.eq_of_not_letter rfl
    obtain rfl := hdot.eq_of_not_letter rfl
    rw [Bytes.lower_eq_iff.2 hdomain]
    exact .below (SameText.ne_nil hdomain hne) (mt (SameText.mem_iff hdomain rfl).2 hstar)

/-! ## Hosts -/

lemma matches_of_star_free (h : 42 ∉ name) : Matches name host ↔ SameText host name := by
  constructor
  · intro hmatches
    cases hmatches with
    | exactly _ hsame => exact hsame
    | below => exact absurd (List.mem_append_left _ (by decide)) h
  · exact .exactly (not_prefix_of_star_free h)

lemma matches_of_star :
    Matches (utf8 "*." ++ domain) host
      ↔ ∃ front, front ≠ [] ∧ SameText host (front ++ 46 :: domain) := by
  constructor
  · intro hmatches
    generalize htext : utf8 "*." ++ domain = text at hmatches
    cases hmatches with
    | exactly hstart => exact absurd ⟨domain, htext⟩ hstart
    | @below other front _ hne hsame =>
      obtain rfl := List.append_cancel_left htext
      exact ⟨front, hne, hsame⟩
  · rintro ⟨front, hne, hsame⟩
    exact .below hne hsame

/-- A longer text has a suffix if something stands in front of it. -/
lemma below_covers_iff :
    covers (.below domain.lower) host = true
      ↔ ∃ front, front ≠ [] ∧ SameText host (front ++ 46 :: domain) := by
  simp only [covers, Bool.and_eq_true, decide_eq_true_eq, List.isSuffixOf_iff_suffix]
  constructor
  · rintro ⟨hlength, front, hfront⟩
    refine ⟨host.take front.length, ?_, ?_⟩
    · rintro hnil
      have htotal := congrArg List.length hfront
      simp only [List.length_append, Bytes.lower, List.length_map] at htotal hlength
      simp only [List.take_eq_nil_iff] at hnil
      rcases hnil with hzero | hnil
      · omega
      · simp [hnil] at hlength
    · have htake : Bytes.lower (host.take front.length) = front := by
        rw [Bytes.lower, List.map_take, ← Bytes.lower, ← hfront, List.take_left]
      rw [← Bytes.lower_eq_iff, Bytes.lower_append_dot, htake, hfront]
  · rintro ⟨front, hne, hsame⟩
    have hlower := Bytes.lower_eq_iff.2 hsame
    rw [Bytes.lower_append_dot] at hlower
    refine ⟨?_, Bytes.lower front, hlower.symm⟩
    have htotal := congrArg List.length hlower
    have hpos := List.length_pos_iff.2 hne
    simp only [List.length_append, Bytes.lower, List.length_map, List.length_cons] at htotal ⊢
    omega

/-- The case of the letters of a host does not count. -/
lemma covers_congr (hsame : SameText host host') (pattern : HostPattern) :
    pattern.covers host' = pattern.covers host := by
  have hlower := Bytes.lower_eq_iff.2 hsame
  have hlength := hsame.length_eq
  cases pattern with
  | exactly name => rw [covers, covers, hlower]
  | below domain => rw [covers, covers, hlower, hlength]

/-- What a pattern covers are the hosts that its text means. -/
lemma Writes.covers_iff (h : pattern.Writes text) :
    pattern.covers host = true ↔ Matches text host := by
  cases h with
  | exactly hne hstar =>
    rw [covers, beq_iff_eq, Bytes.lower_eq_iff, matches_of_star_free hstar]
  | below hne hstar => rw [below_covers_iff, matches_of_star]

end HostPattern

/-! ## Policies -/

namespace Policy

open Bytes (SameText)
open HostPattern (Matches)

variable {networks texts texts' : List Bytes} {patterns : List HostPattern} {policy : Policy}

lemma readPattern_eq_ok {text : Bytes} {pattern : HostPattern} :
    readPattern text = .ok pattern ↔ pattern.Writes text := by
  rw [readPattern, ← HostPattern.parse?_eq_some]
  cases HostPattern.parse? text <;> simp

/-- The patterns of a policy are those that are written. -/
lemma writes_of_ofLists (h : ofLists networks texts = .ok policy) :
    List.Forall₂ (fun text pattern => HostPattern.Writes pattern text) texts policy.patterns := by
  have hread := (ofLists_eq_ok.1 h).2
  simpa only [readPattern_eq_ok] using hread

/-- A policy can be built from ranges that can be read and patterns that are well written. -/
lemma exists_ofLists_iff :
    (∃ policy, ofLists networks texts = .ok policy)
      ↔ (∃ policy, ofLists networks [] = .ok policy)
        ∧ ∀ text ∈ texts, ∃ pattern, HostPattern.Writes pattern text := by
  rw [← exists_forall₂_iff]
  constructor
  · rintro ⟨policy, hpolicy⟩
    obtain ⟨hnetworks, -⟩ := ofLists_eq_ok.1 hpolicy
    exact ⟨⟨⟨policy.networks, []⟩, ofLists_eq_ok.2 ⟨hnetworks, .nil⟩⟩, policy.patterns,
      writes_of_ofLists hpolicy⟩
  · rintro ⟨⟨policy, hpolicy⟩, patterns, hpatterns⟩
    refine ⟨⟨policy.networks, patterns⟩, ofLists_eq_ok.2 ⟨(ofLists_eq_ok.1 hpolicy).1, ?_⟩⟩
    simpa only [readPattern_eq_ok] using hpatterns

/-- The case of the letters of the patterns does not count. -/
lemma ofLists_congr (hsame : List.Forall₂ SameText texts texts')
    (h : ofLists networks texts = .ok policy) : ofLists networks texts' = .ok policy := by
  have hwritten := writes_of_ofLists h
  refine ofLists_eq_ok.2 ⟨(ofLists_eq_ok.1 h).1, ?_⟩
  simp only [readPattern_eq_ok]
  clear h
  generalize policy.patterns = patterns at hwritten ⊢
  induction hsame generalizing patterns with
  | nil => exact hwritten
  | cons hfirst _ ih =>
    cases hwritten with
    | cons hpattern hrest => exact .cons (hpattern.congr hfirst) (ih _ hrest)

open scoped Classical in
/-- The first pattern that covers a host is that of the first text that means it. -/
lemma map_text_find?
    (h : List.Forall₂ (fun text pattern => HostPattern.Writes pattern text) texts patterns)
    (host : Bytes) :
    (patterns.find? (·.covers host)).map (·.text)
      = (texts.find? fun text => decide (Matches text host)).map Bytes.lower := by
  induction h with
  | nil => rfl
  | @cons text pattern _ _ hpattern _ ih =>
    rw [List.find?_cons, List.find?_cons]
    by_cases hmatches : Matches text host
    · simp [hpattern.covers_iff.2 hmatches, hmatches, hpattern.text_eq]
    · have hcovers : pattern.covers host = false := by
        rwa [← Bool.not_eq_true, hpattern.covers_iff]
      simpa [hcovers, hmatches] using ih

/-- **The verdict on a host is that of the first pattern which means it.**

* A policy can be built exactly if all patterns are well written (and the ranges, too).
* It names the first pattern that means the host, in lower case, and is silent exactly if none does.
* If the case of letters is changed in the patterns, the policy is the same, and if it is changed in
  the host, the verdict is. -/
theorem blocked_iff_matches (networks texts : List Bytes) :
    ((∃ policy, ofLists networks texts = .ok policy)
        ↔ (∃ policy, ofLists networks [] = .ok policy)
          ∧ ∀ text ∈ texts, ∃ pattern, HostPattern.Writes pattern text)
      ∧ (∀ policy, ofLists networks texts = .ok policy → ∀ host,
          (∀ verdict, (policy.blockedHost? host).map (·.text) = some verdict
              ↔ ∃ front text back, texts = front ++ text :: back ∧ Matches text host
                ∧ (∀ earlier ∈ front, ¬Matches earlier host) ∧ verdict = text.lower)
            ∧ (policy.blockedHost? host = none ↔ ∀ text ∈ texts, ¬Matches text host)
            ∧ ∀ host', SameText host host' → policy.blockedHost? host' = policy.blockedHost? host)
      ∧ ∀ texts', List.Forall₂ SameText texts texts' → ∀ policy,
          ofLists networks texts = .ok policy ↔ ofLists networks texts' = .ok policy := by
  refine ⟨exists_ofLists_iff, ?_, ?_⟩
  · intro policy hpolicy host
    have hverdict := map_text_find? (writes_of_ofLists hpolicy) host
    refine ⟨?_, ?_, ?_⟩
    · intro verdict
      rw [blockedHost?, hverdict]
      simp only [Option.map_eq_some_iff, List.find?_eq_some_iff_append, decide_eq_true_eq,
        Bool.not_eq_true', decide_eq_false_iff_not]
      constructor
      · rintro ⟨text, ⟨hmatches, front, back, htexts, hfront⟩, rfl⟩
        exact ⟨front, text, back, htexts, hmatches, hfront, rfl⟩
      · rintro ⟨front, text, back, htexts, hmatches, hfront, rfl⟩
        exact ⟨text, ⟨hmatches, front, back, htexts, hfront⟩, rfl⟩
    · rw [← Option.map_eq_none_iff, blockedHost?, hverdict]
      simp
    · intro host' hsame
      simp only [blockedHost?, HostPattern.covers_congr hsame]
  · intro texts' hsame policy
    have hsymm : List.Forall₂ SameText texts' texts := by
      refine List.Forall₂.flip ?_
      exact hsame.imp fun _ _ h => h.symm
    exact ⟨ofLists_congr hsame, ofLists_congr hsymm⟩

/-- The hosts below a domain, and one host. -/
def hostTexts : List Bytes := [utf8 "*.Example.com", utf8 "localhost"]

theorem blocked_iff_matches_domain :
    ∃ policy, ofLists [] hostTexts = .ok policy
      ∧ (policy.blockedHost? (utf8 "WWW.example.COM")).map (·.text) = some (utf8 "*.example.com")
      ∧ SameText (utf8 "WWW.example.COM") (utf8 "www.EXAMPLE.com")
      ∧ (policy.blockedHost? (utf8 "www.EXAMPLE.com")).map (·.text) = some (utf8 "*.example.com")
      ∧ policy.blockedHost? (utf8 ".example.com") = none := by
  have hdomain : HostPattern.Writes (.below (utf8 "example.com")) (utf8 "*.Example.com") :=
    @HostPattern.Writes.below (utf8 "Example.com") (by decide) (by decide)
  have hhost : HostPattern.Writes (.exactly (utf8 "localhost")) (utf8 "localhost") :=
    @HostPattern.Writes.exactly (utf8 "localhost") (by decide) (by decide)
  have hpolicy : ofLists [] hostTexts
      = .ok ⟨[], [.below (utf8 "example.com"), .exactly (utf8 "localhost")]⟩ := rfl
  have hsame : SameText (utf8 "WWW.example.COM") (utf8 "www.EXAMPLE.com") :=
    Bytes.lower_eq_iff.1 (by decide)
  have hbelow : Matches (utf8 "*.Example.com") (utf8 "WWW.example.COM") :=
    hdomain.covers_iff.1 (by decide)
  obtain ⟨hverdict, -, hcase⟩ := (blocked_iff_matches [] hostTexts).2.1 _ hpolicy
    (utf8 "WWW.example.COM")
  obtain ⟨-, hsilent, -⟩ := (blocked_iff_matches [] hostTexts).2.1 _ hpolicy (utf8 ".example.com")
  have hnamed := (hverdict (utf8 "*.example.com")).2
    ⟨[], utf8 "*.Example.com", [utf8 "localhost"], rfl, hbelow, by simp, by decide⟩
  refine ⟨_, hpolicy, hnamed, hsame, ?_, hsilent.2 ?_⟩
  · rw [hcase _ hsame]
    exact hnamed
  · intro text htext
    rcases List.mem_pair.1 htext with rfl | rfl
    · rw [← hdomain.covers_iff]
      decide
    · rw [← hhost.covers_iff]
      decide

end Policy

end MeteredHttp
