import MeteredHttp.Proofs.Address
import MeteredHttp.Proofs.Policy

/-!
# The notation of address ranges

A range is written as an address, alone or with a slash and a length behind it.

* `Cidr` is such a range, and `Cidr.Writes` the grammar of its notations.
* `Network.seen` is what is looked at of a text: what stands before the slash ends at its first NUL
  byte there.  `Network.parse_eq_ok` says that a text is accepted if this is a notation, and how it
  is read then.
* **`Network.accepted_iff_written`** concludes when a text is accepted exactly if it is a notation.
-/

namespace MeteredHttp

/-! ## The grammar -/

/-- A range as it can be written: an address, and the number of its leading bits that count unless
all of them do. -/
inductive Cidr where
  | v4 (address : Ipv4) (length : Option (Fin 33))
  | v6 (address : Ipv6) (length : Option (Fin 129))

namespace Cidr

/-- The address as 128 bits. -/
def base : Cidr → Ipv6
  | .v4 address _ => .ofIpv4 address
  | .v6 address _ => address

/-- How many of the 128 bits count. -/
def bits : Cidr → Nat
  | .v4 _ length => 96 + length.elim 32 Fin.val
  | .v6 _ length => length.elim 128 Fin.val

lemma bits_le (range : Cidr) : range.bits ≤ 128 := by
  rcases range with ⟨address, _ | n⟩ | ⟨address, _ | n⟩
  · simp [bits]
  · have hn : n.val < 33 := n.isLt
    simp only [bits, Option.elim_some]
    omega
  · simp [bits]
  · exact Nat.le_of_lt_succ n.isLt

/-- The range that is read from a text. -/
def network (range : Cidr) (text : Bytes) : Network := ⟨range.base, range.bits, text, range.bits_le⟩

/-- What can follow an address: nothing, or a slash and decimal digits. -/
def WritesLength {width : Nat} (length : Option (Fin (width + 1))) (text : Bytes) : Prop :=
  match length with
  | none => text = []
  | some n => ∃ digits, text = 47 :: digits ∧ Numeral.Writes 10 digits n

/-- The notations of a range. -/
inductive Writes : Cidr → Bytes → Prop
  | v4 (address : Ipv4) {length suffix} (h : WritesLength length suffix) :
    Writes (.v4 address length) (address.render ++ suffix)
  | v6 {literal address length suffix} (hliteral : Ipv6.Literal literal address)
      (h : WritesLength length suffix) :
    Writes (.v6 address length) (literal ++ suffix)

end Cidr

namespace Network

variable {text suffix : Bytes}

/-! ## Parts of a text -/

/-- What stands before the first slash. -/
def addressPart (text : Bytes) : Bytes := text.takeWhile (· ≠ 47)

/-- The first slash, and what follows it. -/
def lengthPart (text : Bytes) : Bytes := text.dropWhile (· ≠ 47)

/-- What is looked at of a text.  Of what stands before the first slash this is the part before the
first NUL byte. -/
def seen (text : Bytes) : Bytes := (addressPart text).untilNul ++ lengthPart text

/-- Nothing, or a text that begins with a slash. -/
def IsSuffix (suffix : Bytes) : Prop := suffix = [] ∨ ∃ rest, suffix = 47 :: rest

lemma addressPart_append_lengthPart (text : Bytes) : addressPart text ++ lengthPart text = text :=
  List.takeWhile_append_dropWhile

lemma slash_not_mem_addressPart (text : Bytes) : 47 ∉ addressPart text :=
  Bytes.not_mem_takeWhile_ne 47 text

lemma isSuffix_lengthPart (text : Bytes) : IsSuffix (lengthPart text) := by
  cases hlength : lengthPart text with
  | nil => exact .inl rfl
  | cons b rest =>
    obtain rfl := Bytes.eq_of_dropWhile_ne hlength
    exact .inr ⟨rest, rfl⟩

lemma isSuffix_of_writesLength {width : Nat} {length : Option (Fin (width + 1))}
    (h : Cidr.WritesLength length suffix) : IsSuffix suffix := by
  cases length with
  | none => exact .inl h
  | some n =>
    obtain ⟨digits, rfl, -⟩ := h
    exact .inr ⟨digits, rfl⟩

lemma parts_append {address : Bytes} (haddress : 47 ∉ address) (hsuffix : IsSuffix suffix) :
    addressPart (address ++ suffix) = address ∧ lengthPart (address ++ suffix) = suffix := by
  have hall := Bytes.all_ne_of_not_mem haddress
  rw [addressPart, lengthPart, List.takeWhile_append_of_pos hall, List.dropWhile_append_of_pos hall]
  rcases hsuffix with rfl | ⟨rest, rfl⟩
  · simp
  · simp

lemma splitLength_eq (text : Bytes) :
    splitLength text = (addressPart text, (lengthPart text).tail?) := by
  have hfree : ¬[47] <:+: addressPart text ++ [] := by
    rw [Bytes.infix_append_of_not_mem (slash_not_mem_addressPart text)]
    simp
  have htext := addressPart_append_lengthPart text
  rcases isSuffix_lengthPart text with hsuffix | ⟨rest, hsuffix⟩
  · have hcut : Bytes.cut? text [47] = none := by
      rw [hsuffix] at htext
      rwa [Bytes.cut?_eq_none, ← htext]
    rw [hsuffix, List.append_nil] at htext
    simp [splitLength, hcut, hsuffix, htext]
  · have hcut : Bytes.cut? text [47] = some (addressPart text, rest) := by
      have hwhole := Bytes.cut?_append (by simp) hfree rest
      rwa [List.append_assoc, List.singleton_append, ← hsuffix, htext] at hwhole
    simp [splitLength, hcut, hsuffix]

/-! ## Reading -/

lemma exists_of_readLength? {width n : Nat} {hn : n ≤ width} (hsuffix : IsSuffix suffix)
    (h : readLength? width suffix.tail? = some ⟨n, hn⟩) :
    ∃ length : Option (Fin (width + 1)), Cidr.WritesLength length suffix
      ∧ length.elim width Fin.val = n := by
  rcases hsuffix with rfl | ⟨digits, rfl⟩
  · simp only [List.tail?_nil, readLength?, Option.some.injEq, Subtype.mk.injEq] at h
    exact ⟨none, rfl, h⟩
  · simp only [List.tail?_cons, readLength?] at h
    split at h
    next m hread =>
      split at h
      next hm =>
        obtain rfl : m = n := by simpa using h
        exact ⟨some ⟨m, Nat.lt_succ_of_le hm⟩, ⟨digits, rfl, Numeral.readAll?_eq_some.1 hread⟩, rfl⟩
      next => cases h
    next => cases h

lemma readLength?_of_writes {width : Nat} {length : Option (Fin (width + 1))}
    (h : Cidr.WritesLength length suffix) :
    ∃ hn, readLength? width suffix.tail? = some ⟨length.elim width Fin.val, hn⟩ := by
  cases length with
  | none =>
    obtain rfl : suffix = [] := h
    exact ⟨Nat.le_refl width, rfl⟩
  | some n =>
    obtain ⟨digits, rfl, hdigits⟩ := h
    have hn : n.val ≤ width := Nat.le_of_lt_succ n.isLt
    exact ⟨hn, by simp [readLength?, Numeral.readAll?_eq_some.2 hdigits, hn]⟩

/-- The parts of a notation are the address and the length. -/
lemma writes_v4_iff {address : Ipv4} {length : Option (Fin 33)} :
    (Cidr.v4 address length).Writes text
      ↔ addressPart text = address.render ∧ Cidr.WritesLength length (lengthPart text) := by
  constructor
  · intro h
    cases h with
    | v4 address h =>
      have hslash : 47 ∉ address.render := by
        intro hmem
        exact absurd (Ipv4.of_mem_render hmem) (by decide)
      obtain ⟨haddress, hlength⟩ := parts_append hslash (isSuffix_of_writesLength h)
      rw [haddress, hlength]
      exact ⟨rfl, h⟩
  · rintro ⟨haddress, hlength⟩
    rw [← addressPart_append_lengthPart text, haddress]
    exact .v4 address hlength

lemma writes_v6_iff {address : Ipv6} {length : Option (Fin 129)} :
    (Cidr.v6 address length).Writes text
      ↔ Ipv6.Literal (addressPart text) address ∧ Cidr.WritesLength length (lengthPart text) := by
  constructor
  · intro h
    cases h with
    | @v6 literal _ _ _ hliteral h =>
      have hslash : 47 ∉ literal := by
        intro hmem
        exact absurd (hliteral.of_mem hmem) (by decide)
      obtain ⟨haddress, hlength⟩ := parts_append hslash (isSuffix_of_writesLength h)
      rw [haddress, hlength]
      exact ⟨hliteral, h⟩
  · rintro ⟨haddress, hlength⟩
    rw [← addressPart_append_lengthPart text]
    exact .v6 haddress hlength

lemma parts_seen (text : Bytes) :
    addressPart (seen text) = (addressPart text).untilNul
      ∧ lengthPart (seen text) = lengthPart text := by
  refine parts_append ?_ (isSuffix_lengthPart text)
  intro h
  exact slash_not_mem_addressPart text (List.takeWhile_subset _ h)

/-- An IPv6 address is not taken for an IPv4 address, which has no colon. -/
lemma ipv4_parse?_of_literal {address : Ipv6} (h : Ipv6.Literal text address) :
    Ipv4.parse? text = none := by
  rw [Option.eq_none_iff_forall_ne_some]
  intro v4 hv4
  obtain rfl := Ipv4.parse?_eq_some.1 hv4
  exact v4.colon_not_mem_render h.colon_mem

lemma parse_of_v4 {address : Ipv4} {network : Network}
    (hv4 : Ipv4.parse? (addressPart text).untilNul = some address) :
    parse text = .ok network
      ↔ ∃ length, Cidr.WritesLength length (lengthPart text)
          ∧ network = (Cidr.v4 address length).network text := by
  simp only [parse, splitLength_eq, hv4]
  constructor
  · intro h
    split at h
    next n hn hread =>
      obtain ⟨length, hwrites, rfl⟩ := exists_of_readLength? (isSuffix_lengthPart text) hread
      exact ⟨length, hwrites, (Except.ok.inj h).symm⟩
    next => cases h
  · rintro ⟨length, hwrites, rfl⟩
    obtain ⟨hn, hread⟩ := readLength?_of_writes hwrites
    rw [hread]
    rfl

lemma parse_of_v6 {address : Ipv6} {network : Network}
    (hv4 : Ipv4.parse? (addressPart text).untilNul = none)
    (hv6 : Ipv6.parse? (addressPart text).untilNul = some address) :
    parse text = .ok network
      ↔ ∃ length, Cidr.WritesLength length (lengthPart text)
          ∧ network = (Cidr.v6 address length).network text := by
  simp only [parse, splitLength_eq, hv4, hv6]
  constructor
  · intro h
    split at h
    next n hn hread =>
      obtain ⟨length, hwrites, rfl⟩ := exists_of_readLength? (isSuffix_lengthPart text) hread
      exact ⟨length, hwrites, (Except.ok.inj h).symm⟩
    next => cases h
  · rintro ⟨length, hwrites, rfl⟩
    obtain ⟨hn, hread⟩ := readLength?_of_writes hwrites
    rw [hread]
    rfl

/-- **What is looked at of a text is a notation of the range that is read.** -/
lemma parse_eq_ok {network : Network} :
    parse text = .ok network
      ↔ ∃ range : Cidr, range.Writes (seen text) ∧ network = range.network text := by
  obtain ⟨haddress, hlength⟩ := parts_seen text
  constructor
  · intro h
    cases hv4 : Ipv4.parse? (addressPart text).untilNul with
    | some address =>
      obtain ⟨length, hwrites, rfl⟩ := (parse_of_v4 hv4).1 h
      refine ⟨.v4 address length, writes_v4_iff.2 ⟨?_, ?_⟩, rfl⟩
      · rw [haddress, Ipv4.parse?_eq_some.1 hv4]
      · rwa [hlength]
    | none =>
      cases hv6 : Ipv6.parse? (addressPart text).untilNul with
      | some address =>
        obtain ⟨length, hwrites, rfl⟩ := (parse_of_v6 hv4 hv6).1 h
        refine ⟨.v6 address length, writes_v6_iff.2 ⟨?_, ?_⟩, rfl⟩
        · rw [haddress]
          exact Ipv6.parse?_eq_some.1 hv6
        · rwa [hlength]
      | none => simp [parse, splitLength_eq, hv4, hv6] at h
  · rintro ⟨range, hrange, rfl⟩
    cases range with
    | v4 address length =>
      rw [writes_v4_iff, haddress, hlength] at hrange
      obtain ⟨hrender, hwrites⟩ := hrange
      exact (parse_of_v4 (Ipv4.parse?_eq_some.2 hrender)).2 ⟨length, hwrites, rfl⟩
    | v6 address length =>
      rw [writes_v6_iff, haddress, hlength] at hrange
      obtain ⟨hliteral, hwrites⟩ := hrange
      -- IPv4 is tried first, and must fail.
      exact (parse_of_v6 (ipv4_parse?_of_literal hliteral) (Ipv6.parse?_eq_some.2 hliteral)).2
        ⟨length, hwrites, rfl⟩

/-! ## Texts that are accepted -/

lemma nul_not_mem_of_writes {range : Cidr} (h : range.Writes text) : 0 ∉ addressPart text := by
  cases range with
  | v4 address length =>
    rw [(writes_v4_iff.1 h).1]
    intro hmem
    exact absurd (Ipv4.of_mem_render hmem) (by decide)
  | v6 address length =>
    intro hmem
    exact absurd ((writes_v6_iff.1 h).1.of_mem hmem) (by decide)

/-- Without NUL bytes before the slash all of the text is looked at. -/
lemma seen_of_nul_free (h : 0 ∉ addressPart text) : seen text = text := by
  rw [seen, Bytes.untilNul_of_nul_free h, addressPart_append_lengthPart]

/-- A notation is read as the range that it is a notation of. -/
lemma parse_of_writes {range : Cidr} (h : range.Writes text) :
    parse text = .ok (range.network text) := by
  refine parse_eq_ok.2 ⟨range, ?_, rfl⟩
  rwa [seen_of_nul_free (nul_not_mem_of_writes h)]

lemma exists_parse_iff (text : Bytes) :
    (∃ network, parse text = .ok network) ↔ ∃ range : Cidr, range.Writes (seen text) := by
  constructor
  · rintro ⟨network, hparse⟩
    obtain ⟨range, hrange, -⟩ := parse_eq_ok.1 hparse
    exact ⟨range, hrange⟩
  · rintro ⟨range, hrange⟩
    exact ⟨_, parse_eq_ok.2 ⟨range, hrange, rfl⟩⟩

/-- **Which texts are accepted.**

* A text is accepted, and read as a range, if what is looked at of it is a notation of that range.
* So the texts that are accepted are the notations, unless there is a NUL byte before the slash and
  what is looked at is a notation nevertheless.
* The ranges of a configuration are such texts. -/
theorem accepted_iff_written (text : Bytes) :
    (∀ network, parse text = .ok network
        ↔ ∃ range : Cidr, range.Writes (seen text) ∧ network = range.network text)
      ∧ (((∃ network, parse text = .ok network) ↔ ∃ range : Cidr, range.Writes text)
          ↔ (0 ∈ addressPart text → ∀ range : Cidr, ¬range.Writes (seen text)))
      ∧ ∀ (config : ClientConfig) policy, config.policy = .ok policy →
          text ∈ config.blacklistIps → ∃ range : Cidr, range.Writes (seen text) := by
  refine ⟨fun network => parse_eq_ok, ?_, ?_⟩
  · rw [exists_parse_iff]
    by_cases hnul : 0 ∈ addressPart text
    · have hnone : ¬∃ range : Cidr, range.Writes text := by
        rintro ⟨range, hrange⟩
        exact nul_not_mem_of_writes hrange hnul
      rw [iff_false_right hnone, not_exists]
      exact ⟨fun h _ => h, fun h => h hnul⟩
    · rw [seen_of_nul_free hnul]
      exact iff_of_true Iff.rfl fun h => absurd h hnul
  · intro config policy hpolicy htext
    obtain ⟨network, -, hparse⟩ :=
      Policy.exists_network_of_ofLists (ClientConfig.ofLists_of_policy hpolicy) htext
    exact (exists_parse_iff text).1 ⟨network, hparse⟩

/-- A text with garbage behind a NUL byte. -/
def hidden : Bytes := utf8 "10.0.0.0" ++ 0 :: utf8 "x/8"

/-- It is no notation of a range, and yet it is accepted, also in a configuration. -/
theorem hidden_garbage_is_accepted :
    (∀ range : Cidr, ¬range.Writes hidden)
      ∧ parse hidden = .ok ((Cidr.v4 ⟨10, 0, 0, 0⟩ (some 8)).network hidden)
      ∧ ∃ policy, ({ blacklistIps := [hidden] } : ClientConfig).policy = .ok policy := by
  refine ⟨?_, ?_, ?_⟩
  · intro range h
    exact nul_not_mem_of_writes h (by decide)
  · rfl
  · exact ⟨_, rfl⟩

end Network

end MeteredHttp
