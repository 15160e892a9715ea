import MeteredHttp.Proofs.Network.Bits
import MeteredHttp.Proofs.Network.Notation

/-!
# Membership in address ranges

A policy refuses an address if a range of its list holds it, and names the first one that does.

* `Cidr.Holds` is membership: the address agrees with that of the range in the bits that count.
* `Ipv6.agreeOn_ofIpv4` and `Ipv6.agreeOn_mapped` say what this means for IPv4 addresses, whose 32
  bits follow 96 bits that are the same for all of them.
* **`Policy.blocked_iff_member`** says that the verdict of a policy is membership.
-/

namespace MeteredHttp

/-! ## IPv4 addresses among the IPv6 addresses -/

namespace Ipv4

/-- The address as a number of 32 bits. -/
def toNat (address : Ipv4) : Nat :=
  ((address.a.toNat * 256 + address.b.toNat) * 256 + address.c.toNat) * 256 + address.d.toNat

/-- A bit of an address, the highest one being the first. -/
def bit (address : Ipv4) (i : Nat) : Bool := address.toNat.testBit (31 - i)

lemma toNat_lt (address : Ipv4) : address.toNat < 2 ^ 32 := by
  have ha : address.a.toNat < 256 := address.a.toNat_lt
  have hb : address.b.toNat < 256 := address.b.toNat_lt
  have hc : address.c.toNat < 256 := address.c.toNat_lt
  have hd : address.d.toNat < 256 := address.d.toNat_lt
  simp only [toNat]
  omega

end Ipv4

namespace Ipv6

variable {x y v : Ipv4} {address : Ipv6} {n i : Nat}

lemma toNat_group (a b : UInt8) :
    (a.toNat * 256 + b.toNat).toUInt16.toNat = a.toNat * 256 + b.toNat := by
  have ha : a.toNat < 256 := a.toNat_lt
  have hb : b.toNat < 256 := b.toNat_lt
  exact Nat.mod_eq_of_lt (by omega)

lemma toNat_ofIpv4 (v : Ipv4) : (ofIpv4 v).toNat = 2 ^ 32 * 0xffff + v.toNat := by
  have hzero : (0 : UInt16).toNat = 0 := rfl
  have hmark : (0xffff : UInt16).toNat = 0xffff := rfl
  simp only [toNat, ofIpv4, Vector.toList_mk, List.foldl_cons, List.foldl_nil, toNat_group, hzero,
    hmark, Ipv4.toNat]
  omega

lemma bit_ofIpv4_front (hi : i < 96) : (ofIpv4 x).bit i = (ofIpv4 y).bit i := by
  have hle : ¬127 - i < 32 := by omega
  simp only [bit, toNat_ofIpv4, Nat.testBit_two_pow_mul_add _ (Ipv4.toNat_lt _), hle, if_false]

lemma bit_ofIpv4_back (hi : i < 32) : (ofIpv4 v).bit (96 + i) = v.bit i := by
  have heq : 127 - (96 + i) = 31 - i := by omega
  rw [bit, toNat_ofIpv4, Nat.testBit_two_pow_mul_add _ v.toNat_lt, heq, if_pos (by omega), Ipv4.bit]

/-- IPv4 addresses are compared by their own bits. -/
lemma agreeOn_ofIpv4 (hn : n ≤ 32) :
    AgreeOn (96 + n) (ofIpv4 x) (ofIpv4 y) ↔ ∀ i < n, x.bit i = y.bit i := by
  constructor
  · intro h i hi
    have hbit := h (96 + i) (by omega)
    rwa [bit_ofIpv4_back (by omega), bit_ofIpv4_back (by omega)] at hbit
  · intro h i hi
    by_cases hfront : i < 96
    · exact bit_ofIpv4_front hfront
    · obtain ⟨k, rfl⟩ := Nat.exists_eq_add_of_le (Nat.le_of_not_lt hfront)
      rw [bit_ofIpv4_back (by omega), bit_ofIpv4_back (by omega)]
      exact h k (by omega)

/-- The first 96 bits are a number. -/
lemma AgreeOn.div_eq {y : Ipv6} (h : AgreeOn 96 address y) :
    address.toNat / 2 ^ 32 = y.toNat / 2 ^ 32 := by
  apply Nat.eq_of_testBit_eq
  intro j
  rw [Nat.testBit_div_two_pow, Nat.testBit_div_two_pow]
  by_cases hj : j < 96
  · have hbit := h (95 - j) (by omega)
    rwa [bit, bit, show 127 - (95 - j) = j + 32 by omega] at hbit
  · have hle : 2 ^ 128 ≤ 2 ^ (j + 32) := Nat.pow_le_pow_right (by omega) (by omega)
    rw [Nat.testBit_lt_two_pow (address.toNat_lt.trans_le hle),
      Nat.testBit_lt_two_pow (y.toNat_lt.trans_le hle)]

/-- A group is put together from its bytes. -/
lemma group_of_bytes (g : UInt16) :
    ((g.toNat / 256).toUInt8.toNat * 256 + (g.toNat % 256).toUInt8.toNat).toUInt16 = g := by
  have hsum : g.toNat / 256 * 256 + g.toNat % 256 = g.toNat := by omega
  rw [toNat_highByte, toNat_lowByte, hsum]
  simp

/-- The first 96 bits tell whether an address is an IPv4 address. -/
lemma agreeOn_mapped : AgreeOn 96 address (ofIpv4 x) ↔ ∃ v, address = ofIpv4 v := by
  constructor
  · intro h
    have hmark : address.toNat / 2 ^ 32 = 0xffff := by
      rw [h.div_eq, toNat_ofIpv4, Nat.mul_add_div (by omega), Nat.div_eq_of_lt x.toNat_lt]
    refine ⟨address.lastIpv4, ?_⟩
    -- The number of the first six groups has one notation in base 65536.
    rcases address with ⟨⟨⟨groups⟩, hsize⟩⟩
    match groups, hsize with
    | [a, b, c, d, e, f, g, k], _ =>
      simp only [toNat, Vector.toList_mk, List.foldl_cons, List.foldl_nil] at hmark
      have hg : g.toNat < 65536 := g.toNat_lt
      have hk : k.toNat < 65536 := k.toNat_lt
      obtain ⟨ha, hb, hc, hd, he, hf⟩ : a.toNat = 0 ∧ b.toNat = 0 ∧ c.toNat = 0 ∧ d.toNat = 0
          ∧ e.toNat = 0 ∧ f.toNat = 0xffff := by omega
      obtain rfl : a = 0 := UInt16.toNat_inj.1 ha
      obtain rfl : b = 0 := UInt16.toNat_inj.1 hb
      obtain rfl : c = 0 := UInt16.toNat_inj.1 hc
      obtain rfl : d = 0 := UInt16.toNat_inj.1 hd
      obtain rfl : e = 0 := UInt16.toNat_inj.1 he
      obtain rfl : f = 0xffff := UInt16.toNat_inj.1 hf
      exact congrArg₂ (fun g h => (⟨#v[0, 0, 0, 0, 0, 0xffff, g, h]⟩ : Ipv6))
        (group_of_bytes g).symm (group_of_bytes k).symm
  · rintro ⟨v, rfl⟩ i hi
    exact bit_ofIpv4_front hi

end Ipv6

/-! ## Ranges -/

namespace Cidr

open Ipv6 (AgreeOn)

/-- The address agrees with that of the range in the bits that count. -/
def Holds (range : Cidr) (address : Ipv6) : Prop := AgreeOn range.bits address range.base

instance (range : Cidr) (address : Ipv6) : Decidable (range.Holds address) :=
  inferInstanceAs (Decidable (AgreeOn range.bits address range.base))

variable {range range' : Cidr} {base v : Ipv4} {address : Ipv6}

lemma contains_network (range : Cidr) (text : Bytes) (address : Ipv6) :
    (range.network text).contains address = decide (range.Holds address) := by
  rw [Bool.eq_iff_iff, Network.contains_iff, decide_eq_true_iff]
  rfl

/-- The bits of the address of a range that do not count do not matter. -/
lemma holds_congr (hbits : range.bits = range'.bits)
    (hbase : AgreeOn range.bits range.base range'.base) :
    range.Holds address ↔ range'.Holds address := by
  constructor
  · intro h i hi
    rw [← hbits] at hi
    exact (h i hi).trans (hbase i hi)
  · intro h i hi
    exact (h i (hbits ▸ hi)).trans (hbase i hi).symm

lemma holds_ofIpv4 {length : Option (Fin 33)} :
    (Cidr.v4 base length).Holds (.ofIpv4 v)
      ↔ ∀ i < length.elim 32 Fin.val, v.bit i = base.bit i := by
  refine Ipv6.agreeOn_ofIpv4 ?_
  cases length with
  | none => exact Nat.le_refl 32
  | some n => exact Nat.le_of_lt_succ n.isLt

/-- An IPv4 range that leaves all bits open holds the IPv4 addresses and no others. -/
lemma holds_of_zero : (Cidr.v4 base (some 0)).Holds address ↔ ∃ v, address = .ofIpv4 v :=
  Ipv6.agreeOn_mapped

end Cidr

/-! ## Policies -/

namespace Policy

open Ipv6 (AgreeOn)

variable {ranges : List Cidr} {texts : List Bytes}

lemma readNetwork_of_writes {range : Cidr} {text : Bytes} (h : range.Writes text) :
    readNetwork text = .ok (range.network text) :=
  readNetwork_eq_ok.2 (Network.parse_of_writes h)

/-- The ranges of a policy are those that are written. -/
lemma networks_of_writes (hwritten : List.Forall₂ Cidr.Writes ranges texts)
    {networks : List Network}
    (hread : List.Forall₂ (fun text network => readNetwork text = .ok network) texts networks) :
    networks = (ranges.zip texts).map fun written => written.1.network written.2 := by
  induction hwritten generalizing networks with
  | nil =>
    cases hread
    rfl
  | cons hfirst _ ih =>
    cases hread with
    | cons hnetwork hrest =>
      rw [readNetwork_of_writes hfirst] at hnetwork
      rw [ih hrest, ← Except.ok.inj hnetwork]
      rfl

lemma exists_ofLists (hwritten : List.Forall₂ Cidr.Writes ranges texts) :
    ∃ policy, ofLists texts [] = .ok policy := by
  refine ⟨⟨(ranges.zip texts).map fun written => written.1.network written.2, []⟩, ?_⟩
  refine ofLists_eq_ok.2 ⟨?_, .nil⟩
  induction hwritten with
  | nil => exact .nil
  | cons hfirst _ ih => exact .cons (readNetwork_of_writes hfirst) ih

/-- **The verdict on an address is membership.**  A policy is built from the notations of ranges:

* it can be built, and whatever its patterns are, it refuses an address with the first range that
  holds it;
* an IPv4 range holds an IPv4 address, in either form, if the leading bits of the two are the same;
* ranges that differ in the other bits of their addresses hold the same; and
* an IPv4 range of length zero holds the IPv4 addresses and no others. -/
theorem blocked_iff_member (hwritten : List.Forall₂ Cidr.Writes ranges texts) :
    (∃ policy, ofLists texts [] = .ok policy)
      ∧ (∀ patterns policy, ofLists texts patterns = .ok policy → ∀ address : SocketAddress,
          policy.blockedAddress? address = address.mapped?.bind fun mapped =>
            ((ranges.zip texts).find? fun written => decide (written.1.Holds mapped)).map
              fun written => written.1.network written.2)
      ∧ (∀ (base v : Ipv4) (length : Option (Fin 33)),
          (Cidr.v4 base length).Holds (.ofIpv4 v)
            ↔ ∀ i < length.elim 32 Fin.val, v.bit i = base.bit i)
      ∧ (∀ range range' : Cidr, range.bits = range'.bits →
          AgreeOn range.bits range.base range'.base →
            ∀ address, range.Holds address ↔ range'.Holds address)
      ∧ ∀ (base : Ipv4) (address : Ipv6),
          (Cidr.v4 base (some 0)).Holds address ↔ ∃ v, address = .ofIpv4 v := by
  refine ⟨exists_ofLists hwritten, ?_, fun _ _ _ => Cidr.holds_ofIpv4,
    fun _ _ hbits hbase _ => Cidr.holds_congr hbits hbase, fun _ _ => Cidr.holds_of_zero⟩
  intro patterns policy hlists address
  have hnetworks := networks_of_writes hwritten (ofLists_eq_ok.1 hlists).1
  rw [blockedAddress?]
  congr 1
  funext mapped
  rw [hnetworks, List.find?_map]
  simp only [Function.comp_def, Cidr.contains_network]

/-- A range of each family. -/
def fenced : List Bytes := [utf8 "10.0.0.0/8", utf8 "fd00::/8"]

theorem blocked_iff_member_fenced :
    ∃ policy, ofLists fenced [] = .ok policy
      ∧ (policy.blockedAddress? (.v6 (.ofIpv4 ⟨10, 20, 30, 40⟩))).map (·.text)
        = some (utf8 "10.0.0.0/8")
      ∧ (policy.blockedAddress? (.v4 ⟨11, 0, 0, 1⟩)).map (·.text) = none := by
  have hfirst : (Cidr.v4 ⟨10, 0, 0, 0⟩ (some 8)).Writes (utf8 "10.0.0.0/8") :=
    Network.writes_v4_iff.2
      ⟨Ipv4.parse?_eq_some.1 rfl, [56], by decide, Numeral.readAll?_eq_some.1 rfl⟩
  have hsecond : (Cidr.v6 ⟨#v[0xfd00, 0, 0, 0, 0, 0, 0, 0]⟩ (some 8)).Writes (utf8 "fd00::/8") :=
    Network.writes_v6_iff.2
      ⟨Ipv6.parse?_eq_some.1 rfl, [56], by decide, Numeral.readAll?_eq_some.1 rfl⟩
  have hwritten : List.Forall₂ Cidr.Writes _ fenced := .cons hfirst (.cons hsecond .nil)
  obtain ⟨⟨policy, hpolicy⟩, hverdict, -⟩ := blocked_iff_member hwritten
  refine ⟨policy, hpolicy, ?_, ?_⟩
  · rw [hverdict [] policy hpolicy]
    decide +kernel
  · rw [hverdict [] policy hpolicy]
    decide +kernel

end Policy

end MeteredHttp
