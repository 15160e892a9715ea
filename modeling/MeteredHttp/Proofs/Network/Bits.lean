import MeteredHttp.Network
import Mathlib.Algebra.Group.Nat.Defs

/-!
# The bits of an address

A range compares addresses byte by byte, the last one under a mask.  What is meant is a comparison
of bits, where an address is a number of 128 bits and the first bit is the highest one.

* `Network.and_leadingMask_eq_iff` is a comparison of two bytes under a mask, and
  `Network.agree_iff` one of two strings of bytes.
* `Ipv6.bit` is a bit of an address, and `Ipv6.bit_eq` finds it in the bytes.
* **`Network.contains_iff`** says that a range compares the bits that count.
-/

namespace MeteredHttp

namespace Network

/-! ## Masks -/

lemma testBit_leadingMask {n : Nat} (hn : n ≤ 8) (j : Nat) :
    (leadingMask n).toNat.testBit j = (decide (8 - n ≤ j) && decide (j < 8)) := by
  by_cases hj : j < 8
  · have hall : ∀ n : Fin 9, ∀ j : Fin 8,
        (leadingMask n.val).toNat.testBit j.val
          = (decide (8 - n.val ≤ j.val) && decide (j.val < 8)) := by
      decide
    exact hall ⟨n, by omega⟩ ⟨j, hj⟩
  · have hlt : (leadingMask n).toNat < 2 ^ j := by
      calc (leadingMask n).toNat < 2 ^ 8 := (leadingMask n).toNat_lt
        _ ≤ 2 ^ j := Nat.pow_le_pow_right (by omega) (by omega)
    simp [Nat.testBit_lt_two_pow hlt, hj]

/-- Under a mask the leading bits of two bytes are compared. -/
lemma and_leadingMask_eq_iff {n : Nat} (hn : n ≤ 8) (a b : UInt8) :
    a &&& leadingMask n = b &&& leadingMask n
      ↔ ∀ i < n, a.toNat.testBit (7 - i) = b.toNat.testBit (7 - i) := by
  rw [← UInt8.toNat_inj, UInt8.toNat_and, UInt8.toNat_and]
  constructor
  · intro h i hi
    have hbit := congrArg (Nat.testBit · (7 - i)) h
    have hlow : 8 - n ≤ 7 - i := by omega
    have hhigh : 7 - i < 8 := by omega
    simpa [Nat.testBit_and, testBit_leadingMask hn, hlow, hhigh] using hbit
  · intro h
    apply Nat.eq_of_testBit_eq
    intro j
    rw [Nat.testBit_and, Nat.testBit_and, testBit_leadingMask hn]
    by_cases hj : 8 - n ≤ j ∧ j < 8
    · have hbit := h (7 - j) (by omega)
      rw [show 7 - (7 - j) = j by omega] at hbit
      rw [hbit]
    · rw [← Bool.decide_and, decide_eq_false hj, Bool.and_false, Bool.and_false]

/-! ## Strings of bytes -/

/-- A bit of a string of bytes, the highest one of the first byte being the first. -/
def bitOf : List UInt8 → Nat → Bool
  | [], _ => false
  | b :: rest, i => if i < 8 then b.toNat.testBit (7 - i) else bitOf rest (i - 8)

/-- **A comparison of bytes is one of bits.** -/
lemma agree_iff {left : Nat} {as bs : List UInt8} (hlength : as.length = bs.length) :
    agree left as bs = true ↔ ∀ i < left, bitOf as i = bitOf bs i := by
  induction as generalizing left bs with
  | nil =>
    obtain rfl := List.length_eq_zero_iff.1 hlength.symm
    simp [agree]
  | cons a as ih =>
    cases bs with
    | nil => cases hlength
    | cons b bs =>
      have hrest : agree (left - min left 8) as bs = true
          ↔ ∀ i < left - min left 8, bitOf as i = bitOf bs i := ih (Nat.succ.inj hlength)
      have hbyte := and_leadingMask_eq_iff (Nat.min_le_right left 8) a b
      rw [agree]
      by_cases hleft : left = 0
      · simp [hleft]
      · simp only [hleft, if_false, ne_eq, ite_not, hbyte]
        -- A bit is one of the first byte or one of the others.
        constructor
        · intro h i hi
          split at h
          next hfirst =>
            by_cases hi' : i < 8
            · simpa [bitOf, hi'] using hfirst i (by omega)
            · simpa [bitOf, hi'] using hrest.1 h (i - 8) (by omega)
          next => cases h
        · intro h
          rw [if_pos ?_, hrest]
          · intro i hi
            have hnext : ¬i + 8 < 8 := by omega
            simpa [bitOf, hnext] using h (i + 8) (by omega)
          · intro i hi
            have hi' : i < 8 := by omega
            simpa [bitOf, hi'] using h i (by omega)

/-! ## Strings of bytes as numbers -/

/-- The number that a string of bytes stands for, the first byte being the highest. -/
def number (bytes : List UInt8) : Nat := bytes.foldl (fun n b => n * 256 + b.toNat) 0

lemma foldl_bytes (bytes : List UInt8) (n : Nat) :
    bytes.foldl (fun n b => n * 256 + b.toNat) n = 2 ^ (8 * bytes.length) * n + number bytes := by
  induction bytes generalizing n with
  | nil => simp [number]
  | cons b rest ih =>
    have hpow : 2 ^ (8 * (rest.length + 1)) = 2 ^ (8 * rest.length) * 256 := by
      rw [Nat.mul_add, Nat.pow_add]
    rw [number, List.foldl_cons, List.foldl_cons, ih, ih, List.length_cons, hpow]
    simp only [Nat.mul_add, Nat.mul_assoc, Nat.zero_mul, Nat.mul_comm n 256]
    omega

lemma number_cons (b : UInt8) (rest : List UInt8) :
    number (b :: rest) = 2 ^ (8 * rest.length) * b.toNat + number rest := by
  rw [number, List.foldl_cons, foldl_bytes, Nat.zero_mul, Nat.zero_add]

lemma number_lt (bytes : List UInt8) : number bytes < 2 ^ (8 * bytes.length) := by
  induction bytes with
  | nil => simp [number]
  | cons b rest ih =>
    have hb : b.toNat < 256 := b.toNat_lt
    rw [number_cons, List.length_cons, Nat.mul_add, Nat.pow_add]
    calc 2 ^ (8 * rest.length) * b.toNat + number rest
        < 2 ^ (8 * rest.length) * (b.toNat + 1) := by rw [Nat.mul_succ]; omega
      _ ≤ 2 ^ (8 * rest.length) * 2 ^ (8 * 1) := Nat.mul_le_mul_left _ hb

/-- The bits of the string are those of the number, from the highest one down. -/
lemma testBit_number {bytes : List UInt8} {i : Nat} (hi : i < 8 * bytes.length) :
    (number bytes).testBit (8 * bytes.length - 1 - i) = bitOf bytes i := by
  induction bytes generalizing i with
  | nil => simp at hi
  | cons b rest ih =>
    rw [number_cons, Nat.testBit_two_pow_mul_add _ (number_lt rest), bitOf, List.length_cons]
    rw [List.length_cons] at hi
    by_cases hi' : i < 8
    · rw [if_neg (by omega), if_pos hi']
      congr 1
      omega
    · rw [if_pos (by omega), if_neg hi', ← ih (by omega)]
      congr 1
      omega

end Network

/-! ## Addresses -/

namespace Ipv6

open Network (number bitOf)

/-- A bit of an address, the highest one being the first. -/
def bit (address : Ipv6) (i : Nat) : Bool := address.toNat.testBit (127 - i)

/-- Two addresses agree in their first `n` bits. -/
def AgreeOn (n : Nat) (x y : Ipv6) : Prop := ∀ i < n, x.bit i = y.bit i

instance (n : Nat) (x y : Ipv6) : Decidable (AgreeOn n x y) :=
  inferInstanceAs (Decidable (∀ i < n, x.bit i = y.bit i))

lemma toNat_highByte (g : UInt16) : (g.toNat / 256).toUInt8.toNat = g.toNat / 256 := by
  have hg : g.toNat < 65536 := g.toNat_lt
  exact Nat.mod_eq_of_lt (by omega)

lemma toNat_lowByte (g : UInt16) : (g.toNat % 256).toUInt8.toNat = g.toNat % 256 :=
  Nat.mod_eq_of_lt (by omega)

/-- A group counts like its two bytes. -/
lemma foldl_groups (groups : List UInt16) (n : Nat) :
    groups.foldl (fun n g => n * 65536 + g.toNat) n
      = (groups.flatMap fun g => [(g.toNat / 256).toUInt8, (g.toNat % 256).toUInt8]).foldl
          (fun n b => n * 256 + b.toNat) n := by
  induction groups generalizing n with
  | nil => rfl
  | cons g rest ih =>
    have hsum : (n * 256 + g.toNat / 256) * 256 + g.toNat % 256 = n * 65536 + g.toNat := by omega
    simp only [List.foldl_cons, List.flatMap_cons, List.foldl_append, List.foldl_nil,
      toNat_highByte, toNat_lowByte, ih, hsum]

lemma toNat_eq_number (address : Ipv6) : address.toNat = number address.bytes :=
  foldl_groups address.groups.toList 0

lemma length_bytes (address : Ipv6) : address.bytes.length = 16 := by
  simp [bytes, List.length_flatMap, List.map_const']

lemma toNat_lt (address : Ipv6) : address.toNat < 2 ^ 128 := by
  have hlt := Network.number_lt address.bytes
  rwa [length_bytes, ← toNat_eq_number] at hlt

lemma bit_eq {address : Ipv6} {i : Nat} (hi : i < 128) : address.bit i = bitOf address.bytes i := by
  have hbit := @Network.testBit_number address.bytes i
  rw [length_bytes] at hbit
  rw [bit, toNat_eq_number, ← hbit hi]

end Ipv6

/-- **A range compares the bits that count.** -/
lemma Network.contains_iff (network : Network) (address : Ipv6) :
    network.contains address = true ↔ Ipv6.AgreeOn network.bits address network.base := by
  have hlength : address.bytes.length = network.base.bytes.length := by
    rw [Ipv6.length_bytes, Ipv6.length_bytes]
  rw [contains, agree_iff hlength]
  refine forall₂_congr fun i hi => ?_
  have hi : i < 128 := Nat.lt_of_lt_of_le hi network.bits_le
  rw [Ipv6.bit_eq hi, Ipv6.bit_eq hi]

end MeteredHttp
