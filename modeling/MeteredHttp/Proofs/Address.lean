import MeteredHttp.Address
import MeteredHttp.Proofs.Bytes
import MeteredHttp.Proofs.Numeral

/-!
# The notations of addresses

An IPv4 address has one notation, its printed form (`Ipv4.parse?_eq_some`).  An IPv6 address has
many: groups may have leading zeros, the last two may be written as an IPv4 address, and one run of
zero groups may be left out.

* `Ipv6.Groups` and `Ipv6.Literal` are the grammar of these notations.
* **`Ipv6.parse?_eq_some`** says that an address is read from its notations and from no other text.
* `Ipv4.of_mem_render` and `Ipv6.Literal.of_mem` say which bytes are in a notation, and
  `Ipv6.Literal.colon_mem` tells the families apart.
-/

namespace MeteredHttp

open Numeral

/-! ## IPv4 -/

namespace Ipv4

variable {text : Bytes} {n : UInt8}

lemma parseOctet?_eq_some : parseOctet? text = some n ↔ text = Numeral.render 10 n.toNat := by
  constructor
  · intro h
    simp only [parseOctet?] at h
    split at h
    next hshape =>
      split at h
      next m hdigits hread =>
        split at h
        next hm =>
          obtain rfl := Option.some.inj h
          obtain ⟨hne, hdigits, rfl⟩ := readAll?_eq_some.1 hread
          have hvalue : (value 10 text).toUInt8.toNat = value 10 text :=
            Nat.mod_eq_of_lt (Nat.lt_succ_of_le hm)
          rw [hvalue, render_value hdigits hne hshape.2]
        next => cases h
      next => cases h
    next => cases h
  · rintro rfl
    have hn : n.toNat < 256 := n.toNat_lt
    have hlength : (Numeral.render 10 n.toNat).length ≤ 3 := length_render_le (by omega) (by omega)
    have hzero := leading_render n.toNat
    have hall : (Numeral.render 10 n.toNat).all Bytes.isDigit = true := by
      rw [List.all_eq_true]
      intro b hb
      rw [isDigit_eq]
      exact isDigitOf_of_mem_render (by omega) (by omega) hb
    have hread : readAll? 10 (Numeral.render 10 n.toNat) = some n.toNat :=
      readAll?_eq_some.2 (writes_render (by omega) (by omega) n.toNat)
    have hle : n.toNat ≤ 255 := by omega
    simp [parseOctet?, hlength, hzero, hall, hread, hle]

lemma isDigitOf_of_mem_octet {b : UInt8} (h : b ∈ Numeral.render 10 n.toNat) :
    isDigitOf 10 b = true :=
  isDigitOf_of_mem_render (by omega) (by omega) h

lemma dot_not_mem_octet (n : UInt8) : 46 ∉ Numeral.render 10 n.toNat := by
  intro h
  exact absurd (isDigitOf_of_mem_octet h) (by decide)

/-- An IPv4 address is read from its printed form, and from no other text. -/
lemma parse?_eq_some {address : Ipv4} : parse? text = some address ↔ text = address.render := by
  constructor
  · intro h
    simp only [parse?] at h
    split at h
    next a b c d hfields =>
      obtain ⟨afterA, rfl, hafterA⟩ := Bytes.exists_of_fields_cons (by simp) hfields
      obtain ⟨afterB, rfl, hafterB⟩ := Bytes.exists_of_fields_cons (by simp) hafterA
      obtain ⟨afterC, rfl, hafterC⟩ := Bytes.exists_of_fields_cons (by simp) hafterB
      obtain rfl := Bytes.eq_of_fields_singleton hafterC
      simp only [Option.bind_eq_bind, Option.bind_eq_some_iff, parseOctet?_eq_some,
        Option.some.injEq] at h
      obtain ⟨a, rfl, b, rfl, c, rfl, d, rfl, rfl⟩ := h
      simp [render]
    next => cases h
  · rintro rfl
    have hfields : Bytes.fields 46 address.render
        = [Numeral.render 10 address.a.toNat, Numeral.render 10 address.b.toNat,
          Numeral.render 10 address.c.toNat, Numeral.render 10 address.d.toNat] := by
      simp only [render, List.append_assoc, List.cons_append]
      rw [Bytes.fields_append_cons (dot_not_mem_octet _),
        Bytes.fields_append_cons (dot_not_mem_octet _),
        Bytes.fields_append_cons (dot_not_mem_octet _),
        Bytes.fields_of_not_mem (dot_not_mem_octet _)]
    have hoctet : ∀ n : UInt8, parseOctet? (Numeral.render 10 n.toNat) = some n :=
      fun n => parseOctet?_eq_some.2 rfl
    simp [parse?, hfields, hoctet]

lemma of_mem_render {address : Ipv4} {b : UInt8} (h : b ∈ address.render) :
    isDigitOf 10 b = true ∨ b = 46 := by
  simp only [render, List.mem_append, List.mem_cons] at h
  rcases h with ((ha | rfl | hb) | rfl | hc) | rfl | hd
  · exact .inl (isDigitOf_of_mem_octet ha)
  · exact .inr rfl
  · exact .inl (isDigitOf_of_mem_octet hb)
  · exact .inr rfl
  · exact .inl (isDigitOf_of_mem_octet hc)
  · exact .inr rfl
  · exact .inl (isDigitOf_of_mem_octet hd)

lemma colon_not_mem_render (address : Ipv4) : 58 ∉ address.render := by
  intro h
  exact absurd (of_mem_render h) (by decide)

end Ipv4

/-! ## IPv6 -/

namespace Ipv6

/-! ### The grammar -/

/-- A group: one to four hexadecimal digits. -/
structure WritesGroup (text : Bytes) (g : UInt16) : Prop where
  length : text.length ≤ 4
  writes : Writes 16 text g.toNat

/-- Groups with colons between them.  If `quad` is set, the last two may be written as an IPv4
address. -/
inductive Groups (quad : Bool) : Bytes → List UInt16 → Prop
  | last {text g} (h : WritesGroup text g) : Groups quad text [g]
  | quad (hquad : quad = true) (address : Ipv4) :
    Groups quad address.render [(address.a.toNat * 256 + address.b.toNat).toUInt16,
      (address.c.toNat * 256 + address.d.toNat).toUInt16]
  | cons {text g rest gs} (h : WritesGroup text g) (hrest : Groups quad rest gs) :
    Groups quad (text ++ 58 :: rest) (g :: gs)

/-- Groups, or none at all. -/
def Side (quad : Bool) (text : Bytes) (gs : List UInt16) : Prop :=
  text = [] ∧ gs = [] ∨ Groups quad text gs

/-- A notation of an address: eight groups, or less than eight around two colons that stand for
zero groups. -/
inductive Literal : Bytes → Ipv6 → Prop
  | whole {text} {address : Ipv6} (h : Groups true text address.groups.toList) :
    Literal text address
  | elided {front back : Bytes} {gs hs : List UInt16} {address : Ipv6}
      (hfront : Side false front gs) (hback : Side true back hs)
      (hroom : gs.length + hs.length < 8)
      (hgroups : address.groups.toList
        = gs ++ List.replicate (8 - (gs.length + hs.length)) 0 ++ hs) :
    Literal (front ++ utf8 "::" ++ back) address

variable {text : Bytes} {g : UInt16} {gs : List UInt16} {quad : Bool}

/-! ### Groups -/

lemma parseGroup?_eq_some : parseGroup? text = some g ↔ WritesGroup text g := by
  constructor
  · intro h
    simp only [parseGroup?] at h
    split at h
    next hlength =>
      obtain ⟨n, hread, rfl⟩ := Option.map_eq_some_iff.1 h
      obtain ⟨hne, hdigits, rfl⟩ := readAll?_eq_some.1 hread
      have hlt : value 16 text < 65536 := by
        calc value 16 text < 16 ^ text.length := value_lt hdigits
          _ ≤ 16 ^ 4 := Nat.pow_le_pow_right (by omega) hlength
      exact ⟨hlength, hne, hdigits, (Nat.mod_eq_of_lt hlt).symm⟩
    next => cases h
  · rintro ⟨hlength, hwrites⟩
    simp [parseGroup?, hlength, readAll?_eq_some.2 hwrites]

lemma WritesGroup.not_mem {b : UInt8} (h : WritesGroup text g)
    (hb : isDigitOf 16 b = false) : b ∉ text := by
  intro hmem
  rw [h.writes.digits b hmem] at hb
  cases hb

/-- A group is no IPv4 address, which has dots. -/
lemma WritesGroup.parse?_eq_none (h : WritesGroup text g) : Ipv4.parse? text = none := by
  rw [Option.eq_none_iff_forall_ne_some]
  intro address haddress
  obtain rfl := Ipv4.parse?_eq_some.1 haddress
  refine h.not_mem (b := 46) (by decide) ?_
  simp [Ipv4.render]

/-- The groups of the fields of a text, the last one of which may be an IPv4 address. -/
def readFields? (quad : Bool) (parts : List Bytes) : Option (List UInt16) :=
  match if quad then parts.getLast?.bind Ipv4.parse? else none with
  | some v4 => do
    let front ← parts.dropLast.mapM parseGroup?
    some (front ++ [(v4.a.toNat * 256 + v4.b.toNat).toUInt16,
      (v4.c.toNat * 256 + v4.d.toNat).toUInt16])
  | none => parts.mapM parseGroup?

lemma readFields?_cons (quad : Bool) (text : Bytes) {parts : List Bytes} (hne : parts ≠ []) :
    readFields? quad (text :: parts)
      = (parseGroup? text).bind fun g => (readFields? quad parts).map fun gs => g :: gs := by
  cases parts with
  | nil => exact absurd rfl hne
  | cons first rest =>
    simp only [readFields?, List.getLast?_cons_cons, List.dropLast_cons_cons]
    generalize (if quad then (first :: rest).getLast?.bind Ipv4.parse? else none) = last?
    cases last? with
    | none =>
      simp only [List.mapM_cons (a := text)]
      cases parseGroup? text with
      | none => rfl
      | some g => cases (first :: rest).mapM parseGroup? <;> rfl
    | some v4 =>
      simp only [List.mapM_cons (a := text)]
      cases parseGroup? text with
      | none => rfl
      | some g => cases (first :: rest).dropLast.mapM parseGroup? <;> rfl

/-- What is read of a text without colons. -/
lemma groups_of_readFields?_singleton (h : readFields? quad [text] = some gs) :
    Groups quad text gs := by
  simp only [readFields?] at h
  split at h
  next v4 hv4 =>
    split at hv4
    next hquad =>
      obtain rfl := Ipv4.parse?_eq_some.1 hv4
      obtain rfl := Option.some.inj h
      exact .quad hquad v4
    next => cases hv4
  next =>
    cases hgroup : parseGroup? text with
    | none => simp [hgroup] at h
    | some g =>
      simp only [List.mapM_cons, hgroup, List.mapM_nil, pure, bind, Option.bind,
        Option.some.injEq] at h
      subst h
      exact .last (parseGroup?_eq_some.1 hgroup)

/-- **The fields between the colons are read as the grammar says.** -/
lemma readFields?_eq_some :
    readFields? quad (Bytes.fields 58 text) = some gs ↔ Groups quad text gs := by
  constructor
  · intro h
    induction text using Bytes.fields_induction 58 generalizing gs with
    | last text htext =>
      rw [Bytes.fields_of_not_mem htext] at h
      exact groups_of_readFields?_singleton h
    | field text rest htext ih =>
      rw [Bytes.fields_append_cons htext,
        readFields?_cons quad text (Bytes.fields_ne_nil 58 rest)] at h
      obtain ⟨g, hgroup, hrest⟩ := Option.bind_eq_some_iff.1 h
      obtain ⟨others, hothers, rfl⟩ := Option.map_eq_some_iff.1 hrest
      exact .cons (parseGroup?_eq_some.1 hgroup) (ih hothers)
  · intro h
    induction h with
    | @last text g h =>
      rw [Bytes.fields_of_not_mem (h.not_mem (by decide))]
      have hgroup := parseGroup?_eq_some.2 h
      simp [readFields?, h.parse?_eq_none, hgroup]
    | quad hquad address =>
      have hread : Ipv4.parse? address.render = some address := Ipv4.parse?_eq_some.2 rfl
      rw [Bytes.fields_of_not_mem address.colon_not_mem_render]
      simp [readFields?, hquad, hread]
    | @cons text g rest gs h _ ih =>
      rw [Bytes.fields_append_cons (h.not_mem (by decide)),
        readFields?_cons quad text (Bytes.fields_ne_nil 58 rest), parseGroup?_eq_some.2 h, ih]
      rfl

lemma Groups.ne_nil (h : Groups quad text gs) : text ≠ [] := by
  cases h with
  | last h => exact h.writes.ne_nil
  | quad _ address => simp [Ipv4.render]
  | cons h hrest => simp

lemma side_eq_some :
    (if text = [] then some [] else readFields? quad (Bytes.fields 58 text)) = some gs
      ↔ Side quad text gs := by
  split
  next hnil =>
    subst hnil
    constructor
    · rintro ⟨⟩
      exact .inl ⟨rfl, rfl⟩
    · rintro (⟨-, rfl⟩ | hgroups)
      · rfl
      · exact absurd rfl hgroups.ne_nil
  next hne => simp [readFields?_eq_some, Side, hne]

lemma parseGroups?_eq_some : parseGroups? text = some gs ↔ Side false text gs := by
  rw [← side_eq_some]
  rfl

lemma parseTail?_eq_some : parseTail? text = some gs ↔ Side true text gs := by
  rw [← side_eq_some]
  rfl

/-! ### Addresses -/

/-- Groups do not begin with a colon. -/
lemma Groups.head?_ne (h : Groups quad text gs) : text.head? ≠ some 58 := by
  cases h with
  | last h =>
    intro hhead
    exact h.not_mem (by decide) (List.mem_of_head? hhead)
  | quad hquad address =>
    intro hhead
    exact address.colon_not_mem_render (List.mem_of_head? hhead)
  | @cons text g rest gs h hrest =>
    obtain ⟨b, others, rfl⟩ := List.exists_cons_of_ne_nil h.writes.ne_nil
    rintro ⟨⟩
    exact h.not_mem (by decide) List.mem_cons_self

/-- There are no two colons in a row, not even if one is added. -/
lemma Groups.not_infix (h : Groups quad text gs) : ¬utf8 "::" <:+: text ++ [58] := by
  have hcolons : utf8 "::" = [58, 58] := by decide
  rw [hcolons]
  induction h with
  | last h =>
    rw [Bytes.infix_append_of_not_mem (h.not_mem (by decide))]
    decide
  | quad hquad address =>
    rw [Bytes.infix_append_of_not_mem address.colon_not_mem_render]
    decide
  | @cons text g rest gs h hrest ih =>
    rw [List.append_assoc, Bytes.infix_append_of_not_mem (h.not_mem (by decide)),
      List.cons_append, List.infix_cons_iff]
    -- Behind the colon another group begins, or there are more colons.
    rintro (hbegin | hpart)
    · cases rest with
      | nil => exact hrest.ne_nil rfl
      | cons b rest =>
        have hb : b ≠ 58 := by simpa using hrest.head?_ne
        simp [Ne.symm hb] at hbegin
    · exact ih hpart

lemma ofGroups?_eq_some {address : Ipv6} :
    ofGroups? gs = some address ↔ address.groups.toList = gs := by
  rcases address with ⟨⟨⟨groups⟩, hsize⟩⟩
  simp only [ofGroups?]
  split
  next h => simp [eq_comm]
  next h =>
    simp
    rintro rfl
    exact h hsize

/-- **An IPv6 address is read from its notations**, and from no other text. -/
theorem parse?_eq_some {address : Ipv6} : parse? text = some address ↔ Literal text address := by
  constructor
  · intro h
    simp only [parse?] at h
    split at h
    next front back hcut =>
      obtain rfl := Bytes.cut?_eq_some hcut
      simp only [Option.bind_eq_bind, Option.bind_eq_some_iff] at h
      obtain ⟨gs, hfront, hs, hback, h⟩ := h
      split at h
      next hroom =>
        exact .elided (parseGroups?_eq_some.1 hfront) (parseTail?_eq_some.1 hback) hroom
          (ofGroups?_eq_some.1 h)
      next => cases h
    next hcut =>
      split at h
      next => cases h
      next hne =>
        obtain ⟨gs, hgroups, haddress⟩ := Option.bind_eq_some_iff.1 h
        obtain rfl := ofGroups?_eq_some.1 haddress
        rcases parseTail?_eq_some.1 hgroups with ⟨rfl, -⟩ | hgroups
        · exact absurd rfl hne
        · exact .whole hgroups
  · intro h
    cases h with
    | whole h =>
      have hcut : Bytes.cut? text (utf8 "::") = none := by
        rw [Bytes.cut?_eq_none]
        intro hpart
        exact h.not_infix (hpart.trans (List.prefix_append _ _).isInfix)
      have htail := parseTail?_eq_some.2 (.inr h)
      have haddress : ofGroups? address.groups.toList = some address := ofGroups?_eq_some.2 rfl
      simp [parse?, hcut, h.ne_nil, htail, haddress]
    | @elided front back gs hs _ hfront hback hroom hgroups =>
      have hfree : ¬utf8 "::" <:+: front ++ (utf8 "::").dropLast := by
        rcases hfront with ⟨rfl, -⟩ | hfront
        · decide
        · exact hfront.not_infix
      have hcut := Bytes.cut?_append (by decide) hfree back
      have haddress := ofGroups?_eq_some.2 hgroups
      simp only [parse?, hcut, parseGroups?_eq_some.2 hfront, parseTail?_eq_some.2 hback,
        Option.bind_eq_bind, Option.bind_some, hroom, if_true, haddress]

/-! ### Bytes of a notation -/

lemma Groups.of_mem {b : UInt8} (h : Groups quad text gs) (hb : b ∈ text) :
    isDigitOf 16 b = true ∨ b = 46 ∨ b = 58 := by
  induction h with
  | last h => exact .inl (h.writes.digits b hb)
  | quad _ address =>
    rcases Ipv4.of_mem_render hb with hdigit | rfl
    · exact .inl (isDigitOf_mono (by omega) hdigit)
    · exact .inr (.inl rfl)
  | cons h _ ih =>
    rcases List.mem_append.1 hb with hgroup | hrest
    · exact .inl (h.writes.digits b hgroup)
    · rcases List.mem_cons.1 hrest with rfl | hrest
      · exact .inr (.inr rfl)
      · exact ih hrest

lemma Side.of_mem {b : UInt8} (h : Side quad text gs) (hb : b ∈ text) :
    isDigitOf 16 b = true ∨ b = 46 ∨ b = 58 := by
  rcases h with ⟨rfl, -⟩ | hgroups
  · cases hb
  · exact hgroups.of_mem hb

lemma Literal.of_mem {address : Ipv6} {b : UInt8} (h : Literal text address) (hb : b ∈ text) :
    isDigitOf 16 b = true ∨ b = 46 ∨ b = 58 := by
  cases h with
  | whole h => exact h.of_mem hb
  | elided hfront hback =>
    rcases List.mem_append.1 hb with hb | hb
    · rcases List.mem_append.1 hb with hb | hcolon
      · exact hfront.of_mem hb
      · have hcolons : utf8 "::" = [58, 58] := by decide
        rw [hcolons] at hcolon
        exact .inr (.inr (by simpa using hcolon))
    · exact hback.of_mem hb

/-- An IPv4 address has no colon. -/
lemma Literal.colon_mem {address : Ipv6} (h : Literal text address) : 58 ∈ text := by
  cases h with
  | elided => simp [show utf8 "::" = [58, 58] by decide]
  | whole h =>
    have hlength : address.groups.toList.length = 8 := by simp
    generalize address.groups.toList = gs at h hlength
    cases h with
    | last => simp at hlength
    | quad => simp at hlength
    | cons => simp

end Ipv6

end MeteredHttp
