import MeteredHttp.Numeral
import MeteredHttp.Proofs.Bytes
import Mathlib.Algebra.Group.Nat.Defs
import Mathlib.Data.List.Induction
import Mathlib.Tactic.Ring

/-!
# Numbers and their numerals

What is written can be read: `Numeral.value_render` gets the number back from its numeral, so that
different numbers have different numerals, also in base ten with a sign (`Numeral.decimal_inj`).

`Numeral.Writes` says that digits stand for a number, maybe with leading zeros.  By
`Numeral.readAll?_eq_some` nothing else is read, and `Numeral.render_value` gets the digits back
from the number if there are no leading zeros.

`Numeral.Fills` is the same for digits of a fixed number, and `Numeral.fills_padded` says that a
number is filled up to such digits.  In texts they have the order of their numbers
(`Numeral.Fills.lt_iff`).
-/

namespace MeteredHttp.Numeral

lemma digitValue?_digit {d : Nat} (h : d < 16) : digitValue? (digit d) = some d := by
  have hall : ∀ d : Fin 16, digitValue? (digit d) = some d.val := by decide
  exact hall ⟨d, h⟩

lemma isDigitOf_digit {base d : Nat} (hbase : base ≤ 16) (h : d < base) :
    isDigitOf base (digit d) = true := by
  rw [isDigitOf, digitValue?_digit (by omega)]
  simpa using h

lemma isDigit_eq : ∀ b : UInt8, Bytes.isDigit b = isDigitOf 10 b :=
  Bytes.forall_byte (by decide +kernel)

lemma value_concat (base : Nat) (digits : Bytes) (b : UInt8) :
    value base (digits ++ [b]) = base * value base digits + (digitValue? b).getD 0 := by
  rw [value, List.foldl_append]
  rfl

variable {base : Nat}

/-- The number of a numeral is the one that was written. -/
lemma value_render (htwo : 2 ≤ base) (hsixteen : base ≤ 16) (n : Nat) :
    value base (render base n) = n := by
  induction n using Nat.strongRecOn with
  | ind n ih =>
    rw [render]
    split
    next hlt =>
      have hn : n < base := by omega
      simp [value, digitValue?_digit (Nat.lt_of_lt_of_le hn hsixteen)]
    next hge =>
      have hlt : n / base < n := Nat.div_lt_self (by omega) (by omega)
      have hmod : n % base < base := Nat.mod_lt n (by omega)
      rw [value_concat, ih _ hlt, digitValue?_digit (by omega), Option.getD_some]
      exact Nat.div_add_mod n base

lemma isDigitOf_of_mem_render (htwo : 2 ≤ base) (hsixteen : base ≤ 16) {n : Nat} {b : UInt8}
    (h : b ∈ render base n) : isDigitOf base b = true := by
  induction n using Nat.strongRecOn with
  | ind n ih =>
    rw [render] at h
    split at h
    next hlt =>
      obtain rfl := List.mem_singleton.1 h
      exact isDigitOf_digit hsixteen (by omega)
    next hge =>
      rcases List.mem_append.1 h with hfront | hlast
      · exact ih _ (Nat.div_lt_self (by omega) (by omega)) hfront
      · obtain rfl := List.mem_singleton.1 hlast
        exact isDigitOf_digit hsixteen (Nat.mod_lt n (by omega))

/-- A numeral in base ten is made of digits, and maybe a minus sign. -/
lemma isDigitOf_of_mem_decimal {n : Int} {b : UInt8} (h : b ∈ decimal n) :
    isDigitOf 10 b = true ∨ b = 45 := by
  cases n with
  | ofNat n => exact .inl (isDigitOf_of_mem_render (by decide) (by decide) h)
  | negSucc n =>
    rcases List.mem_cons.1 h with rfl | hdigits
    · exact .inr rfl
    · exact .inl (isDigitOf_of_mem_render (by decide) (by decide) hdigits)

lemma render_inj (htwo : 2 ≤ base) (hsixteen : base ≤ 16) {n m : Nat} :
    render base n = render base m ↔ n = m := by
  constructor
  · intro h
    rw [← value_render htwo hsixteen n, h, value_render htwo hsixteen]
  · rintro rfl
    rfl

/-- A minus sign is not a digit. -/
lemma render_ne_minus (n : Nat) (digits : Bytes) : render 10 n ≠ 45 :: digits := by
  intro h
  have hmem : (45 : UInt8) ∈ render 10 n := by
    rw [h]
    exact List.mem_cons_self
  have hdigit := isDigitOf_of_mem_render (by decide) (by decide) hmem
  revert hdigit
  decide

/-- Different numbers have different numerals. -/
lemma decimal_inj {n m : Int} : decimal n = decimal m ↔ n = m := by
  constructor
  · intro h
    cases n with
    | ofNat n =>
      cases m with
      | ofNat m => rw [(render_inj (by decide) (by decide)).1 h]
      | negSucc m => exact absurd h (render_ne_minus n _)
    | negSucc n =>
      cases m with
      | ofNat m => exact absurd h.symm (render_ne_minus m _)
      | negSucc m =>
        have hnumber := (render_inj (by decide) (by decide)).1 (List.cons.inj h).2
        rw [Nat.succ.inj hnumber]
  · rintro rfl
    rfl

lemma render_ne_nil (base n : Nat) : render base n ≠ [] := by
  rw [render]
  split <;> simp

lemma length_render_le {k n : Nat} (hk : 0 < k) (h : n < base ^ k) :
    (render base n).length ≤ k := by
  induction k generalizing n with
  | zero => exact absurd hk (by omega)
  | succ k ih =>
    rw [render]
    split
    next => simp
    next hge =>
      have hdiv : n / base < base ^ k := Nat.div_lt_of_lt_mul (by rwa [Nat.mul_comm])
      have hk : 0 < k := by
        rw [Nat.pos_iff_ne_zero]
        rintro rfl
        simp at h
        omega
      simpa using ih hk hdiv

lemma pow_length_render_le (htwo : 2 ≤ base) {n : Nat} (hn : n ≠ 0) :
    base ^ ((render base n).length - 1) ≤ n := by
  induction n using Nat.strongRecOn with
  | ind n ih =>
    rw [render]
    split
    next => simpa using Nat.one_le_iff_ne_zero.2 hn
    next hge =>
      have hdiv : n / base ≠ 0 := (Nat.div_pos (by omega) (by omega)).ne'
      have hfront := ih (n / base) (Nat.div_lt_self (by omega) (by omega)) hdiv
      have hpos := List.length_pos_iff.2 (render_ne_nil base (n / base))
      rw [List.length_append, List.length_singleton, Nat.add_sub_cancel]
      calc base ^ (render base (n / base)).length
          = base ^ ((render base (n / base)).length - 1) * base := by
            rw [← Nat.pow_succ, Nat.succ_eq_add_one, Nat.sub_add_cancel hpos]
        _ ≤ n / base * base := Nat.mul_le_mul_right base hfront
        _ ≤ n := Nat.div_mul_le_self n base

/-- Only the numeral of zero begins with a zero. -/
lemma head?_render {n : Nat} (hn : n ≠ 0) : (render 10 n).head? ≠ some 48 := by
  induction n using Nat.strongRecOn with
  | ind n ih =>
    rw [render]
    split
    next hlt =>
      have hall : ∀ d : Fin 10, d.val ≠ 0 → digit d.val ≠ 48 := by decide
      simpa using hall ⟨n, by omega⟩ hn
    next hge =>
      have hfront := ih (n / 10) (by omega) (by omega)
      cases hrender : render 10 (n / 10) with
      | nil => exact absurd hrender (render_ne_nil 10 _)
      | cons b rest =>
        rw [hrender] at hfront
        simpa using hfront

lemma leading_render (n : Nat) : render 10 n = [48] ∨ (render 10 n).head? ≠ some 48 := by
  by_cases hn : n = 0
  · left
    rw [hn]
    simp [render, digit]
  · exact .inr (head?_render hn)

/-! ## Reading -/

/-- One or more digits that stand for a number. -/
structure Writes (base : Nat) (text : Bytes) (n : Nat) : Prop where
  ne_nil : text ≠ []
  digits : ∀ b ∈ text, isDigitOf base b = true
  value_eq : value base text = n

variable {digits text : Bytes} {n : Nat}

lemma writes_render (htwo : 2 ≤ base) (hsixteen : base ≤ 16) (n : Nat) :
    Writes base (render base n) n where
  ne_nil := render_ne_nil base n
  digits := fun _ => isDigitOf_of_mem_render htwo hsixteen
  value_eq := value_render htwo hsixteen n

/-- Digits reach up to the first byte that is none. -/
lemma Writes.span (h : Writes base digits n) {rest : Bytes}
    (hrest : ∀ b ∈ rest.head?, isDigitOf base b = false) :
    (digits ++ rest).takeWhile (isDigitOf base) = digits
      ∧ (digits ++ rest).dropWhile (isDigitOf base) = rest := by
  have htake : rest.takeWhile (isDigitOf base) = [] := by
    cases rest with
    | nil => rfl
    | cons b rest => simp [hrest b rfl]
  have hdrop : rest.dropWhile (isDigitOf base) = rest := by
    simpa [htake] using List.takeWhile_append_dropWhile (p := isDigitOf base) (l := rest)
  rw [List.takeWhile_append_of_pos h.digits, List.dropWhile_append_of_pos h.digits, htake, hdrop,
    List.append_nil]
  exact ⟨rfl, rfl⟩

lemma readRun?_append (h : Writes base digits n) {rest : Bytes}
    (hrest : ∀ b ∈ rest.head?, isDigitOf base b = false) :
    readRun? base (digits ++ rest) = some (n, rest) := by
  obtain ⟨htake, hdrop⟩ := h.span hrest
  rw [readRun?, htake, hdrop]
  obtain ⟨b, tail, rfl⟩ := List.exists_cons_of_ne_nil h.ne_nil
  show some (value base (b :: tail), rest) = some (n, rest)
  rw [h.value_eq]

lemma readAll?_eq_some : readAll? base text = some n ↔ Writes base text n := by
  constructor
  · intro h
    simp only [readAll?, readRun?] at h
    split at h
    next m hrun =>
      obtain rfl := Option.some.inj h
      split at hrun
      next => cases hrun
      next hstart =>
        obtain ⟨hvalue, hrest⟩ := Prod.mk.inj (Option.some.inj hrun)
        have hall : ∀ b ∈ text, isDigitOf base b = true := List.dropWhile_eq_nil_iff.1 hrest
        have htake := List.takeWhile_eq_self_iff.2 hall
        rw [htake] at hstart hvalue
        exact ⟨hstart, hall, hvalue⟩
    next => cases h
  · intro h
    have hrun : readRun? base (text ++ []) = some (n, []) := readRun?_append h (by simp)
    rw [List.append_nil] at hrun
    rw [readAll?, hrun]

lemma exists_digitValue? {b : UInt8} (h : isDigitOf base b = true) :
    ∃ d < base, digitValue? b = some d := by
  simp only [isDigitOf] at h
  split at h
  next d hd => exact ⟨d, by simpa using h, hd⟩
  next => cases h

lemma isDigitOf_mono {base' : Nat} {b : UInt8} (hle : base ≤ base')
    (h : isDigitOf base b = true) : isDigitOf base' b = true := by
  obtain ⟨d, hd, hvalue⟩ := exists_digitValue? h
  simp only [isDigitOf, hvalue, decide_eq_true_eq]
  omega

lemma value_lt (h : ∀ b ∈ digits, isDigitOf base b = true) :
    value base digits < base ^ digits.length := by
  induction digits using List.reverseRecOn with
  | nil => simp [value]
  | append_singleton front b ih =>
    obtain ⟨d, hd, hvalue⟩ := exists_digitValue? (h b (by simp))
    have hfront := ih fun b hb => h b (List.mem_append_left _ hb)
    rw [value_concat, hvalue, Option.getD_some, List.length_append, List.length_singleton,
      Nat.pow_succ]
    calc base * value base front + d < base * value base front + base := by omega
      _ = base * (value base front + 1) := by rw [Nat.mul_succ]
      _ ≤ base * base ^ front.length := Nat.mul_le_mul_left base hfront
      _ = base ^ front.length * base := Nat.mul_comm _ _

lemma digit_of_digitValue? {b : UInt8} {d : Nat} (h : digitValue? b = some d) (hten : d < 10) :
    digit d = b := by
  simp only [digitValue?] at h
  split at h
  next hb =>
    obtain ⟨hlow, hhigh⟩ := hb
    obtain rfl := Option.some.inj h
    have hlow : 48 ≤ b.toNat := hlow
    rw [digit, if_pos hten, Nat.add_sub_cancel' hlow]
    simp
  next =>
    split at h
    next hb =>
      have hlow : 97 ≤ b.toNat := hb.1
      have hd := Option.some.inj h
      omega
    next =>
      split at h
      next hb =>
        have hlow : 65 ≤ b.toNat := hb.1
        have hd := Option.some.inj h
        omega
      next => cases h

/-- Digits without leading zeros are the numeral of their number. -/
lemma render_value (hdigits : ∀ b ∈ digits, isDigitOf 10 b = true) (hne : digits ≠ [])
    (hzero : digits = [48] ∨ digits.head? ≠ some 48) : render 10 (value 10 digits) = digits := by
  induction digits using List.reverseRecOn with
  | nil => exact absurd rfl hne
  | append_singleton front b ih =>
    obtain ⟨d, hd, hvalue⟩ := exists_digitValue? (hdigits b (by simp))
    have hb := digit_of_digitValue? hvalue hd
    rw [value_concat, hvalue, Option.getD_some]
    cases front with
    | nil => simp [value, render, hd, hb]
    | cons first rest =>
      have hhead : first ≠ 48 := by simpa using hzero
      have hfirst : ∀ b ∈ first :: rest, isDigitOf 10 b = true :=
        fun b hb => hdigits b (List.mem_append_left _ hb)
      have hrender := ih hfirst (by simp) (.inr (by simpa using hhead))
      -- The number in front is not zero, as its numeral would be a leading zero.
      have hpos : value 10 (first :: rest) ≠ 0 := by
        intro hzero
        rw [hzero] at hrender
        have hstart := congrArg List.head? hrender
        simp [render, digit] at hstart
        exact hhead hstart.symm
      rw [render, dif_neg (by omega), Nat.mul_add_div (by omega), Nat.mul_add_mod,
        Nat.div_eq_of_lt hd, Nat.mod_eq_of_lt hd, Nat.add_zero, hrender, hb]

/-! ## Numerals of a fixed width -/

lemma value_append (base : Nat) (front back : Bytes) :
    value base (front ++ back) = value base front * base ^ back.length + value base back := by
  induction back using List.reverseRecOn with
  | nil => simp [value]
  | append_singleton back b ih =>
    rw [← List.append_assoc, value_concat, ih, value_concat, List.length_append,
      List.length_singleton, Nat.pow_succ]
    ring

lemma value_replicate_zero (base k : Nat) : value base (List.replicate k 48) = 0 := by
  induction k with
  | zero => rfl
  | succ k ih =>
    have hzero : digitValue? 48 = some 0 := rfl
    rw [List.replicate_succ', value_concat, ih, hzero]
    simp

/-- As many digits as there is room for, which stand for a number. -/
structure Fills (width : Nat) (text : Bytes) (n : Nat) : Prop where
  length_eq : text.length = width
  writes : Writes 10 text n

lemma Fills.unique {width m : Nat} (hn : Fills width text n) (hm : Fills width text m) : n = m :=
  hn.writes.value_eq.symm.trans hm.writes.value_eq

/-- Zeros on the left do not count. -/
lemma Writes.replicate_zero (h : Writes 10 text n) (k : Nat) :
    Writes 10 (List.replicate k 48 ++ text) n where
  ne_nil := by simp [h.ne_nil]
  digits := by
    intro b hb
    rcases List.mem_append.1 hb with hzero | hdigit
    · rw [(List.mem_replicate.1 hzero).2]
      rfl
    · exact h.digits b hdigit
  value_eq := by
    rw [value_append, value_replicate_zero, h.value_eq, Nat.zero_mul, Nat.zero_add]

lemma writes_padded (width n : Nat) : Writes 10 (padded width n) n :=
  (writes_render (by decide) (by decide) n).replicate_zero _

/-! ### Order -/

lemma digit_lt_digit {d e : Nat} (hd : d < 10) (he : e < 10) : digit d < digit e ↔ d < e := by
  have hall : ∀ d e : Fin 10, digit d.val < digit e.val ↔ d.val < e.val := by decide
  exact hall ⟨d, hd⟩ ⟨e, he⟩

lemma digit_eq_digit {d e : Nat} (hd : d < 10) (he : e < 10) : digit d = digit e ↔ d = e := by
  have hall : ∀ d e : Fin 10, digit d.val = digit e.val ↔ d.val = e.val := by decide
  exact hall ⟨d, hd⟩ ⟨e, he⟩

lemma value_cons {b : UInt8} {d : Nat} (h : digitValue? b = some d) (rest : Bytes) :
    value base (b :: rest) = d * base ^ rest.length + value base rest := by
  have hfront : value base [b] = d := by simp [value, h]
  rw [← hfront]
  exact value_append base [b] rest

/-- The leading digits decide unless they are the same. -/
lemma leading_lt_iff {place d e v w : Nat} (hv : v < place) (hw : w < place) :
    d * place + v < e * place + w ↔ d < e ∨ d = e ∧ v < w := by
  rcases Nat.lt_trichotomy d e with hlt | rfl | hlt
  · have hstep : (d + 1) * place ≤ e * place := Nat.mul_le_mul_right _ hlt
    rw [Nat.succ_mul] at hstep
    exact iff_of_true (by omega) (.inl hlt)
  · simp
  · have hstep : (e + 1) * place ≤ d * place := Nat.mul_le_mul_right _ hlt
    rw [Nat.succ_mul] at hstep
    exact iff_of_false (by omega) (by omega)

/-- **Digits of the same number compare like the numbers** that they stand for. -/
lemma value_lt_value_iff {text' : Bytes} (hdigits : ∀ b ∈ text, isDigitOf 10 b = true)
    (hdigits' : ∀ b ∈ text', isDigitOf 10 b = true) (hlength : text.length = text'.length) :
    value 10 text < value 10 text' ↔ text < text' := by
  induction text generalizing text' with
  | nil =>
    obtain rfl := List.length_eq_zero_iff.1 hlength.symm
    simp
  | cons b rest ih =>
    obtain ⟨c, rest', rfl⟩ := List.exists_cons_of_length_eq_add_one hlength.symm
    obtain ⟨hb, hrest⟩ := List.forall_mem_cons.1 hdigits
    obtain ⟨hc, hrest'⟩ := List.forall_mem_cons.1 hdigits'
    have hrests : rest.length = rest'.length := Nat.succ.inj hlength
    obtain ⟨d, hd, hvalue⟩ := exists_digitValue? hb
    obtain ⟨e, he, hvalue'⟩ := exists_digitValue? hc
    obtain rfl := digit_of_digitValue? hvalue hd
    obtain rfl := digit_of_digitValue? hvalue' he
    have hlt := value_lt hrest'
    rw [← hrests] at hlt
    rw [value_cons hvalue, value_cons hvalue', ← hrests, leading_lt_iff (value_lt hrest) hlt,
      List.cons_lt_cons_iff, digit_lt_digit hd he, digit_eq_digit hd he,
      ih hrest hrest' hrests]

lemma Fills.lt_iff {width m : Nat} {text' : Bytes} (hn : Fills width text n)
    (hm : Fills width text' m) : text < text' ↔ n < m := by
  rw [← hn.writes.value_eq, ← hm.writes.value_eq]
  exact (value_lt_value_iff hn.writes.digits hm.writes.digits
    (hn.length_eq.trans hm.length_eq.symm)).symm

/-- Digits that fill the same room differ if their numbers do. -/
lemma Fills.eq_iff {width m : Nat} {text' : Bytes} (hn : Fills width text n)
    (hm : Fills width text' m) : text = text' ↔ n = m := by
  constructor
  · rintro rfl
    exact hn.unique hm
  · rintro rfl
    refine List.le_antisymm ?_ ?_ <;>
      simp [← List.not_lt, hm.lt_iff hn, hn.lt_iff hm]

/-- A number that is not too wide is filled up with zeros to the width. -/
lemma fills_padded {width : Nat} (hwidth : 0 < width) (h : n < 10 ^ width) :
    Fills width (padded width n) n := by
  refine ⟨?_, writes_padded width n⟩
  have hlength := length_render_le hwidth h
  simp only [padded, List.length_append, List.length_replicate]
  omega

end MeteredHttp.Numeral
