import MeteredHttp.Json.Printer
import MeteredHttp.Json.Token
import MeteredHttp.Proofs.Binary64.Shortest
import MeteredHttp.Proofs.Bytes

/-!
# Scanning what was written

The written form of each value that is no container is one token, whatever stands behind it.

* `Json.Token.scanText_quote` says this of texts: every byte is got back from its escape.
* `Json.Token.scanNumber_decimal` says it of integers, `Json.Token.scanNumber_renderReal` of
  fractional numbers, whose digits denote a decimal in the interval of the number.
* **`Json.Token.next?_quote`**, **`Json.Token.next?_decimal`** and **`Json.Token.next?_renderReal`**
  conclude which token is found.
-/

namespace MeteredHttp.Json.Token

/-! ## Texts -/

lemma scanText_plain {b : UInt8} (hquote : b ≠ 34) (hbackslash : b ≠ 92) (hcontrol : ¬b < 32)
    (done rest : Bytes) : scanText done (b :: rest) = scanText (b :: done) rest := by
  rw [scanText]
  · rw [if_neg (by simp [hcontrol, hbackslash])]
  · exact hquote
  · intro a b c d rest h
    simp [hbackslash] at h
  · intro c rest h
    simp [hbackslash] at h

/-- A control character is got back from its number. -/
lemma scanText_control {b : UInt8} (hcontrol : b < 32) (done rest : Bytes) :
    scanText done ([92, 117, 48, 48] ++ Numeral.hexBytes [b] ++ rest)
      = scanText (b :: done) rest := by
  have hall : ∀ n : Fin 32, hexUnit? 48 48 (Numeral.digit (n.val / 16)) (Numeral.digit (n.val % 16))
      = some n.val ∧ isLowHalf n.val = false ∧ isHighHalf n.val = false
        ∧ Utf8.encode n.val = [n.val.toUInt8] := by
    decide
  have hlt : b.toNat < 32 := hcontrol
  obtain ⟨hunit, hlow, hhigh, hencode⟩ := hall ⟨b.toNat, hlt⟩
  simp only at hunit hlow hhigh hencode
  show scanText done (92 :: 117 :: 48 :: 48 :: Numeral.digit (b.toNat / 16)
    :: Numeral.digit (b.toNat % 16) :: rest) = _
  simp [scanText, hunit, hlow, hhigh, hencode]

/-- **A byte is got back from its escape.** -/
lemma scanText_escapeByte (b : UInt8) (done rest : Bytes) :
    scanText done (escapeByte b ++ rest) = scanText (b :: done) rest := by
  simp only [escapeByte]
  split_ifs with hquote hbackslash hback hfeed hline hreturn htab hcontrol
  case pos => simp [scanText, escaped?, hquote]
  · simp [scanText, escaped?, hbackslash]
  · simp [scanText, escaped?, hback]
  · simp [scanText, escaped?, hfeed]
  · simp [scanText, escaped?, hline]
  · simp [scanText, escaped?, hreturn]
  · simp [scanText, escaped?, htab]
  · exact scanText_control hcontrol done rest
  · exact scanText_plain hquote hbackslash hcontrol done rest

lemma scanText_quote (s done rest : Bytes) :
    scanText done (s.flatMap escapeByte ++ 34 :: rest) = some (done.reverse ++ s, rest) := by
  induction s generalizing done with
  | nil => simp [scanText]
  | cons b s ih =>
    rw [List.flatMap_cons, List.append_assoc, scanText_escapeByte, ih, List.reverse_cons,
      List.append_assoc]
    rfl

/-! ## Numbers -/

open Numeral (Writes isDigitOf)

/-- The written form of a number without its sign. -/
def Number.body (number : Number) : Bytes :=
  number.whole ++ (number.fraction.elim [] (46 :: ·)
    ++ number.exponent.elim [] (101 :: renderExponent ·))

/-- Digits are where the grammar wants them, and no zeros lead. -/
structure Number.WellFormed (number : Number) : Prop where
  whole : ∃ n, Writes 10 number.whole n
  leading : number.whole = [48] ∨ number.whole.head? ≠ some 48
  fraction : ∀ digits, number.fraction = some digits → ∃ n, Writes 10 digits n

/-- A text in front of which a number ends. -/
def EndsNumber (rest : Bytes) : Prop :=
  ∀ b ∈ rest.head?, isDigitOf 10 b = false ∧ b ≠ 46 ∧ b ≠ 101 ∧ b ≠ 69

variable {digits rest : Bytes} {n : Nat}

/-- Digits are scanned up to the first byte that is none. -/
lemma span_digits (h : Writes 10 digits n) (hrest : ∀ b ∈ rest.head?, isDigitOf 10 b = false) :
    (digits ++ rest).takeWhile Bytes.isDigit = digits
      ∧ (digits ++ rest).dropWhile Bytes.isDigit = rest := by
  rw [show Bytes.isDigit = isDigitOf 10 from funext Numeral.isDigit_eq]
  exact h.span hrest

lemma scanWhole_append (h : Writes 10 digits n) (hleading : digits = [48] ∨ digits.head? ≠ some 48)
    (hrest : ∀ b ∈ rest.head?, isDigitOf 10 b = false) :
    scanWhole (digits ++ rest) = some (digits, rest) := by
  rcases hleading with rfl | hhead
  · rfl
  · obtain ⟨htake, hdrop⟩ := span_digits h hrest
    obtain ⟨b, tail, rfl⟩ := List.exists_cons_of_ne_nil h.ne_nil
    have hb : b ≠ 48 := by simpa using hhead
    rw [List.cons_append] at htake hdrop ⊢
    simp [scanWhole, hb, htake, hdrop]

lemma scanFraction_elim (fraction : Option Bytes)
    (h : ∀ digits, fraction = some digits → ∃ n, Writes 10 digits n)
    (hrest : ∀ b ∈ rest.head?, isDigitOf 10 b = false ∧ b ≠ 46) :
    scanFraction (fraction.elim [] (46 :: ·) ++ rest) = some (fraction, rest) := by
  cases fraction with
  | none =>
    cases rest with
    | nil => rfl
    | cons b rest => simp [scanFraction, (hrest b rfl).2]
  | some digits =>
    obtain ⟨n, hdigits⟩ := h digits rfl
    obtain ⟨htake, hdrop⟩ := span_digits hdigits fun b hb => (hrest b hb).1
    obtain ⟨b, tail, rfl⟩ := List.exists_cons_of_ne_nil hdigits.ne_nil
    rw [List.cons_append] at htake hdrop
    simp [scanFraction, htake, hdrop]

lemma scanPower_padded (negative : Bool) (n : Nat)
    (hrest : ∀ b ∈ rest.head?, isDigitOf 10 b = false) :
    scanPower negative (Numeral.padded 2 n ++ rest)
      = some (some (if negative then -(n : Int) else n), rest) := by
  have h := Numeral.writes_padded 2 n
  obtain ⟨htake, hdrop⟩ := span_digits h hrest
  rw [scanPower, htake, hdrop]
  split
  next hnil => exact absurd hnil h.ne_nil
  next => rw [h.value_eq]

lemma scanExponent_elim (exponent : Option Int) (hrest : EndsNumber rest) :
    scanExponent (exponent.elim [] (101 :: renderExponent ·) ++ rest) = some (exponent, rest) := by
  cases exponent with
  | none =>
    cases rest with
    | nil => rfl
    | cons b rest =>
      obtain ⟨-, -, hsmall, hlarge⟩ := hrest b rfl
      simp [scanExponent, hsmall, hlarge]
  | some e =>
    have hpower := fun negative => scanPower_padded negative e.natAbs fun b hb => (hrest b hb).1
    by_cases he : e < 0
    · simp [scanExponent, renderExponent, he, hpower, abs_of_neg he]
    · simp [scanExponent, renderExponent, he, hpower, abs_of_nonneg (not_lt.1 he)]

/-- The fraction of a number ends where its exponent or the text behind it begins. -/
lemma endsFraction (exponent : Option Int) (hrest : EndsNumber rest) :
    ∀ b ∈ (exponent.elim [] (101 :: renderExponent ·) ++ rest).head?,
      isDigitOf 10 b = false ∧ b ≠ 46 := by
  intro b hb
  cases exponent with
  | none => exact ⟨(hrest b hb).1, (hrest b hb).2.1⟩
  | some e =>
    obtain rfl := Option.some.inj hb
    exact ⟨by decide, by decide⟩

/-- **A number is scanned** from its written form. -/
lemma scanUnsigned_body {number : Number} (h : number.WellFormed) (hrest : EndsNumber rest) :
    scanUnsigned number.negative (number.body ++ rest) = some (number, rest) := by
  have hexponent := scanExponent_elim number.exponent hrest
  have hfraction := scanFraction_elim number.fraction h.fraction
    (endsFraction number.exponent hrest)
  have hends : ∀ b ∈ (number.fraction.elim [] (46 :: ·)
      ++ (number.exponent.elim [] (101 :: renderExponent ·) ++ rest)).head?,
      isDigitOf 10 b = false := by
    intro b hb
    cases hcase : number.fraction with
    | none =>
      rw [hcase] at hb
      exact (endsFraction number.exponent hrest b hb).1
    | some digits =>
      rw [hcase] at hb
      obtain rfl := Option.some.inj hb
      decide
  obtain ⟨n, hdigits⟩ := h.whole
  have hwhole := scanWhole_append hdigits h.leading hends
  simp [scanUnsigned, Number.body, hwhole, hfraction, hexponent]

/-- The written form of a number. -/
def Number.text (number : Number) : Bytes :=
  (if number.negative then [45] else []) ++ number.body

/-- The body of a number begins with a digit. -/
lemma Number.WellFormed.exists_digit {number : Number} (h : number.WellFormed) :
    ∃ b rest, number.body = b :: rest ∧ isDigitOf 10 b = true := by
  obtain ⟨n, hdigits⟩ := h.whole
  obtain ⟨b, tail, hwhole⟩ := List.exists_cons_of_ne_nil hdigits.ne_nil
  exact ⟨b, _, by rw [body, hwhole]; rfl, hdigits.digits b (by simp [hwhole])⟩

lemma scanNumber_text {number : Number} (h : number.WellFormed) (hrest : EndsNumber rest) :
    scanNumber (number.text ++ rest) = some (number, rest) := by
  have hbody := scanUnsigned_body h hrest
  cases hnegative : number.negative with
  | true =>
    rw [hnegative] at hbody
    simp [Number.text, hnegative, scanNumber, hbody]
  | false =>
    rw [hnegative] at hbody
    obtain ⟨b, tail, htext, hdigit⟩ := h.exists_digit
    have hminus : b ≠ 45 := by
      rintro rfl
      revert hdigit
      decide
    rw [htext, List.cons_append] at hbody
    simp [Number.text, hnegative, htext, scanNumber, hminus, hbody]

/-- The magnitude of a number. -/
def Number.value (number : Number) : ℚ :=
  Numeral.value 10 (number.whole ++ number.fraction.getD [])
    * 10 ^ (number.exponent.getD 0 - (number.fraction.getD []).length)

/-- A text is the written form of a number of the given magnitude, with a fraction or an exponent
and without a sign. -/
structure Number.Written (number : Number) (text : Bytes) (q : ℚ) : Prop where
  wellFormed : number.WellFormed
  text_eq : text = number.body
  fractional : number.fraction.isSome ∨ number.exponent.isSome
  value_eq : number.value = q

/-- Digits that are not none stand for some number. -/
lemma exists_writes {text : Bytes} (hne : text ≠ []) (h : ∀ b ∈ text, isDigitOf 10 b = true) :
    ∃ n, Writes 10 text n :=
  ⟨_, hne, h, rfl⟩

lemma isDigitOf_zero {b : UInt8} {k : Nat} (h : b ∈ List.replicate k 48) :
    isDigitOf 10 b = true := by
  rw [(List.mem_replicate.1 h).2]
  rfl

variable (negative : Bool)

/-- Zeros stand between the digits and the point. -/
lemma written_integer (h : Writes 10 digits n) (hleading : digits.head? ≠ some 48) (k : Nat) :
    Number.Written ⟨negative, digits ++ List.replicate k 48, some [48], none⟩
      (digits ++ List.replicate k 48 ++ utf8 ".0") (n * 10 ^ k) where
  wellFormed := {
    whole := exists_writes (by simp [h.ne_nil]) fun b hb =>
      (List.mem_append.1 hb).elim (h.digits b) isDigitOf_zero
    leading := by
      rw [List.head?_append_of_ne_nil _ h.ne_nil]
      exact .inr hleading
    fraction := by
      intro _ hsome
      obtain rfl := Option.some.inj hsome
      exact exists_writes (by simp) fun b hb => @isDigitOf_zero b 1 hb }
  text_eq := by
    show digits ++ List.replicate k 48 ++ [46, 48] = _
    simp [Number.body]
  fractional := .inl rfl
  value_eq := by
    have hvalue : Numeral.value 10 (digits ++ List.replicate k 48 ++ [48]) = n * 10 ^ (k + 1) := by
      rw [List.append_assoc, ← List.replicate_succ', Numeral.value_append,
        Numeral.value_replicate_zero, h.value_eq, List.length_replicate, Nat.add_zero]
    simp only [Number.value, Option.getD_some, Option.getD_none, hvalue]
    rw [Nat.cast_mul, Nat.cast_pow, Nat.cast_ofNat, ← zpow_natCast, ← zpow_natCast, mul_assoc,
      ← zpow_add₀ (by norm_num)]
    congr 2
    simp

/-- The point stands between two digits. -/
lemma written_inside (h : Writes 10 digits n) (hleading : digits.head? ≠ some 48) {k : Nat}
    (hk : 0 < k) (hlt : k < digits.length) :
    Number.Written ⟨negative, digits.take k, some (digits.drop k), none⟩
      (digits.take k ++ 46 :: digits.drop k) (n * 10 ^ ((k : Int) - digits.length)) where
  wellFormed := {
    whole := exists_writes (by simp [h.ne_nil, hk.ne']) fun b hb =>
      h.digits b (List.mem_of_mem_take hb)
    leading := by
      rw [List.head?_take, if_neg hk.ne']
      exact .inr hleading
    fraction := by
      intro _ hsome
      obtain rfl := Option.some.inj hsome
      exact exists_writes (by simpa using hlt) fun b hb => h.digits b (List.mem_of_mem_drop hb) }
  text_eq := by simp [Number.body]
  fractional := .inl rfl
  value_eq := by
    simp only [Number.value, Option.getD_some, Option.getD_none, List.take_append_drop, h.value_eq,
      List.length_drop]
    congr 2
    omega

/-- Zeros stand between the point and the digits. -/
lemma written_small (h : Writes 10 digits n) (k : Nat) :
    Number.Written ⟨negative, [48], some (List.replicate k 48 ++ digits), none⟩
      (utf8 "0." ++ List.replicate k 48 ++ digits) (n * 10 ^ (-(k : Int) - digits.length)) where
  wellFormed := {
    whole := exists_writes (by simp) fun b hb => @isDigitOf_zero b 1 hb
    leading := .inl rfl
    fraction := by
      intro _ hsome
      obtain rfl := Option.some.inj hsome
      exact ⟨n, h.replicate_zero k⟩ }
  text_eq := by
    show [48, 46] ++ List.replicate k 48 ++ digits = _
    simp [Number.body]
  fractional := .inl rfl
  value_eq := by
    have hvalue : Numeral.value 10 ([48] ++ (List.replicate k 48 ++ digits)) = n := by
      exact (h.replicate_zero (k + 1)).value_eq
    simp only [Number.value, Option.getD_some, Option.getD_none, hvalue, List.length_append,
      List.length_replicate]
    congr 2
    omega

/-- An exponent stands behind a digit. -/
lemma written_digit {d : UInt8} (h : Writes 10 [d] n) (hleading : d ≠ 48) (e : Int) :
    Number.Written ⟨negative, [d], none, some e⟩ (d :: 101 :: renderExponent e) (n * 10 ^ e) where
  wellFormed := {
    whole := exists_writes (by simp) h.digits
    leading := .inr (by simpa using hleading)
    fraction := by simp }
  text_eq := by simp [Number.body]
  fractional := .inr rfl
  value_eq := by
    simp [Number.value, h.value_eq]

/-- An exponent stands behind several digits. -/
lemma written_power {d : UInt8} {tail : Bytes} (h : Writes 10 (d :: tail) n) (htail : tail ≠ [])
    (hleading : d ≠ 48) (e : Int) :
    Number.Written ⟨negative, [d], some tail, some e⟩ (d :: 46 :: tail ++ 101 :: renderExponent e)
      (n * 10 ^ (e - tail.length)) where
  wellFormed := {
    whole := exists_writes (by simp) fun b hb => h.digits b (by simp_all)
    leading := .inr (by simpa using hleading)
    fraction := by
      intro _ hsome
      obtain rfl := Option.some.inj hsome
      exact exists_writes htail fun b hb => h.digits b (List.mem_cons_of_mem d hb) }
  text_eq := by simp [Number.body]
  fractional := .inl rfl
  value_eq := by
    simp [Number.value, h.value_eq]

/-- **The digits of a number**: wherever the point stands, they denote the number. -/
lemma written_renderDecimal (h : Writes 10 digits n) (hleading : digits.head? ≠ some 48)
    (point : Int) : ∃ number : Number, number.negative = negative
      ∧ number.Written (renderDecimal digits point) (n * 10 ^ (point - digits.length)) := by
  simp only [renderDecimal]
  split_ifs with hinteger hinside hsmall
  · obtain ⟨k, hk⟩ := Int.eq_ofNat_of_zero_le (sub_nonneg.2 hinteger.1)
    rw [hk, zpow_natCast]
    exact ⟨_, rfl, written_integer negative h hleading k⟩
  · obtain ⟨k, rfl⟩ := Int.eq_ofNat_of_zero_le hinside.1.le
    exact ⟨_, rfl, written_inside negative h hleading (by omega) (by omega)⟩
  · obtain ⟨k, rfl⟩ := Int.exists_eq_neg_ofNat hsmall.2
    rw [neg_neg]
    exact ⟨_, rfl, written_small negative h k⟩
  · split
    next d =>
      exact ⟨_, rfl, written_digit negative h (by simpa using hleading) (point - 1)⟩
    next d tail hne =>
      have hpower := written_power negative h hne (by simpa using hleading) (point - 1)
      rw [sub_sub, add_comm 1] at hpower
      exact ⟨_, rfl, hpower⟩
    next => exact absurd rfl h.ne_nil

/-! ## Tokens -/

variable {token : Token} {number : Number}

lemma next?_cons {b : UInt8} {text : Bytes} (hblank : isBlank b = false)
    (h : scan? b text = some (token, rest)) : next? (b :: text) = some (token, rest) := by
  simp [next?, hblank, h]

/-- A byte that begins a number begins nothing else. -/
lemma scan?_number {b : UInt8} (h : isDigitOf 10 b = true ∨ b = 45) (text : Bytes) :
    isBlank b = false ∧ scan? b text
      = (scanNumber (b :: text)).map fun (number, rest) => (ofNumber number, rest) := by
  have hbegins : ∀ b : UInt8, isDigitOf 10 b = true ∨ b = 45 → isBlank b = false
      ∧ (single? b).isNone = true ∧ b ≠ 34 ∧ b ≠ 110 ∧ b ≠ 116 ∧ b ≠ 102 :=
    Bytes.forall_byte (by decide +kernel)
  obtain ⟨hblank, hsingle, hquote, hnull, htrue, hfalse⟩ := hbegins b h
  refine ⟨hblank, ?_⟩
  rw [scan?, Option.isNone_iff_eq_none.1 hsingle]
  simp only [if_neg hquote, if_neg hnull, if_neg htrue, if_neg hfalse]

lemma next?_text (h : number.WellFormed) (hrest : EndsNumber rest) :
    next? (number.text ++ rest) = some (ofNumber number, rest) := by
  have hscan := scanNumber_text h hrest
  obtain ⟨b, tail, htext, hb⟩ : ∃ b tail, number.text = b :: tail
      ∧ (isDigitOf 10 b = true ∨ b = 45) := by
    obtain ⟨b, tail, hbody, hdigit⟩ := h.exists_digit
    cases hnegative : number.negative with
    | true => exact ⟨45, number.body, by simp [Number.text, hnegative], .inr rfl⟩
    | false => exact ⟨b, tail, by simp [Number.text, hnegative, hbody], .inl hdigit⟩
  rw [htext, List.cons_append] at hscan ⊢
  obtain ⟨hblank, hnumber⟩ := scan?_number hb (tail ++ rest)
  rw [hscan] at hnumber
  exact next?_cons hblank hnumber

/-- A text is the token of its written form. -/
lemma next?_quote {s : Bytes} (hvalid : Utf8.valid s = true) (rest : Bytes) :
    next? (quote s ++ rest) = some (.string s, rest) := by
  have htext : quote s ++ rest = 34 :: (s.flatMap escapeByte ++ 34 :: rest) := by simp [quote]
  have hscan := scanText_quote s [] rest
  rw [htext]
  refine next?_cons rfl ?_
  simp [scan?, single?, hscan, hvalid]

/-- A number without fraction and exponent is an integer if it fits in 64 bits. -/
lemma next?_integer (negative : Bool) {n : Nat} {i : Int}
    (hi : i = if negative then -(n : Int) else n) (hlow : -9223372036854775808 ≤ i)
    (hhigh : i ≤ 18446744073709551615) (hrest : EndsNumber rest) :
    next? ((if negative then [45] else []) ++ Numeral.render 10 n ++ rest)
      = some (.integer i, rest) := by
  have hwrites : Writes 10 (Numeral.render 10 n) n :=
    Numeral.writes_render (by decide) (by decide) n
  have hwellFormed : Number.WellFormed ⟨negative, Numeral.render 10 n, none, none⟩ :=
    ⟨⟨n, hwrites⟩, Numeral.leading_render n, by simp⟩
  have hnext := next?_text hwellFormed hrest
  simp only [Number.text, Number.body, Option.elim_none, List.append_nil] at hnext
  rw [hnext]
  simp only [ofNumber, hwrites.value_eq, ← hi]
  rw [if_pos ⟨hlow, hhigh⟩]

/-- An integer that fits in 64 bits is the token of its written form. -/
lemma next?_decimal {i : Int} (hlow : -9223372036854775808 ≤ i) (hhigh : i ≤ 18446744073709551615)
    (hrest : EndsNumber rest) : next? (Numeral.decimal i ++ rest) = some (.integer i, rest) := by
  cases i with
  | ofNat n => exact next?_integer false rfl hlow hhigh hrest
  | negSucc n => exact next?_integer true (Int.negSucc_eq n) hlow hhigh hrest

/-- What is written with a point or an exponent is the number nearest to its magnitude. -/
lemma ofNumber_of_fractional (h : number.fraction.isSome ∨ number.exponent.isSome) :
    ofNumber number = .real (.ofDecimal number.negative
      (Numeral.value 10 (number.whole ++ number.fraction.getD []))
      (number.exponent.getD 0 - (number.fraction.getD []).length)) := by
  rw [ofNumber]
  split
  next hfraction hexponent => simp [hfraction, hexponent] at h
  next => rfl

/-- The digits of a finite number are read as that number. -/
lemma ofNumber_of_written {x : Binary64} (hfinite : x.isFinite = true) (hs : x.significand ≠ 0)
    {text : Bytes} (hnegative : number.negative = x.negative)
    (h : number.Written text x.shortest.value) : ofNumber number = .real x := by
  have hvalue : x.RoundsTo number.value := h.value_eq ▸ Binary64.roundsTo_shortest hs
  rw [ofNumber_of_fractional h.fractional, hnegative,
    Binary64.ofDecimal_of_roundsTo hfinite hs hvalue]

/-- A finite number is written in digits that are read as that number. -/
lemma exists_number {x : Binary64} (hfinite : x.isFinite = true) : ∃ number : Number,
    number.WellFormed ∧ renderReal x = number.text ∧ ofNumber number = .real x := by
  simp only [renderReal, if_pos hfinite]
  split
  next hzero =>
    have hdigit : Writes 10 [48] 0 := ⟨by simp, fun b hb => @isDigitOf_zero b 1 hb, rfl⟩
    have hwritten := written_small x.negative hdigit 0
    have hvalue : Numeral.value 10 ([48] ++ ([] ++ [48])) = 0 := rfl
    refine ⟨_, hwritten.wellFormed, by rw [Number.text, ← hwritten.text_eq]; rfl, ?_⟩
    rw [ofNumber_of_fractional hwritten.fractional]
    simp only [Option.getD_some, List.replicate_zero, hvalue, Binary64.ofDecimal, if_true,
      Binary64.assemble_zero hzero]
  next hs =>
    have hdigits : x.shortest.digits ≠ 0 := by
      intro hzero
      have hpos := (Binary64.roundsTo_shortest hs).pos hs
      simp [Binary64.Decimal.value, hzero] at hpos
    obtain ⟨number, hnegative, hwritten⟩ := written_renderDecimal x.negative
      (Numeral.writes_render (by decide) (by decide) x.shortest.digits)
      (Numeral.head?_render hdigits)
      ((Numeral.render 10 x.shortest.digits).length + x.shortest.exponent)
    rw [add_sub_cancel_left] at hwritten
    exact ⟨number, hwritten.wellFormed, by rw [Number.text, hnegative, ← hwritten.text_eq],
      ofNumber_of_written hfinite hs hnegative hwritten⟩

/-- **A finite number is the token of its written form.** -/
lemma next?_renderReal {x : Binary64} (hfinite : x.isFinite = true) (hrest : EndsNumber rest) :
    next? (renderReal x ++ rest) = some (.real x, rest) := by
  obtain ⟨number, hwellFormed, htext, htoken⟩ := exists_number hfinite
  rw [htext, next?_text hwellFormed hrest, htoken]

end MeteredHttp.Json.Token
