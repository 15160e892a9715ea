import MeteredHttp.Json.Value
import MeteredHttp.Utf8

/-!
# JSON tokens

A document is a sequence of tokens with blanks between them.  What starts no token is a `junk`
token, which ends the sequence: nothing after it can make the document well-formed.  A NUL byte is
junk as well, although there are readers that take one for the end of the document.

* `Token.scanText` reads a text up to its closing quote and resolves the escapes.
* `Token.scanNumber` reads a number by the grammar and rounds it if it has a fraction or exponent.
* `Token.sequence` reads all tokens of a document; each step shortens the rest.
-/

namespace MeteredHttp.Json

/-- The smallest meaningful parts of a document. -/
inductive Token where
  | objectOpen
  | objectClose
  | arrayOpen
  | arrayClose
  | colon
  | comma
  | null
  | bool (b : Bool)
  | string (s : Bytes)
  | integer (i : Int)
  | real (x : Binary64)
  | junk

namespace Token

/-! ## Texts -/

/-- The number written by four hexadecimal digits. -/
def hexUnit? (a b c d : UInt8) : Option Nat := do
  let a ← Numeral.digitValue? a
  let b ← Numeral.digitValue? b
  let c ← Numeral.digitValue? c
  let d ← Numeral.digitValue? d
  some (((a * 16 + b) * 16 + c) * 16 + d)

/-- The byte that a one-letter escape stands for. -/
def escaped? (b : UInt8) : Option UInt8 :=
  if b = 34 ∨ b = 92 ∨ b = 47 then some b
  else if b = 98 then some 8
  else if b = 102 then some 12
  else if b = 110 then some 10
  else if b = 114 then some 13
  else if b = 116 then some 9
  else none

/-- Whether a UTF-16 unit is the first half of a pair. -/
def isHighHalf (unit : Nat) : Bool := 0xD800 ≤ unit && unit < 0xDC00

/-- Whether a UTF-16 unit is the second half of a pair. -/
def isLowHalf (unit : Nat) : Bool := 0xDC00 ≤ unit && unit < 0xE000

/-- The bytes of a text, whose opening quote has been read, and what follows the closing quote.
`done` holds the bytes read so far, last one first.  Control characters must be escaped, and the
two halves of a UTF-16 pair must stand together. -/
def scanText (done : Bytes) : Bytes → Option (Bytes × Bytes)
  | 34 :: rest => some (done.reverse, rest)
  | 92 :: 117 :: a :: b :: c :: d :: rest =>
    match hexUnit? a b c d with
    | none => none
    | some unit =>
      if isLowHalf unit then none
      else if isHighHalf unit then
        match rest with
        | 92 :: 117 :: e :: f :: g :: h :: rest =>
          match hexUnit? e f g h with
          | none => none
          | some low =>
            if isLowHalf low then
              let c := 0x10000 + (unit - 0xD800) * 0x400 + (low - 0xDC00)
              scanText ((Utf8.encode c).reverse ++ done) rest
            else none
        | _ => none
      else scanText ((Utf8.encode unit).reverse ++ done) rest
  | 92 :: b :: rest =>
    match escaped? b with
    | none => none
    | some b => scanText (b :: done) rest
  | b :: rest => if b < 32 ∨ b = 92 then none else scanText (b :: done) rest
  | [] => none

/-! ## Numbers -/

/-- The parts of a number as written. -/
structure Number where
  negative : Bool
  whole : Bytes
  fraction : Option Bytes
  exponent : Option Int

/-- The digits before the point: a zero alone, or digits that do not start with a zero. -/
def scanWhole : Bytes → Option (Bytes × Bytes)
  | 48 :: rest => some ([48], rest)
  | text =>
    match text.takeWhile Bytes.isDigit with
    | [] => none
    | digits => some (digits, text.dropWhile Bytes.isDigit)

/-- The digits after the point, if there is a point; at least one must follow it. -/
def scanFraction : Bytes → Option (Option Bytes × Bytes)
  | 46 :: rest =>
    match rest.takeWhile Bytes.isDigit with
    | [] => none
    | digits => some (some digits, rest.dropWhile Bytes.isDigit)
  | text => some (none, text)

/-- The digits of an exponent, at least one. -/
def scanPower (negative : Bool) (text : Bytes) : Option (Option Int × Bytes) :=
  match text.takeWhile Bytes.isDigit with
  | [] => none
  | digits =>
    let n : Int := Numeral.value 10 digits
    some (some (if negative then -n else n), text.dropWhile Bytes.isDigit)

/-- The exponent, if there is an `e`. -/
def scanExponent : Bytes → Option (Option Int × Bytes)
  | b :: rest =>
    if b = 101 ∨ b = 69 then
      match rest with
      | 43 :: rest => scanPower false rest
      | 45 :: rest => scanPower true rest
      | _ => scanPower false rest
    else some (none, b :: rest)
  | [] => some (none, [])

/-- The parts of a number without its sign, and what follows it. -/
def scanUnsigned (negative : Bool) (text : Bytes) : Option (Number × Bytes) := do
  let (whole, text) ← scanWhole text
  let (fraction, text) ← scanFraction text
  let (exponent, text) ← scanExponent text
  some (⟨negative, whole, fraction, exponent⟩, text)

/-- The parts of a number, and what follows it. -/
def scanNumber : Bytes → Option (Number × Bytes)
  | 45 :: rest => scanUnsigned true rest
  | text => scanUnsigned false text

/-- The token of a number: an integer if it is written as one and fits in 64 bits, otherwise the
nearest binary64 number. -/
def ofNumber (number : Number) : Token :=
  match number.fraction, number.exponent with
  | none, none =>
    let n : Int := Numeral.value 10 number.whole
    let i := if number.negative then -n else n
    if -9223372036854775808 ≤ i ∧ i ≤ 18446744073709551615 then .integer i else .real (.ofInt i)
  | fraction, exponent =>
    let fraction := fraction.getD []
    .real (.ofDecimal number.negative (Numeral.value 10 (number.whole ++ fraction))
      (exponent.getD 0 - fraction.length))

/-! ## Sequences of tokens -/

/-- The blanks that may stand between tokens. -/
def isBlank (b : UInt8) : Bool := b = 32 || b = 9 || b = 10 || b = 13

/-- The token that a byte is by itself. -/
def single? (b : UInt8) : Option Token :=
  if b = 123 then some .objectOpen
  else if b = 125 then some .objectClose
  else if b = 91 then some .arrayOpen
  else if b = 93 then some .arrayClose
  else if b = 58 then some .colon
  else if b = 44 then some .comma
  else none

/-- The token that starts with the byte `b`, and the text after it. -/
def scan? (b : UInt8) (rest : Bytes) : Option (Token × Bytes) :=
  match single? b with
  | some token => some (token, rest)
  | none =>
    if b = 34 then
      (scanText [] rest).bind fun (s, rest) => if Utf8.valid s then some (.string s, rest) else none
    else if b = 110 then (rest.dropStart? (utf8 "ull")).map (.null, ·)
    else if b = 116 then (rest.dropStart? (utf8 "rue")).map (.bool true, ·)
    else if b = 102 then (rest.dropStart? (utf8 "alse")).map (.bool false, ·)
    else (scanNumber (b :: rest)).map fun (number, rest) => (ofNumber number, rest)

/-- The first token of a text and what follows it; nothing if only blanks are left.  Junk leaves
nothing behind it. -/
def next? (text : Bytes) : Option (Token × Bytes) :=
  match text.dropWhile isBlank with
  | [] => none
  | b :: rest => some ((scan? b rest).getD (.junk, []))

/-! ### Every token takes at least a byte -/

theorem scanText_length {done text s rest : Bytes} (h : scanText done text = some (s, rest)) :
    rest.length < text.length := by
  fun_induction scanText done text generalizing s rest
  all_goals first
    | (simp only [Option.some.injEq, Prod.mk.injEq, reduceCtorEq] at h; done)
    | (simp only [Option.some.injEq, Prod.mk.injEq] at h
       simp only [← h.2, List.length_cons]
       omega)
    | (rename_i ih; have := ih h; simp only [List.length_cons]; omega)

theorem dropWhile_length (p : UInt8 → Bool) (text : Bytes) :
    (text.dropWhile p).length ≤ text.length :=
  (List.dropWhile_suffix p).length_le

theorem dropWhile_length_of_takeWhile {p : UInt8 → Bool} {text : Bytes}
    (h : text.takeWhile p ≠ []) : (text.dropWhile p).length < text.length := by
  have hsplit := congrArg List.length (List.takeWhile_append_dropWhile (p := p) (l := text))
  have hpos := List.length_pos_iff.2 h
  simp only [List.length_append] at hsplit
  omega

theorem scanWhole_length {text whole rest : Bytes} (h : scanWhole text = some (whole, rest)) :
    rest.length < text.length := by
  unfold scanWhole at h
  split at h
  · simp_all
  · split at h
    · simp at h
    · next hne =>
      simp only [Option.some.injEq, Prod.mk.injEq] at h
      exact h.2 ▸ dropWhile_length_of_takeWhile hne

theorem scanFraction_length {text rest : Bytes} {fraction : Option Bytes}
    (h : scanFraction text = some (fraction, rest)) : rest.length ≤ text.length := by
  unfold scanFraction at h
  split at h
  · next tail =>
    split at h
    · simp at h
    · simp only [Option.some.injEq, Prod.mk.injEq] at h
      have := dropWhile_length Bytes.isDigit tail
      simp only [← h.2, List.length_cons]
      omega
  · simp only [Option.some.injEq, Prod.mk.injEq] at h
    simp [h.2]

theorem scanPower_length {negative : Bool} {text rest : Bytes} {exponent : Option Int}
    (h : scanPower negative text = some (exponent, rest)) : rest.length ≤ text.length := by
  unfold scanPower at h
  split at h
  · simp at h
  · simp only [Option.some.injEq, Prod.mk.injEq] at h
    exact h.2 ▸ dropWhile_length Bytes.isDigit text

theorem scanExponent_length {text rest : Bytes} {exponent : Option Int}
    (h : scanExponent text = some (exponent, rest)) : rest.length ≤ text.length := by
  unfold scanExponent at h
  split at h
  · split at h
    · split at h <;> have := scanPower_length h <;> simp only [List.length_cons] at * <;> omega
    · simp only [Option.some.injEq, Prod.mk.injEq] at h
      simp [← h.2]
  · simp only [Option.some.injEq, Prod.mk.injEq] at h
    simp [← h.2]

theorem scanUnsigned_length {negative : Bool} {text rest : Bytes} {number : Number}
    (h : scanUnsigned negative text = some (number, rest)) : rest.length < text.length := by
  simp only [scanUnsigned, Option.bind_eq_bind, Option.bind_eq_some_iff, Option.some.injEq,
    Prod.mk.injEq, Prod.exists] at h
  obtain ⟨whole, t₁, h₁, fraction, t₂, h₂, exponent, t₃, h₃, _, rfl⟩ := h
  have := scanWhole_length h₁
  have := scanFraction_length h₂
  have := scanExponent_length h₃
  omega

theorem scanNumber_length {text rest : Bytes} {number : Number}
    (h : scanNumber text = some (number, rest)) : rest.length < text.length := by
  unfold scanNumber at h
  split at h
  · have := scanUnsigned_length h
    simp only [List.length_cons]
    omega
  · exact scanUnsigned_length h

theorem dropStart?_length {text start rest : Bytes} (h : text.dropStart? start = some rest) :
    rest.length ≤ text.length := by
  unfold Bytes.dropStart? at h
  split at h
  · simp only [Option.some.injEq] at h
    simp [← h]
  · simp at h

theorem scan?_length {b : UInt8} {text rest : Bytes} {token : Token}
    (h : scan? b text = some (token, rest)) : rest.length ≤ text.length := by
  unfold scan? at h
  split at h
  · simp only [Option.some.injEq, Prod.mk.injEq] at h
    simp [h.2]
  · split at h
    · simp only [Option.bind_eq_some_iff, Prod.exists] at h
      obtain ⟨s, r, h₁, h₂⟩ := h
      have := scanText_length h₁
      split at h₂
      · simp_all
        omega
      · simp at h₂
    · split at h
      · simp only [Option.map_eq_some_iff, Prod.mk.injEq] at h
        obtain ⟨r, h, _, rfl⟩ := h
        exact dropStart?_length h
      · split at h
        · simp only [Option.map_eq_some_iff, Prod.mk.injEq] at h
          obtain ⟨r, h, _, rfl⟩ := h
          exact dropStart?_length h
        · split at h
          · simp only [Option.map_eq_some_iff, Prod.mk.injEq] at h
            obtain ⟨r, h, _, rfl⟩ := h
            exact dropStart?_length h
          · simp only [Option.map_eq_some_iff, Prod.mk.injEq, Prod.exists] at h
            obtain ⟨number, r, h, _, rfl⟩ := h
            have := scanNumber_length h
            simp only [List.length_cons] at this
            omega

theorem next?_length {text rest : Bytes} {token : Token} (h : next? text = some (token, rest)) :
    rest.length < text.length := by
  unfold next? at h
  have hdrop := dropWhile_length isBlank text
  split at h
  · simp at h
  · next b tail heq =>
    rw [heq, List.length_cons] at hdrop
    simp only [Option.some.injEq] at h
    cases hscan : scan? b tail with
    | none => simp_all; omega
    | some found =>
      obtain ⟨t, r⟩ := found
      have := scan?_length hscan
      simp_all
      omega

/-- All tokens of a text. -/
def sequence (text : Bytes) : List Token :=
  go [] text
where
  /-- The tokens found so far, last one first, and those of the rest of the text. -/
  go (done : List Token) (text : Bytes) : List Token :=
    match _h : next? text with
    | none => done.reverse
    | some (token, rest) => go (token :: done) rest
  termination_by text.length
  decreasing_by exact next?_length _h

end Token

end MeteredHttp.Json
