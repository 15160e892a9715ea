import MeteredHttp.Proofs.Numeral
import MeteredHttp.Proofs.Transfer.Reference

/-!
# Error codes of HTTP/2 in messages

The message of a transfer that failed is meant for people, and yet the error code of HTTP/2 is taken
from it: from the number behind one of two keys, or else from the first name of a code that occurs.

* `Transfer.leadingNumber?_decimal` and `Transfer.leadingNumber?_hexadecimal` read back numbers.
* `Transfer.statedHttp2Code_codeName` says that the name of a code is understood between words that
  say nothing about codes, and `Transfer.statedHttp2Code_closedMessage` that the number is in the
  message about a stream that was closed.
* **`Transfer.stated_codes_are_recovered`** is both, together with what becomes of the stream.
-/

namespace MeteredHttp.Transfer

open Numeral (isDigitOf render)

/-! ## Numbers -/

variable {text rest : Bytes} {key : String}

lemma leadingNumber?_blank (text : Bytes) : leadingNumber? (32 :: text) = leadingNumber? text := by
  simp only [leadingNumber?]
  rfl

/-- A numeral does not start with the mark of base sixteen, which has an `x` in it. -/
lemma mark_not_start (n : Nat) (hrest : ∀ b ∈ rest.head?, b ≠ 120) :
    ¬utf8 "0x" <+: render 10 n ++ rest := by
  have hx : (120 : UInt8) ∉ render 10 n := by
    intro hmem
    exact absurd (Numeral.isDigitOf_of_mem_render (by decide) (by decide) hmem) (by decide)
  rintro ⟨back, hback⟩
  have hstart : 48 :: 120 :: back = render 10 n ++ rest := hback
  cases hrender : render 10 n with
  | nil => exact absurd hrender (Numeral.render_ne_nil 10 n)
  | cons first others =>
    rw [hrender] at hx hstart
    obtain ⟨-, htail⟩ := List.cons.inj hstart
    cases others with
    | nil =>
      obtain rfl : 120 :: back = rest := htail
      exact hrest 120 rfl rfl
    | cons second others =>
      obtain ⟨rfl, -⟩ := List.cons.inj htail
      exact hx (by simp)

/-- A number in base ten is read back, if what follows does not continue it. -/
lemma leadingNumber?_decimal (n : UInt32)
    (hrest : ∀ b ∈ rest.head?, isDigitOf 10 b = false ∧ b ≠ 120) :
    leadingNumber? (render 10 n.toNat ++ rest) = some n := by
  have hwrites : Numeral.Writes 10 (render 10 n.toNat) n.toNat :=
    Numeral.writes_render (by decide) (by decide) n.toNat
  have hblanks : (render 10 n.toNat ++ rest).dropWhile (· == 32) = render 10 n.toNat ++ rest := by
    cases hrender : render 10 n.toNat with
    | nil => exact absurd hrender hwrites.ne_nil
    | cons first others =>
      have hdigit := hwrites.digits first (by simp [hrender])
      have hfirst : (first == 32) = false := by
        rw [beq_eq_false_iff_ne]
        rintro rfl
        exact absurd hdigit (by decide)
      simp [hfirst]
  have hmark := Bytes.dropStart?_eq_none.2 (mark_not_start n.toNat fun b hb => (hrest b hb).2)
  have hrun := Numeral.readRun?_append hwrites fun b hb => (hrest b hb).1
  simp [leadingNumber?, hblanks, hmark, hrun, n.toNat_lt_size]

/-- A number in base sixteen is read back, if what follows does not continue it. -/
lemma leadingNumber?_hexadecimal (n : UInt32) (hrest : ∀ b ∈ rest.head?, isDigitOf 16 b = false) :
    leadingNumber? (utf8 "0x" ++ (render 16 n.toNat ++ rest)) = some n := by
  have hwrites : Numeral.Writes 16 (render 16 n.toNat) n.toNat :=
    Numeral.writes_render (by decide) (by decide) n.toNat
  have hrun := Numeral.readRun?_append hwrites hrest
  have hblanks : (utf8 "0x" ++ (render 16 n.toNat ++ rest)).dropWhile (· == 32)
      = utf8 "0x" ++ (render 16 n.toNat ++ rest) := rfl
  simp only [leadingNumber?, hblanks, Bytes.dropStart?_append, hrun, n.toNat_lt_size, if_true]
  simp

/-! ## Keys -/

lemma numberBehind?_of_not_infix (h : ¬utf8 key <:+: text) : numberBehind? text key = none := by
  rw [numberBehind?, Bytes.cut?_eq_none.2 h]
  rfl

lemma numberBehind?_append {front : Bytes} (hkey : utf8 key ≠ [])
    (h : ¬utf8 key <:+: front ++ (utf8 key).dropLast) (back : Bytes) :
    numberBehind? (front ++ utf8 key ++ back) key = leadingNumber? back := by
  rw [numberBehind?, Bytes.cut?_append hkey h]
  rfl

/-! ## Names of codes -/

/-- Nothing, or a text that ends with a blank. -/
def EndsBlank (text : Bytes) : Prop := ∀ b ∈ text.getLast?, b = 32

/-- Nothing, or a text that starts with a blank. -/
def StartsBlank (text : Bytes) : Prop := ∀ b ∈ text.head?, b = 32

instance (text : Bytes) : Decidable (EndsBlank text) := Option.decidableForallMem text.getLast?

instance (text : Bytes) : Decidable (StartsBlank text) := Option.decidableForallMem text.head?

/-- A text says nothing about error codes: neither a key nor a name is in it. -/
structure Silent (text : Bytes) : Prop where
  err : ¬utf8 "err " <:+: text
  errorCode : ¬utf8 "error code" <:+: text
  names : ∀ name ∈ Http2.codeNames, ¬name <:+: text

variable {front word back : Bytes}

/-- A word between blanks: a key is in one of the three parts, unless it has a blank in it where it
would lie across their seams. -/
lemma infix_between {key : Bytes} (hfront : EndsBlank front) (hback : StartsBlank back)
    (hne : word ≠ []) (hhead : ∀ y ∈ word.head?, ¬[32, y] <:+: key)
    (hlast : ∀ x ∈ word.getLast?, ¬[x, 32] <:+: key) :
    key <:+: front ++ word ++ back ↔ key <:+: front ∨ key <:+: word ∨ key <:+: back := by
  have hlast' : (front ++ word).getLast? = word.getLast? := by
    rw [List.getLast?_append, Option.or_of_isSome (List.getLast?_isSome.2 hne)]
  rw [Bytes.infix_append_of_seam, Bytes.infix_append_of_seam, or_assoc]
  · intro x hx y hy
    rw [hfront x hx]
    exact hhead y hy
  · intro x hx y hy
    rw [hlast'] at hx
    rw [hback y hy]
    exact hlast x hx

lemma known_names_seams : ∀ name ∈ Http2.codeNames, name ≠ []
    ∧ ∀ key ∈ utf8 "err " :: utf8 "error code" :: Http2.codeNames,
      (∀ y ∈ name.head?, ¬[32, y] <:+: key) ∧ ∀ x ∈ name.getLast?, ¬[x, 32] <:+: key := by
  decide +kernel

lemma known_names_silent : ∀ name ∈ Http2.codeNames,
    ¬utf8 "err " <:+: name ∧ ¬utf8 "error code" <:+: name := by
  decide +kernel

/-- No name is a part of a later one. -/
lemma known_names_apart : Http2.codeNames.Pairwise fun earlier later => ¬earlier <:+: later := by
  decide +kernel

variable {code : UInt32}

/-- Where neither key is found the names are looked for in order. -/
lemma statedHttp2Code_of_named {i : Nat} (herr : ¬utf8 "err " <:+: text)
    (herrorCode : ¬utf8 "error code" <:+: text) (hi : i < Http2.codeNames.length)
    (hname : Http2.codeNames[i] <:+: text)
    (hearlier : ∀ j (hj : j < i), ¬Http2.codeNames[j] <:+: text) :
    statedHttp2Code text = i.toUInt32 := by
  have hfound : Http2.codeNames.findIdx? (fun name => text.contains name) = some i := by
    refine List.findIdx?_eq_some_iff_getElem.2 ⟨hi, Bytes.contains_iff.2 hname, ?_⟩
    intro j hj
    rw [Bytes.contains_iff]
    exact hearlier j hj
  simp only [statedHttp2Code, numberBehind?_of_not_infix herr,
    numberBehind?_of_not_infix herrorCode, hfound, Option.elim_some]

/-- The name of a known code is the first one that is found. -/
lemma statedHttp2Code_of_known (h : code.toNat < Http2.codeNames.length) (hfront : EndsBlank front)
    (hback : StartsBlank back) (hsilent : Silent front) (hsilent' : Silent back) :
    statedHttp2Code (front ++ Http2.codeName code ++ back) = code := by
  have hcode : Http2.codeName code = Http2.codeNames[code.toNat] := by simp [Http2.codeName, h]
  have hname : Http2.codeNames[code.toNat] ∈ Http2.codeNames := List.getElem_mem h
  obtain ⟨hne, hseams⟩ := known_names_seams _ hname
  obtain ⟨herr, herrorCode⟩ := known_names_silent _ hname
  have hparts : ∀ key ∈ utf8 "err " :: utf8 "error code" :: Http2.codeNames,
      key <:+: front ++ Http2.codeNames[code.toNat] ++ back
        ↔ key <:+: front ∨ key <:+: Http2.codeNames[code.toNat] ∨ key <:+: back := by
    intro key hkey
    obtain ⟨hhead, hlast⟩ := hseams key hkey
    exact infix_between hfront hback hne hhead hlast
  rw [hcode, statedHttp2Code_of_named ?_ ?_ h (List.infix_append _ _ _) ?_]
  · exact UInt32.ofNat_toNat
  · rw [hparts _ (by simp), not_or, not_or]
    exact ⟨hsilent.err, herr, hsilent'.err⟩
  · rw [hparts _ (by simp), not_or, not_or]
    exact ⟨hsilent.errorCode, herrorCode, hsilent'.errorCode⟩
  · intro j hj
    have hearlier : Http2.codeNames[j] ∈ Http2.codeNames := List.getElem_mem (hj.trans h)
    rw [hparts _ (by simp [hearlier]), not_or, not_or]
    exact ⟨hsilent.names _ hearlier, List.pairwise_iff_getElem.1 known_names_apart _ _ _ h hj,
      hsilent'.names _ hearlier⟩

/-- An unknown code is written as a number behind a key. -/
lemma codeName_of_unknown (h : ¬code.toNat < Http2.codeNames.length) :
    Http2.codeName code = utf8 "unknown error code 0x" ++ render 16 code.toNat := by
  rw [Http2.codeName, List.getElem?_eq_none (Nat.le_of_not_lt h)]
  rfl

/-- The key that is looked for first is not in the name of an unknown code, as it has an `r` in it
and numerals have not. -/
lemma err_not_infix_unknown (n : Nat) :
    ¬utf8 "err " <:+: utf8 "unknown error code 0x" ++ render 16 n := by
  have hr : (114 : UInt8) ∉ render 16 n := by
    intro hmem
    exact absurd (Numeral.isDigitOf_of_mem_render (by decide) (by decide) hmem) (by decide)
  rw [Bytes.infix_append_of_seam, not_or]
  · refine ⟨by decide, ?_⟩
    intro hinside
    exact hr (hinside.subset (by decide))
  · rintro x hx y - hinside
    obtain rfl : 120 = x := Option.some.inj hx
    exact absurd (hinside.subset List.mem_cons_self) (by decide)

/-- That key ends with a blank, in front of which there is an `r`. -/
lemma blank_in_err (x : UInt8) :
    ([x, 32] <:+: utf8 "err " → x = 114) ∧ ¬[32, x] <:+: utf8 "err " := by
  have hkey : utf8 "err " = [101, 114, 114, 32] := rfl
  rw [hkey]
  simp [List.infix_cons_iff]

lemma err_not_infix_around_unknown (hfront : EndsBlank front) (hback : StartsBlank back)
    (hsilent : Silent front) (hsilent' : Silent back) (n : Nat) :
    ¬utf8 "err " <:+: front ++ (utf8 "unknown error code 0x" ++ render 16 n) ++ back := by
  have hne := Numeral.render_ne_nil 16 n
  rw [infix_between hfront hback (List.append_ne_nil_of_right_ne_nil _ hne), not_or, not_or]
  · exact ⟨hsilent.err, err_not_infix_unknown n, hsilent'.err⟩
  · rintro y -
    exact (blank_in_err y).2
  · intro x hx hinside
    have hlast : x ∈ (render 16 n).getLast? := by
      rwa [List.getLast?_append, Option.or_of_isSome (List.getLast?_isSome.2 hne)] at hx
    have hdigit := Numeral.isDigitOf_of_mem_render (by decide) (by decide)
      (List.mem_of_getLast? hlast)
    rw [(blank_in_err x).1 hinside] at hdigit
    exact absurd hdigit (by decide)

lemma statedHttp2Code_of_unknown (h : ¬code.toNat < Http2.codeNames.length)
    (hfront : EndsBlank front) (hback : StartsBlank back) (hsilent : Silent front)
    (hsilent' : Silent back) : statedHttp2Code (front ++ Http2.codeName code ++ back) = code := by
  have herr := err_not_infix_around_unknown hfront hback hsilent hsilent' code.toNat
  rw [← codeName_of_unknown h] at herr
  have hsplit : front ++ Http2.codeName code ++ back
      = front ++ utf8 "unknown " ++ utf8 "error code"
        ++ 32 :: (utf8 "0x" ++ (render 16 code.toNat ++ back)) := by
    have hname : utf8 "unknown error code 0x"
        = utf8 "unknown " ++ utf8 "error code" ++ 32 :: utf8 "0x" := rfl
    rw [codeName_of_unknown h, hname]
    simp only [List.append_assoc, List.cons_append]
  have hfirst : ¬utf8 "error code" <:+: front ++ utf8 "unknown "
      ++ (utf8 "error code").dropLast := by
    rw [List.append_assoc, Bytes.infix_append_of_seam, not_or]
    · exact ⟨hsilent.errorCode, by decide⟩
    · intro x hx y hy
      obtain rfl : 117 = y := Option.some.inj hy
      rw [hfront x hx]
      decide
  have hend : ∀ b ∈ back.head?, isDigitOf 16 b = false := by
    intro b hb
    rw [hback b hb]
    rfl
  rw [statedHttp2Code, numberBehind?_of_not_infix herr, hsplit,
    numberBehind?_append (by decide) hfirst, leadingNumber?_blank,
    leadingNumber?_hexadecimal code hend]

/-- **The name of a code is understood** between words that say nothing about codes. -/
lemma statedHttp2Code_codeName (code : UInt32) (hfront : EndsBlank front) (hback : StartsBlank back)
    (hsilent : Silent front) (hsilent' : Silent back) :
    statedHttp2Code (front ++ Http2.codeName code ++ back) = code := by
  by_cases h : code.toNat < Http2.codeNames.length
  · exact statedHttp2Code_of_known h hfront hback hsilent hsilent'
  · exact statedHttp2Code_of_unknown h hfront hback hsilent hsilent'

/-! ## Streams that were closed -/

/-- The message about a stream that was closed for a reason. -/
def closedMessage (id code : UInt32) (reason : Bytes) : Bytes :=
  utf8 "HTTP/2 stream " ++ render 10 id.toNat ++ utf8 " was not closed cleanly: " ++ reason
    ++ utf8 " (err " ++ render 10 code.toNat ++ utf8 ")"

variable {id : UInt32} {reason : Bytes}

lemma streamId_closedMessage (id code : UInt32) (reason : Bytes) :
    numberBehind? (closedMessage id code reason) "stream" = some id := by
  have hsplit : closedMessage id code reason
      = utf8 "HTTP/2 " ++ utf8 "stream" ++ 32 :: (render 10 id.toNat
        ++ (utf8 " was not closed cleanly: " ++ reason ++ utf8 " (err " ++ render 10 code.toNat
          ++ utf8 ")")) := by
    have hopening : utf8 "HTTP/2 stream " = utf8 "HTTP/2 " ++ utf8 "stream" ++ [32] := rfl
    rw [closedMessage, hopening]
    simp only [List.append_assoc, List.cons_append, List.nil_append]
  rw [hsplit, numberBehind?_append (by decide) (by decide), leadingNumber?_blank,
    leadingNumber?_decimal]
  intro b hb
  obtain rfl : 32 = b := Option.some.inj hb
  decide

/-- The number of the stream does not hide the key of the code. -/
lemma err_not_infix_opening (id : UInt32) :
    ¬utf8 "err " <:+: utf8 "HTTP/2 stream " ++ render 10 id.toNat
      ++ utf8 " was not closed cleanly: " := by
  have hr : (114 : UInt8) ∉ render 10 id.toNat := by
    intro hmem
    exact absurd (Numeral.isDigitOf_of_mem_render (by decide) (by decide) hmem) (by decide)
  rw [infix_between (by decide) (by decide) (Numeral.render_ne_nil 10 _), not_or, not_or]
  · refine ⟨by decide, ?_, by decide⟩
    intro hinside
    exact hr (hinside.subset (by decide))
  · rintro y -
    exact (blank_in_err y).2
  · intro x hx hinside
    rw [(blank_in_err x).1 hinside] at hx
    exact hr (List.mem_of_getLast? hx)

/-- **The code of a stream that was closed** is the number behind the first key in the message, if
the reason does not have that key in it. -/
lemma statedHttp2Code_closedMessage (id code : UInt32)
    (hreason : ¬utf8 "err " <:+: reason ++ [32]) :
    statedHttp2Code (closedMessage id code reason) = code := by
  have hsplit : closedMessage id code reason
      = utf8 "HTTP/2 stream " ++ render 10 id.toNat ++ utf8 " was not closed cleanly: "
        ++ (reason ++ [32]) ++ [40] ++ utf8 "err " ++ (render 10 code.toNat ++ utf8 ")") := by
    have hparenthesis : utf8 " (err " = [32] ++ [40] ++ utf8 "err " := rfl
    rw [closedMessage, hparenthesis]
    simp only [List.append_assoc]
  have hfirst : ¬utf8 "err " <:+: utf8 "HTTP/2 stream " ++ render 10 id.toNat
      ++ utf8 " was not closed cleanly: " ++ (reason ++ [32]) ++ [40]
      ++ (utf8 "err ").dropLast := by
    rw [List.append_assoc _ [40], Bytes.infix_append_of_seam, Bytes.infix_append_of_seam, not_or,
      not_or]
    · exact ⟨⟨err_not_infix_opening id, hreason⟩, by decide⟩
    · intro x hx y _
      rw [List.getLast?_append] at hx
      obtain rfl : 32 = x := Option.some.inj hx
      exact (blank_in_err y).2
    · intro x hx y _
      obtain rfl : 32 = x := by simpa using hx
      exact (blank_in_err y).2
  have hend : ∀ b ∈ (utf8 ")").head?, isDigitOf 10 b = false ∧ b ≠ 120 := by
    intro b hb
    obtain rfl : 41 = b := Option.some.inj hb
    decide
  rw [statedHttp2Code, hsplit, numberBehind?_append (by decide) hfirst,
    leadingNumber?_decimal code hend]

/-- **Error codes of HTTP/2 are recovered from messages.**

* The name of a code is understood wherever it stands between words that say nothing about codes.
* A stream that was closed for a reason without the key of codes fails with the number of the stream
  and the code of the message, and is reported with the number of that code. -/
theorem stated_codes_are_recovered :
    (∀ (code : UInt32) (front back : Bytes), EndsBlank front → StartsBlank back →
        Silent front → Silent back →
          statedHttp2Code (front ++ Http2.codeName code ++ back) = code)
      ∧ ∀ (id code : UInt32) (reason : Bytes), ¬utf8 "err " <:+: reason ++ [32] →
          ∀ r : Result, r.code = .streamFailed → r.rejection = none →
            r.error = closedMessage id code reason → ∀ (method : Method) (url : Bytes),
              r.failure method url = .because (.url method.operation url) (.leaf (.stream id code))
                ∧ (r.failure method url).classify.code.number.toNat
                  = 1630 + if code.toNat ≤ 13 then code.toNat + 1 else 0 := by
  refine ⟨fun code front back => statedHttp2Code_codeName code, ?_⟩
  intro id code reason hreason r hcode hrejection herror method url
  have hstated : statedHttp2Code r.error = code := by
    rw [herror, statedHttp2Code_closedMessage id code hreason]
  constructor
  · have hstream : r.codeFailure = r.streamFailure := by
      rw [Result.codeFailure, hcode]
      rfl
    rw [Result.failure, hrejection, hstream, Result.streamFailure, hstated, herror,
      streamId_closedMessage, Option.getD_some]
  · have hreference : r.reference = http2Number 1630 (statedHttp2Code r.error) := by
      rw [Result.reference, hrejection, Result.codeNumber, hcode]
      rfl
    have hnumber := r.number_failure method url
    rw [hreference, hstated] at hnumber
    simpa only [Failure.number, http2Number, Nat.lt_succ_iff] using hnumber

theorem stated_codes_are_recovered_reset :
    Silent (utf8 "peer reset it: ") ∧ Silent (utf8 " (received)")
      ∧ statedHttp2Code (utf8 "peer reset it: " ++ Http2.codeName 0xdead ++ utf8 " (received)")
        = 0xdead
      ∧ ¬utf8 "err " <:+: utf8 "reset by the peer" ++ [32]
      ∧ let r : Result := { code := .streamFailed, status := 200,
                            error := closedMessage 5 8 (utf8 "reset by the peer") }
        r.failure .get (utf8 "http://a/")
            = .because (.url (utf8 "Get") (utf8 "http://a/")) (.leaf (.stream 5 8))
          ∧ (r.failure .get (utf8 "http://a/")).classify.code.number.toNat = 1639 := by
  have hfront : Silent (utf8 "peer reset it: ") := ⟨by decide, by decide, by decide⟩
  have hback : Silent (utf8 " (received)") := ⟨by decide, by decide, by decide⟩
  have hreason : ¬utf8 "err " <:+: utf8 "reset by the peer" ++ [32] := by decide
  refine ⟨hfront, hback, ?_, hreason, ?_⟩
  · exact stated_codes_are_recovered.1 0xdead _ _ (by decide) (by decide) hfront hback
  · exact stated_codes_are_recovered.2 5 8 _ hreason _ rfl rfl rfl .get (utf8 "http://a/")

end MeteredHttp.Transfer
