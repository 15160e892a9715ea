/-!
# Texts as byte strings

Every text the library handles (URLs, header fields, tag values, error messages, bodies) is a
string of bytes.  Nothing promises that it is valid UTF-8, it may hold NUL bytes, and texts are
compared and sorted byte by byte, so a list of bytes is the whole truth about a text.

* `utf8` gives the bytes of a text written in this library.
* `Bytes.find?` and `Bytes.cut?` look for the first occurrence of a key in a text.
* `Bytes.lower` maps the ASCII letters to lower case and leaves every other byte alone.
* `Bytes.untilNul` is what a reader of NUL-terminated text sees.
-/

namespace MeteredHttp

/-- A text: a string of bytes, in no particular encoding. -/
abbrev Bytes := List UInt8

/-- The UTF-8 bytes of a text written in this library. -/
def utf8 (s : String) : Bytes := s.toByteArray.data.toList

namespace Bytes

/-! ## Searching -/

/-- The position, counted from `n`, of the first place where `key` starts in `text`. -/
def findFrom (key : Bytes) (n : Nat) : Bytes → Option Nat
  | [] => if key = [] then some n else none
  | b :: rest => if key.isPrefixOf (b :: rest) then some n else findFrom key (n + 1) rest

/-- The position of the first occurrence of `key` in `text`. -/
def find? (text key : Bytes) : Option Nat := findFrom key 0 text

/-- Whether `key` occurs somewhere in `text`. -/
def contains (text key : Bytes) : Bool := (find? text key).isSome

/-- The text before and the text after the first occurrence of `key`. -/
def cut? (text key : Bytes) : Option (Bytes × Bytes) :=
  (find? text key).map fun i => (text.take i, text.drop (i + key.length))

/-- What follows `start`, if `text` starts with it. -/
def dropStart? (text start : Bytes) : Option Bytes :=
  if start.isPrefixOf text then some (text.drop start.length) else none

/-- The fields between the occurrences of the byte `sep`; there is always at least one. -/
def fields (sep : UInt8) (text : Bytes) : List Bytes :=
  text.foldr
    (fun b acc =>
      if b = sep then [] :: acc
      else match acc with
        | [] => [[b]]
        | field :: others => (b :: field) :: others)
    [[]]

/-- The part of a text before its first NUL byte: what a reader of NUL-terminated text sees. -/
def untilNul (text : Bytes) : Bytes := text.takeWhile (· ≠ 0)

/-! ## Letter case -/

/-- A capital ASCII letter becomes the small one; every other byte stays. -/
def lowerByte (b : UInt8) : UInt8 :=
  if 65 ≤ b ∧ b ≤ 90 then b + 32 else b

/-- Comparison form of host names: ASCII letters in lower case, other bytes untouched. -/
def lower (text : Bytes) : Bytes := text.map lowerByte

/-! ## Byte classes -/

/-- The ASCII digits. -/
def isDigit (b : UInt8) : Bool := 48 ≤ b && b ≤ 57

/-- The ASCII letters. -/
def isLetter (b : UInt8) : Bool := (65 ≤ b && b ≤ 90) || (97 ≤ b && b ≤ 122)

end Bytes

end MeteredHttp
