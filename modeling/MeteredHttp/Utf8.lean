import MeteredHttp.Bytes

/-!
# UTF-8

The well-formed UTF-8 texts, recognised one byte at a time: shortest forms only, no surrogates,
nothing above U+10FFFF.

* `Utf8.State` is what the bytes read so far still owe, and `Utf8.next` one byte of progress.
* `Utf8.valid` accepts a text whose bytes end between two characters.
* `Utf8.encode` gives the bytes of one scalar value.
-/

namespace MeteredHttp.Utf8

/-- Where a reader stands: between two characters, or inside one that still needs `owed`
continuation bytes, the next of which lies between `low` and `high`. -/
inductive State where
  | between
  | inside (owed : Nat) (low high : UInt8)
  deriving DecidableEq

/-- The state after the first byte of a character. -/
def first (b : UInt8) : Option State :=
  if b ≤ 0x7F then some .between
  else if 0xC2 ≤ b ∧ b ≤ 0xDF then some (.inside 1 0x80 0xBF)
  else if b = 0xE0 then some (.inside 2 0xA0 0xBF)
  else if b = 0xED then some (.inside 2 0x80 0x9F)
  else if 0xE1 ≤ b ∧ b ≤ 0xEF then some (.inside 2 0x80 0xBF)
  else if b = 0xF0 then some (.inside 3 0x90 0xBF)
  else if 0xF1 ≤ b ∧ b ≤ 0xF3 then some (.inside 3 0x80 0xBF)
  else if b = 0xF4 then some (.inside 3 0x80 0x8F)
  else none

/-- One byte of progress; nothing when no well-formed text goes on like this. -/
def next : State → UInt8 → Option State
  | .between, b => first b
  | .inside owed low high, b =>
    if low ≤ b ∧ b ≤ high then
      some (if owed ≤ 1 then .between else .inside (owed - 1) 0x80 0xBF)
    else none

/-- The state after all bytes of a text. -/
def run (state : State) (text : Bytes) : Option State :=
  text.foldlM next state

/-- Whether a text is well-formed UTF-8. -/
def valid (text : Bytes) : Bool := run .between text == some .between

/-- The bytes of the character with the given number, which is below 0x110000. -/
def encode (c : Nat) : Bytes :=
  if c < 0x80 then [c.toUInt8]
  else if c < 0x800 then [(0xC0 + c / 0x40).toUInt8, (0x80 + c % 0x40).toUInt8]
  else if c < 0x10000 then
    [(0xE0 + c / 0x1000).toUInt8, (0x80 + c / 0x40 % 0x40).toUInt8, (0x80 + c % 0x40).toUInt8]
  else
    [(0xF0 + c / 0x40000).toUInt8, (0x80 + c / 0x1000 % 0x40).toUInt8,
      (0x80 + c / 0x40 % 0x40).toUInt8, (0x80 + c % 0x40).toUInt8]

end MeteredHttp.Utf8
