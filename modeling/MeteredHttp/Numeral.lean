import MeteredHttp.Bytes

/-!
# Numerals

Numbers are written in base ten or sixteen with lower-case digits and no leading zeros, and read
from the longest run of digits at the start of a text.

* `Numeral.render` writes a natural number, `Numeral.decimal` an integer in base ten.
* `Numeral.readRun?` reads the longest run of digits and returns the rest of the text.
-/

namespace MeteredHttp.Numeral

/-- The digit of value `d`, which is below sixteen. -/
def digit (d : Nat) : UInt8 :=
  if d < 10 then (48 + d).toUInt8 else (87 + d).toUInt8

/-- The value of a digit; letters of either case are accepted. -/
def digitValue? (b : UInt8) : Option Nat :=
  if 48 ≤ b ∧ b ≤ 57 then some (b.toNat - 48)
  else if 97 ≤ b ∧ b ≤ 102 then some (b.toNat - 87)
  else if 65 ≤ b ∧ b ≤ 70 then some (b.toNat - 55)
  else none

/-- Whether a byte is a digit of the base. -/
def isDigitOf (base : Nat) (b : UInt8) : Bool :=
  match digitValue? b with
  | some d => d < base
  | none => false

/-- A natural number in the given base, most significant digit first, without leading zeros. -/
def render (base n : Nat) : Bytes :=
  if _h : n < base ∨ base < 2 then [digit n]
  else render base (n / base) ++ [digit (n % base)]
termination_by n
decreasing_by exact Nat.div_lt_self (by omega) (by omega)

/-- An integer in base ten, with a minus sign when it is negative. -/
def decimal : Int → Bytes
  | .ofNat n => render 10 n
  | .negSucc n => 45 :: render 10 (n + 1)

/-- A number in base ten filled up with zeros on the left to `width` digits. -/
def padded (width n : Nat) : Bytes :=
  let digits := render 10 n
  List.replicate (width - digits.length) 48 ++ digits

/-- The number that a run of digits stands for. -/
def value (base : Nat) (digits : Bytes) : Nat :=
  digits.foldl (fun n b => base * n + (digitValue? b).getD 0) 0

/-- The number written by the longest run of digits at the start of a text, and the rest of the
text; nothing if the text does not start with a digit. -/
def readRun? (base : Nat) (text : Bytes) : Option (Nat × Bytes) :=
  match text.takeWhile (isDigitOf base) with
  | [] => none
  | digits => some (value base digits, text.dropWhile (isDigitOf base))

/-- The number written by the whole text, which is one or more digits. -/
def readAll? (base : Nat) (text : Bytes) : Option Nat :=
  match readRun? base text with
  | some (n, []) => some n
  | _ => none

/-- Two lower-case hexadecimal digits a byte. -/
def hexBytes (bytes : List UInt8) : Bytes :=
  bytes.flatMap fun b => [digit (b.toNat / 16), digit (b.toNat % 16)]

end MeteredHttp.Numeral
