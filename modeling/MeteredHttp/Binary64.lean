import MeteredHttp.Numeral

/-!
# Binary floating point

Sample values and the fractional numbers of JSON documents are IEEE 754 binary64 numbers.  The
library needs few operations on them, and needs them exactly, so a number is its 64 bits and all
arithmetic is done on natural numbers.

* `Binary64.ofRatio` rounds a quotient of two natural numbers to the nearest number, a tie going
  to the even significand; what is too large becomes an infinity.
* `Binary64.ofInt`, `Binary64.ofDecimal` and `Binary64.divNat` are that rounding applied to an
  integer, to a decimal numeral, and to an exact quotient.
* `Binary64.truncate?` drops the fraction of a finite number.
-/

namespace MeteredHttp

/-- A binary64 number, given by its bits: sign, eleven bits of exponent, 52 bits of fraction. -/
structure Binary64 where
  bits : UInt64
  deriving DecidableEq

namespace Binary64

/-! ## Reading the bits -/

/-- The sign bit. -/
def negative (x : Binary64) : Bool := Nat.pow 2 63 ≤ x.bits.toNat

/-- The eleven bits of the biased exponent. -/
def biased (x : Binary64) : Nat := x.bits.toNat / Nat.pow 2 52 % 2048

/-- The 52 bits of the fraction. -/
def fraction (x : Binary64) : Nat := x.bits.toNat % Nat.pow 2 52

/-- Whether the number is neither an infinity nor a NaN. -/
def isFinite (x : Binary64) : Bool := x.biased ≠ 2047

/-- The significand `s` of a finite number, whose magnitude is `s * 2 ^ exponent`. -/
def significand (x : Binary64) : Nat :=
  if x.biased = 0 then x.fraction else Nat.pow 2 52 + x.fraction

/-- The exponent of the unit in the last place of a finite number. -/
def exponent (x : Binary64) : Int := (max x.biased 1 : Nat) - 1075

/-- The magnitude of a finite number as a quotient of two natural numbers. -/
def ratio (x : Binary64) : Nat × Nat :=
  (x.significand * Nat.pow 2 x.exponent.toNat, Nat.pow 2 (-x.exponent).toNat)

/-! ## Rounding -/

/-- The number with the given sign whose remaining 63 bits are `magnitude`. -/
def assemble (negative : Bool) (magnitude : Nat) : Binary64 :=
  ⟨((if negative then Nat.pow 2 63 else 0) + magnitude).toUInt64⟩

/-- The bits of an infinity without its sign. -/
def infinityMagnitude : Nat := 2047 * Nat.pow 2 52

/-- A quotient rounded to the nearest natural number, a tie to the even one. -/
def roundDiv (num den : Nat) : Nat :=
  let q := num / den
  let r := num % den
  if 2 * r < den ∨ (2 * r = den ∧ q % 2 = 0) then q else q + 1

/-- The quotient `num / den` divided by `2 ^ e`, again as a quotient. -/
def scaled (num den : Nat) (e : Int) : Nat × Nat :=
  (num * Nat.pow 2 (-e).toNat, den * Nat.pow 2 e.toNat)

/-- The exponent of the unit in the last place of the numbers around `num / den`: the quotient has
53 bits in front of it, or fewer where numbers are subnormal. -/
def unitExponent (num den : Nat) : Int :=
  let e : Int := num.log2 - den.log2 - 52
  let (n, d) := scaled num den e
  max (if n / d < Nat.pow 2 52 then e - 1 else e) (-1074)

/-- The number nearest to `num / den` in magnitude.  The significand is added to the exponent
field rather than put beside it: its leading bit, present exactly for the normal numbers, makes
the difference between subnormal and normal, and a significand that rounds up to `2 ^ 53` carries
into the next exponent. -/
def ofRatio (negative : Bool) (num den : Nat) : Binary64 :=
  if num = 0 then assemble negative 0
  else
    let e := unitExponent num den
    let (n, d) := scaled num den e
    assemble negative (min ((e + 1074).toNat * Nat.pow 2 52 + roundDiv n d) infinityMagnitude)

/-- The number nearest to an integer. -/
def ofInt (i : Int) : Binary64 := ofRatio (i < 0) i.natAbs 1

/-- The number nearest to `digits * 10 ^ exponent`.  Exponents so large or so small that the result
is certain are settled before any power is computed. -/
def ofDecimal (negative : Bool) (digits : Nat) (exponent : Int) : Binary64 :=
  if digits = 0 then assemble negative 0
  else if 400 < exponent then assemble negative infinityMagnitude
  else if exponent < -(digits.log2 + 400 : Nat) then assemble negative 0
  else ofRatio negative (digits * Nat.pow 10 exponent.toNat) (Nat.pow 10 (-exponent).toNat)

/-- A finite number divided by a positive natural number. -/
def divNat (x : Binary64) (n : Nat) : Binary64 :=
  ofRatio x.negative x.ratio.1 (x.ratio.2 * n)

/-- A finite number without its fraction, rounded toward zero. -/
def truncate? (x : Binary64) : Option Int :=
  if x.isFinite then
    let magnitude : Int := (x.ratio.1 / x.ratio.2 : Nat)
    some (if x.negative then -magnitude else magnitude)
  else none

/-- The number zero, with a positive sign. -/
def zero : Binary64 := ⟨0⟩

/-- The number one. -/
def one : Binary64 := ofInt 1

instance : Inhabited Binary64 := ⟨zero⟩

end Binary64

end MeteredHttp
