import MeteredHttp.Binary64

/-!
# Shortest decimals

A binary64 number is written with the fewest decimal digits that read back as the same number;
among decimals of that length the one nearest to the number is taken, and of two equally near the
one with an even last digit.

* `Binary64.readsBack` says whether a decimal lies in the interval of reals that round to a number.
* `Binary64.shortest` searches the grids of one, two, ... seventeen digits.  If a grid has a point
  in the interval, one of the two neighbours of the number on that grid is such a point, so only
  these two are tried.
-/

namespace MeteredHttp.Binary64

/-- A decimal numeral: the magnitude `digits * 10 ^ exponent`. -/
structure Decimal where
  digits : Nat
  exponent : Int
  deriving DecidableEq

/-- A numeral without the zeros at its end. -/
def Decimal.trim (d : Decimal) : Decimal :=
  if _h : d.digits % 10 = 0 ∧ 0 < d.digits then
    Decimal.trim ⟨d.digits / 10, d.exponent + 1⟩
  else d
termination_by d.digits
decreasing_by exact Nat.div_lt_self (by omega) (by omega)

/-- Four times the significand, which makes room for the midpoints to both neighbours. -/
def quadruple (x : Binary64) : Nat := 4 * x.significand

/-- The lower end of the interval that rounds to `x`, in quarters of its last place.  Below a power
of two the neighbour is only half as far away. -/
def lowEnd (x : Binary64) : Nat :=
  if x.fraction = 0 ∧ 1 < x.biased then x.quadruple - 1 else x.quadruple - 2

/-- The upper end of the interval that rounds to `x`, in quarters of its last place. -/
def highEnd (x : Binary64) : Nat := x.quadruple + 2

/-- The weight of one unit of `10 ^ p`, on a scale shared with `binaryWeight x p`. -/
def decimalWeight (x : Binary64) (p : Int) : Nat :=
  Nat.pow 10 p.toNat * Nat.pow 2 (2 - x.exponent).toNat

/-- The weight of a quarter of the last place of `x`, on the scale of `decimalWeight x p`. -/
def binaryWeight (x : Binary64) (p : Int) : Nat :=
  Nat.pow 2 (x.exponent - 2).toNat * Nat.pow 10 (-p).toNat

/-- Whether a decimal rounds to `x`: the ends of the interval belong to it when the significand
is even. -/
def readsBack (x : Binary64) (d : Decimal) : Bool :=
  let point := d.digits * decimalWeight x d.exponent
  let low := x.lowEnd * binaryWeight x d.exponent
  let high := x.highEnd * binaryWeight x d.exponent
  if x.significand % 2 = 0 then low ≤ point ∧ point ≤ high else low < point ∧ point < high

/-- The exponent `k` with `10 ^ k ≤ |x| < 10 ^ (k + 1)`, for a finite `x` other than zero.  The
smallest positive number exceeds `10 ^ -350`. -/
def decimalExponent (x : Binary64) : Int :=
  let scaled := x.ratio.1 * Nat.pow 10 350 / x.ratio.2
  ((Numeral.render 10 scaled).length : Int) - 351

/-- The decimal with `10 ^ p` as its last place that reads back as `x` and is nearest to it. -/
def nearestOnGrid (x : Binary64) (p : Int) : Option Decimal :=
  let unit := decimalWeight x p
  let target := x.quadruple * binaryWeight x p
  let below : Decimal := ⟨target / unit, p⟩
  let above : Decimal := ⟨target / unit + 1, p⟩
  match readsBack x below, readsBack x above with
  | false, false => none
  | true, false => some below
  | false, true => some above
  | true, true =>
    let gap := target % unit
    if 2 * gap < unit ∨ (2 * gap = unit ∧ below.digits % 2 = 0) then some below else some above

/-- The first hit among the grids whose numbers of digits are listed. -/
def firstOnGrids (x : Binary64) (counts : List Nat) : Option Decimal :=
  counts.findSome? fun n : Nat => nearestOnGrid x (x.decimalExponent + 1 - n)

/-- The shortest decimal that reads back as the finite number `x`.  The neighbour above `x` may be
the next power of ten, which has a digit more than its grid, a zero; hence the trimming. -/
def shortest (x : Binary64) : Decimal :=
  if x.significand = 0 then ⟨0, 0⟩
  else ((firstOnGrids x ((List.range 17).map (· + 1))).getD ⟨0, 0⟩).trim

end MeteredHttp.Binary64
