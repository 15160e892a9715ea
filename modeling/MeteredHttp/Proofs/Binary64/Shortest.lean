import MeteredHttp.Proofs.Binary64.Rounding
import MeteredHttp.Proofs.Numeral
import Mathlib.Data.Nat.Cast.Order.Field

/-!
# Shortest decimals read back

* `Binary64.readsBack_iff` says that the comparison of natural numbers by which decimals are chosen
  decides whether a decimal lies in the interval of a number.
* `Binary64.exists_nearestOnGrid` finds such a decimal on every grid that is fine enough, and a
  grid of 17 digits is.
* **`Binary64.roundsTo_shortest`** concludes that the shortest decimal of a number lies in its
  interval.
-/

namespace MeteredHttp.Binary64

variable {x : Binary64}

/-! ## Decimals -/

/-- The magnitude of a decimal. -/
def Decimal.value (d : Decimal) : ℚ := d.digits * 10 ^ d.exponent

/-- The zeros at the end of a decimal do not count. -/
lemma Decimal.value_trim (d : Decimal) : d.trim.value = d.value := by
  fun_induction Decimal.trim d with
  | case1 d h ih =>
    rw [ih]
    have hdigits : d.digits = d.digits / 10 * 10 := by omega
    simp only [value]
    rw [zpow_add_one₀ (by norm_num)]
    nth_rewrite 2 [hdigits]
    push_cast
    ring
  | case2 => rfl

/-! ## The interval -/

/-- The magnitude of a finite number. -/
def value (x : Binary64) : ℚ := x.significand * 2 ^ x.exponent

/-- The two weights are a unit of the decimal and a quarter of the last place, on a common scale. -/
lemma weights_eq (x : Binary64) (p : Int) : ∃ scale : ℚ, 0 < scale
    ∧ (decimalWeight x p : ℚ) = 10 ^ p * scale
    ∧ (binaryWeight x p : ℚ) = 2 ^ x.exponent / 4 * scale := by
  have hten := (div_eq_iff (by positivity)).1 (@pow_toNat_div 10 p)
  have htwo := (div_eq_iff (by positivity)).1 (@pow_toNat_div 2 (x.exponent - 2))
  have hquarter : (2 : ℚ) ^ (x.exponent - 2) = 2 ^ x.exponent / 4 := by
    rw [zpow_sub₀ (by norm_num)]
    norm_num
  rw [neg_sub, hquarter] at htwo
  refine ⟨10 ^ (-p).toNat * 2 ^ (2 - x.exponent).toNat, by positivity, ?_, ?_⟩
  · simp only [decimalWeight, Nat.pow_eq, Nat.cast_mul, Nat.cast_pow, Nat.cast_ofNat]
    rw [hten, mul_assoc]
  · simp only [binaryWeight, Nat.pow_eq, Nat.cast_mul, Nat.cast_pow, Nat.cast_ofNat]
    rw [htwo]
    ring

/-- What is compared in choosing decimals are the numbers themselves. -/
lemma weights_compare (x : Binary64) (digits n : Nat) (p : Int) :
    (n * binaryWeight x p ≤ digits * decimalWeight x p
        ↔ (n : ℚ) / 4 * 2 ^ x.exponent ≤ digits * 10 ^ p)
      ∧ (digits * decimalWeight x p ≤ n * binaryWeight x p
        ↔ digits * (10 : ℚ) ^ p ≤ (n : ℚ) / 4 * 2 ^ x.exponent) := by
  obtain ⟨scale, hscale, hdecimal, hbinary⟩ := weights_eq x p
  have hpoint : ((digits * decimalWeight x p : Nat) : ℚ) = digits * 10 ^ p * scale := by
    rw [Nat.cast_mul, hdecimal, mul_assoc]
  have hend : ((n * binaryWeight x p : Nat) : ℚ) = (n : ℚ) / 4 * 2 ^ x.exponent * scale := by
    rw [Nat.cast_mul, hbinary]
    ring
  constructor
  · rw [← Nat.cast_le (α := ℚ), hpoint, hend, mul_le_mul_iff_of_pos_right hscale]
  · rw [← Nat.cast_le (α := ℚ), hpoint, hend, mul_le_mul_iff_of_pos_right hscale]

/-- **The choice of decimals**: it is decided exactly whether a decimal is in the interval. -/
lemma readsBack_iff {d : Decimal} : readsBack x d = true ↔ RoundsTo x d.value := by
  have hlow := (weights_compare x d.digits x.lowEnd d.exponent).1
  have hhigh := (weights_compare x d.digits x.highEnd d.exponent).2
  have hlowStrict := (weights_compare x d.digits x.lowEnd d.exponent).2.not
  have hhighStrict := (weights_compare x d.digits x.highEnd d.exponent).1.not
  rw [not_le, not_le] at hlowStrict hhighStrict
  simp only [readsBack]
  split
  next heven =>
    rw [decide_eq_true_iff, hlow, hhigh]
    exact ⟨fun h => ⟨h.1, h.2, fun hodd => by omega⟩, fun h => ⟨h.low, h.high⟩⟩
  next hodd =>
    rw [decide_eq_true_iff, hlowStrict, hhighStrict]
    exact ⟨fun h => ⟨h.1.le, h.2.le, fun _ => h⟩, fun h => h.odd (by omega)⟩

/-! ## The search -/

lemma readsBack_of_nearestOnGrid {p : Int} {d : Decimal} (h : nearestOnGrid x p = some d) :
    readsBack x d = true := by
  simp only [nearestOnGrid] at h
  split at h
  next => cases h
  next hbelow _ =>
    obtain rfl := Option.some.inj h
    exact hbelow
  next _ habove =>
    obtain rfl := Option.some.inj h
    exact habove
  next hbelow habove =>
    split at h
    · obtain rfl := Option.some.inj h
      exact hbelow
    · obtain rfl := Option.some.inj h
      exact habove

/-- The number lies between its two neighbours on a grid. -/
lemma value_between (x : Binary64) (p : Int) :
    ∃ n : Nat, n = x.quadruple * binaryWeight x p / decimalWeight x p
      ∧ n * (10 : ℚ) ^ p ≤ x.value ∧ x.value < (n + 1 : Nat) * 10 ^ p := by
  obtain ⟨n, hn⟩ : ∃ n, n = x.quadruple * binaryWeight x p / decimalWeight x p := ⟨_, rfl⟩
  have hvalue : (x.quadruple : ℚ) / 4 * 2 ^ x.exponent = x.value := by
    simp only [quadruple, value]
    push_cast
    ring
  have hpos : 0 < decimalWeight x p := by
    simp only [decimalWeight, Nat.pow_eq]
    positivity
  refine ⟨n, hn, ?_, ?_⟩
  · rw [← hvalue, ← (weights_compare x n x.quadruple p).2, hn]
    exact Nat.div_mul_le_self _ _
  · rw [← hvalue, ← not_le, ← (weights_compare x (n + 1) x.quadruple p).2, not_le, hn]
    exact Nat.lt_mul_of_div_lt (Nat.lt_succ_self _) hpos

/-- **Fine grids**: if a grid is finer than the numbers around `x`, and below a power of two even
finer, one of the two neighbours of `x` on the grid is in its interval. -/
lemma roundsTo_neighbour {p : Int} {n : Nat} (hp : (10 : ℚ) ^ p < 2 ^ x.exponent)
    (hpower : x.fraction = 0 → 2 * (10 : ℚ) ^ p < 2 ^ x.exponent)
    (hbelow : n * (10 : ℚ) ^ p ≤ x.value) (habove : x.value < (n + 1 : Nat) * 10 ^ p) :
    RoundsTo x (n * 10 ^ p) ∨ RoundsTo x ((n + 1 : Nat) * 10 ^ p) := by
  have hhigh : (x.highEnd : ℚ) / 4 * 2 ^ x.exponent = x.value + 2 ^ x.exponent / 2 := by
    rw [highEnd_eq, value]
    ring
  have hstep : ((n + 1 : Nat) : ℚ) * 10 ^ p = n * 10 ^ p + 10 ^ p := by
    push_cast
    ring
  by_cases hnext : (n + 1 : Nat) * (10 : ℚ) ^ p < x.value + 2 ^ x.exponent / 2
  · right
    have hlow : (x.lowEnd : ℚ) / 4 * 2 ^ x.exponent < (n + 1 : Nat) * 10 ^ p := by
      have hend : (x.lowEnd : ℚ) / 4 ≤ x.significand := by
        have hle : (x.lowEnd : ℚ) ≤ 4 * x.significand := by exact_mod_cast x.lowEnd_le
        linarith
      exact lt_of_le_of_lt (mul_le_mul_of_nonneg_right hend (two_zpow_pos _).le) habove
    rw [← hhigh] at hnext
    exact ⟨hlow.le, hnext.le, fun _ => ⟨hlow, hnext⟩⟩
  · left
    -- The number is no power of two, as the next point would be close enough to it.
    have hfraction : x.fraction ≠ 0 := by
      intro hzero
      have hfine := hpower hzero
      linarith
    have hlow : (x.lowEnd : ℚ) / 4 * 2 ^ x.exponent = x.value - 2 ^ x.exponent / 2 := by
      rw [lowEnd_of_fraction hfraction, value]
      ring
    have hlow : (x.lowEnd : ℚ) / 4 * 2 ^ x.exponent < n * 10 ^ p := by linarith
    have hhigh : (n : ℚ) * 10 ^ p < x.highEnd / 4 * 2 ^ x.exponent := by
      have hpos := two_zpow_pos x.exponent
      linarith
    exact ⟨hlow.le, hhigh.le, fun _ => ⟨hlow, hhigh⟩⟩

lemma exists_nearestOnGrid {p : Int} (hp : (10 : ℚ) ^ p < 2 ^ x.exponent)
    (hpower : x.fraction = 0 → 2 * (10 : ℚ) ^ p < 2 ^ x.exponent) :
    ∃ d, nearestOnGrid x p = some d := by
  obtain ⟨n, hn, hbelow, habove⟩ := value_between x p
  have hreads : readsBack x ⟨n, p⟩ = true ∨ readsBack x ⟨n + 1, p⟩ = true :=
    (roundsTo_neighbour hp hpower hbelow habove).imp readsBack_iff.2 readsBack_iff.2
  simp only [nearestOnGrid, ← hn]
  split
  next hbelow habove => simp [hbelow, habove] at hreads
  next => exact ⟨_, rfl⟩
  next => exact ⟨_, rfl⟩
  next => split <;> exact ⟨_, rfl⟩

lemma ratio_eq (x : Binary64) : (x.ratio.1 : ℚ) / x.ratio.2 = x.value := by
  simp only [ratio, value, Nat.pow_eq, Nat.cast_mul, Nat.cast_pow, Nat.cast_ofNat]
  rw [mul_div_assoc, pow_toNat_div]

/-- On the scale on which digits are counted the least positive number is not rounded down to
zero. -/
lemma one_le_value_scaled {k : Nat} (hk : k = 350) (hs : x.significand ≠ 0) :
    1 ≤ x.value * 10 ^ k := by
  have hexponent := x.neg_1074_le_exponent
  have hone : (1 : ℚ) ≤ x.significand := by exact_mod_cast Nat.one_le_iff_ne_zero.2 hs
  have hleast : (10 : ℚ) ^ (-k : Int) ≤ x.value := by
    calc (10 : ℚ) ^ (-k : Int) ≤ 10 ^ (-(4 * 83) : Int) :=
          zpow_le_zpow_right₀ (by norm_num) (by omega)
      _ ≤ 2 ^ (-(13 * 83) : Int) := (ten_zpow_neg_lt (by omega)).le
      _ ≤ 2 ^ x.exponent := two_zpow_le.2 (by omega)
      _ ≤ x.value := le_mul_of_one_le_left (two_zpow_pos _).le hone
  rw [zpow_neg, zpow_natCast] at hleast
  exact (inv_le_iff_one_le_mul₀ (by positivity)).1 hleast

/-- The digits that are counted are those of the number on that scale. -/
lemma decimalExponent_eq (x : Binary64) : ∃ k, k = 350 ∧ x.decimalExponent
    = ((Numeral.render 10 (x.ratio.1 * Nat.pow 10 k / x.ratio.2)).length : Int) - 351 :=
  ⟨350, rfl, rfl⟩

/-- The number of digits gives a power of ten below the number. -/
lemma pow_decimalExponent_le (hs : x.significand ≠ 0) :
    (10 : ℚ) ^ x.decimalExponent ≤ x.value := by
  obtain ⟨k, hk, hexponent⟩ := decimalExponent_eq x
  obtain ⟨scaled, hscaled⟩ : ∃ n, n = x.ratio.1 * Nat.pow 10 k / x.ratio.2 := ⟨_, rfl⟩
  have hratio : 0 < x.ratio.2 := Nat.pow_pos (by decide)
  have hvalue : ((x.ratio.1 * Nat.pow 10 k : Nat) : ℚ) / x.ratio.2 = x.value * 10 ^ k := by
    rw [Nat.cast_mul, mul_div_right_comm, ratio_eq, Nat.pow_eq, Nat.cast_pow, Nat.cast_ofNat]
  have hne : scaled ≠ 0 := by
    have hone := one_le_value_scaled hk hs
    rw [← hvalue, one_le_div (by exact_mod_cast hratio)] at hone
    rw [hscaled]
    exact (Nat.div_pos (by exact_mod_cast hone) hratio).ne'
  have hlength := List.length_pos_iff.2 (Numeral.render_ne_nil 10 scaled)
  have hcount : x.decimalExponent = (((Numeral.render 10 scaled).length - 1 : Nat) : Int) - k := by
    rw [hexponent, ← hscaled]
    omega
  rw [hcount, zpow_sub₀ (by norm_num), zpow_natCast, zpow_natCast, div_le_iff₀ (by positivity)]
  calc (10 : ℚ) ^ ((Numeral.render 10 scaled).length - 1) ≤ scaled := by
        exact_mod_cast Numeral.pow_length_render_le (by decide) hne
    _ ≤ x.value * 10 ^ k := by
      rw [hscaled, ← hvalue]
      exact Nat.cast_div_le

/-- **Seventeen digits suffice**: their grid is fine. -/
lemma fine_of_decimalExponent (hs : x.significand ≠ 0) :
    (10 : ℚ) ^ (x.decimalExponent + 1 - 17) < 2 ^ x.exponent
      ∧ (x.fraction = 0 → 2 * (10 : ℚ) ^ (x.decimalExponent + 1 - 17) < 2 ^ x.exponent) := by
  have hpos := two_zpow_pos x.exponent
  have hunit : (10 : ℚ) ^ (x.decimalExponent + 1 - 17) * 10 ^ 16
      ≤ x.significand * 2 ^ x.exponent := by
    calc (10 : ℚ) ^ (x.decimalExponent + 1 - 17) * 10 ^ 16 = 10 ^ x.decimalExponent := by
          rw [← zpow_natCast, ← zpow_add₀ (by norm_num)]
          congr 1
          push_cast
          ring
      _ ≤ x.value := pow_decimalExponent_le hs
  constructor
  · have hlt : (x.significand : ℚ) < 2 ^ 53 := by exact_mod_cast x.significand_lt
    have hmul := mul_lt_mul_of_pos_right hlt hpos
    linarith
  · intro hzero
    have hle : (x.significand : ℚ) ≤ 2 ^ 52 := by
      have hle : x.significand ≤ 2 ^ 52 := by
        rw [significand, hzero]
        split <;> simp
      exact_mod_cast hle
    have hmul := mul_le_mul_of_nonneg_right hle hpos.le
    linarith

/-- **Shortest decimals**: that of a number is in its interval, so that the number is read back. -/
lemma roundsTo_shortest (hs : x.significand ≠ 0) : RoundsTo x x.shortest.value := by
  obtain ⟨hfine, hfinePower⟩ := fine_of_decimalExponent hs
  obtain ⟨d, hd⟩ := exists_nearestOnGrid hfine hfinePower
  have hfound : ∃ d, firstOnGrids x ((List.range 17).map (· + 1)) = some d := by
    rw [← Option.isSome_iff_exists, firstOnGrids, List.findSome?_isSome_iff]
    exact ⟨17, by decide, by rw [Nat.cast_ofNat, hd]; rfl⟩
  obtain ⟨found, hfound⟩ := hfound
  obtain ⟨n, -, hn⟩ := List.exists_of_findSome?_eq_some hfound
  rw [shortest, if_neg hs, hfound, Option.getD_some, Decimal.value_trim]
  exact readsBack_iff.1 (readsBack_of_nearestOnGrid hn)

end MeteredHttp.Binary64
