import MeteredHttp.Binary64.Shortest
import Mathlib.Algebra.Order.Field.Power
import Mathlib.Data.Rat.Cast.Order
import Mathlib.Tactic.FieldSimp
import Mathlib.Tactic.Linarith
import Mathlib.Tactic.NormNum
import Mathlib.Tactic.Positivity
import Mathlib.Tactic.Ring

/-!
# Rounding to binary64

* `Binary64.RoundsTo` is the interval of the rationals that are nearest to a finite number, with its
  ends if the significand is even.
* `Binary64.unitExponent_spec` says that the unit in the last place is chosen so that a quotient has
  53 bits in front of it, or fewer where numbers are subnormal.
* **`Binary64.ofRatio_of_roundsTo`** concludes that the quotients in the interval of a number are
  rounded to it.
-/

namespace MeteredHttp.Binary64

/-! ## Bits -/

variable {x : Binary64}

/-- The bits of a number without its sign. -/
def bitMagnitude (x : Binary64) : Nat := x.biased * 2 ^ 52 + x.fraction

lemma assemble_bitMagnitude (x : Binary64) : assemble x.negative x.bitMagnitude = x := by
  obtain ⟨bits⟩ := x
  have hlt := bits.toNat_lt
  have hsum : ((if (⟨bits⟩ : Binary64).negative then Nat.pow 2 63 else 0)
      + (⟨bits⟩ : Binary64).bitMagnitude) = bits.toNat := by
    simp only [bitMagnitude, negative, biased, fraction, decide_eq_true_eq]
    norm_num
    split <;> omega
  rw [assemble, hsum]
  simp

lemma fraction_lt (x : Binary64) : x.fraction < 2 ^ 52 := Nat.mod_lt _ (by decide)

lemma biased_of_finite (h : x.isFinite = true) : x.biased ≤ 2046 := by
  have hlt : x.biased < 2048 := Nat.mod_lt _ (by decide)
  have hne : x.biased ≠ 2047 := by simpa [isFinite] using h
  omega

lemma bitMagnitude_lt (h : x.isFinite = true) : x.bitMagnitude < infinityMagnitude := by
  have hbiased := biased_of_finite h
  have hfraction := x.fraction_lt
  simp only [bitMagnitude, infinityMagnitude]
  norm_num at *
  omega

lemma significand_lt (x : Binary64) : x.significand < 2 ^ 53 := by
  have hfraction := x.fraction_lt
  simp only [significand]
  norm_num at *
  split <;> omega

/-- The significand of a number is its bits above those of the exponent.  The leading bit of a
normal number adds one to the exponent. -/
lemma bitMagnitude_eq (x : Binary64) :
    x.bitMagnitude = (x.exponent + 1074).toNat * 2 ^ 52 + x.significand := by
  simp only [bitMagnitude, exponent, significand]
  norm_num
  split <;> omega

lemma neg_1074_le_exponent (x : Binary64) : -1074 ≤ x.exponent := by
  simp only [exponent]
  omega

/-- Above the least exponent numbers are normal. -/
lemma le_significand (h : -1074 < x.exponent) : 2 ^ 52 ≤ x.significand ∧ 1 < x.biased := by
  have hbiased : 1 < x.biased := by
    simp only [exponent] at h
    omega
  have hne : x.biased ≠ 0 := by omega
  refine ⟨?_, hbiased⟩
  rw [significand, if_neg hne]
  exact Nat.le_add_right _ _

/-- Nothing but the sign is left of a zero. -/
lemma assemble_zero (h : x.significand = 0) : assemble x.negative 0 = x := by
  have hmagnitude : x.bitMagnitude = 0 := by
    have hbiased : x.biased = 0 := by
      by_contra hne
      rw [significand, if_neg hne] at h
      simp at h
    rw [significand, if_pos hbiased] at h
    rw [bitMagnitude, hbiased, h, Nat.zero_mul]
  rw [← hmagnitude, assemble_bitMagnitude]

/-! ## Nearest integers -/

/-- A quotient is rounded to an integer that it is at most a half away from, and less than a half
if the integer is odd. -/
lemma roundDiv_eq {num den n : Nat} (hden : 0 < den) (hlow : (n : ℚ) - 1 / 2 ≤ num / den)
    (hhigh : (num : ℚ) / den ≤ n + 1 / 2)
    (hodd : n % 2 = 1 → (n : ℚ) - 1 / 2 < num / den ∧ (num : ℚ) / den < n + 1 / 2) :
    roundDiv num den = n := by
  have hpos : (0 : ℚ) < den := by exact_mod_cast hden
  obtain ⟨q, hq⟩ : ∃ q, q = num / den := ⟨_, rfl⟩
  obtain ⟨r, hr⟩ : ∃ r, r = num % den := ⟨_, rfl⟩
  have hnum : num = q * den + r := by
    rw [hq, hr, Nat.mul_comm]
    exact (Nat.div_add_mod num den).symm
  have hlt : r < den := hr ▸ Nat.mod_lt num hden
  have hlowNat : 2 * (n * den) ≤ 2 * num + den := by
    rw [le_div_iff₀ hpos] at hlow
    have : (2 * (n * den) : ℚ) ≤ 2 * num + den := by linarith
    exact_mod_cast this
  have hhighNat : 2 * num ≤ 2 * (n * den) + den := by
    rw [div_le_iff₀ hpos] at hhigh
    have : (2 * num : ℚ) ≤ 2 * (n * den) + den := by linarith
    exact_mod_cast this
  have hoddNat : n % 2 = 1 → 2 * (n * den) < 2 * num + den ∧ 2 * num < 2 * (n * den) + den := by
    intro h
    obtain ⟨hl, hh⟩ := hodd h
    rw [lt_div_iff₀ hpos] at hl
    rw [div_lt_iff₀ hpos] at hh
    have hl : (2 * (n * den) : ℚ) < 2 * num + den := by linarith
    have hh : (2 * num : ℚ) < 2 * (n * den) + den := by linarith
    exact ⟨by exact_mod_cast hl, by exact_mod_cast hh⟩
  -- The integer is the quotient rounded down, or the next one.
  have hle : q ≤ n := by
    by_contra hgt
    have hmul := Nat.mul_le_mul_right den (Nat.not_le.1 hgt)
    rw [Nat.succ_mul] at hmul
    omega
  have hge : n ≤ q + 1 := by
    by_contra hgt
    have hmul := Nat.mul_le_mul_right den (Nat.not_le.1 hgt)
    rw [Nat.succ_mul, Nat.succ_mul] at hmul
    omega
  simp only [roundDiv, ← hq, ← hr]
  rcases Nat.lt_or_ge q n with hup | hdown
  · obtain rfl : n = q + 1 := by omega
    rw [Nat.succ_mul q] at hlowNat hhighNat hoddNat
    exact if_neg (by omega)
  · obtain rfl : n = q := by omega
    exact if_pos (by omega)

/-! ## Units -/

/-- A power with an integer exponent as a quotient of two powers, one of which is one. -/
lemma pow_toNat_div {b : ℚ} (e : Int) : b ^ e.toNat / b ^ (-e).toNat = b ^ e := by
  rcases Int.le_total 0 e with he | he
  · obtain ⟨n, rfl⟩ := Int.eq_ofNat_of_zero_le he
    simp
  · obtain ⟨n, rfl⟩ := Int.exists_eq_neg_ofNat he
    simp

/-- A quotient divided by a power of two. -/
lemma scaled_div (num den : Nat) (e : Int) :
    ((scaled num den e).1 : ℚ) / (scaled num den e).2 = num / den / 2 ^ e := by
  simp only [scaled, Nat.pow_eq, Nat.cast_mul, Nat.cast_pow, Nat.cast_ofNat]
  rw [mul_div_mul_comm, div_eq_mul_inv (num / den : ℚ), ← zpow_neg, ← pow_toNat_div (-e), neg_neg]

lemma scaled_pos {num den : Nat} (hden : 0 < den) (e : Int) : 0 < (scaled num den e).2 :=
  Nat.mul_pos hden (Nat.pow_pos (by decide))

lemma two_zpow_lt {m n : Int} : (2 : ℚ) ^ m < 2 ^ n ↔ m < n :=
  zpow_lt_zpow_iff_right₀ (by norm_num)

lemma two_zpow_le {m n : Int} : (2 : ℚ) ^ m ≤ 2 ^ n ↔ m ≤ n :=
  zpow_le_zpow_iff_right₀ (by norm_num)

/-- The logarithms of a quotient's parts bound it from both sides. -/
lemma div_bounds {num den : Nat} (hnum : num ≠ 0) (hden : den ≠ 0) :
    (2 : ℚ) ^ ((num.log2 : Int) - den.log2 - 1) < num / den
      ∧ (num : ℚ) / den < 2 ^ ((num.log2 : Int) - den.log2 + 1) := by
  have hnumLow : (2 : ℚ) ^ (num.log2 : Int) ≤ num := by
    rw [zpow_natCast]
    exact_mod_cast Nat.log2_self_le hnum
  have hnumHigh : (num : ℚ) < 2 ^ ((num.log2 : Int) + 1) := by
    have hlt : num < 2 ^ (num.log2 + 1) := Nat.lt_log2_self
    rw [← Nat.cast_add_one, zpow_natCast]
    exact_mod_cast hlt
  have hdenLow : (2 : ℚ) ^ (den.log2 : Int) ≤ den := by
    rw [zpow_natCast]
    exact_mod_cast Nat.log2_self_le hden
  have hdenHigh : (den : ℚ) < 2 ^ ((den.log2 : Int) + 1) := by
    have hlt : den < 2 ^ (den.log2 + 1) := Nat.lt_log2_self
    rw [← Nat.cast_add_one, zpow_natCast]
    exact_mod_cast hlt
  have hpos : (0 : ℚ) < den := by exact_mod_cast Nat.pos_of_ne_zero hden
  have hnumPos : (0 : ℚ) < num := by exact_mod_cast Nat.pos_of_ne_zero hnum
  constructor
  · rw [lt_div_iff₀ hpos]
    calc (2 : ℚ) ^ ((num.log2 : Int) - den.log2 - 1) * den
        < 2 ^ ((num.log2 : Int) - den.log2 - 1) * 2 ^ ((den.log2 : Int) + 1) := by gcongr
      _ = 2 ^ (num.log2 : Int) := by
        rw [← zpow_add₀ (by norm_num)]
        congr 1
        ring
      _ ≤ num := hnumLow
  · rw [div_lt_iff₀ hpos]
    calc (num : ℚ) < 2 ^ ((num.log2 : Int) + 1) := hnumHigh
      _ = 2 ^ ((num.log2 : Int) - den.log2 + 1) * 2 ^ (den.log2 : Int) := by
        rw [← zpow_add₀ (by norm_num)]
        congr 1
        ring
      _ ≤ 2 ^ ((num.log2 : Int) - den.log2 + 1) * den := by gcongr

/-- **The unit in the last place**: a quotient has 53 bits in front of it, or fewer if it is the
least unit. -/
lemma unitExponent_spec {num den : Nat} (hnum : num ≠ 0) (hden : den ≠ 0) :
    -1074 ≤ unitExponent num den
      ∧ (num : ℚ) / den < 2 ^ (unitExponent num den + 53)
      ∧ (-1074 < unitExponent num den → (2 : ℚ) ^ (unitExponent num den + 52) ≤ num / den) := by
  obtain ⟨hlow, hhigh⟩ := div_bounds hnum hden
  obtain ⟨e, he⟩ : ∃ e : Int, e = num.log2 - den.log2 - 52 := ⟨_, rfl⟩
  have hdenPos := @scaled_pos num den (Nat.pos_of_ne_zero hden) e
  have hunit : unitExponent num den
      = max (if (scaled num den e).1 / (scaled num den e).2 < 2 ^ 52 then e - 1 else e)
        (-1074) := by
    rw [he]
    rfl
  have hsplit : (scaled num den e).1 / (scaled num den e).2 < 2 ^ 52
      ↔ (num : ℚ) / den < 2 ^ (e + 52) := by
    have hpos : (0 : ℚ) < (scaled num den e).2 := by exact_mod_cast hdenPos
    rw [Nat.div_lt_iff_lt_mul hdenPos, zpow_add₀ (by norm_num), ← div_lt_iff₀' (by positivity),
      ← scaled_div, div_lt_iff₀ hpos]
    norm_cast
  rw [hunit]
  by_cases hshort : (num : ℚ) / den < 2 ^ (e + 52)
  · rw [if_pos (hsplit.2 hshort)]
    refine ⟨le_max_right _ _, hshort.trans_le ?_, fun hlt => ?_⟩
    · exact two_zpow_le.2 (by omega)
    · refine (two_zpow_le.2 ?_).trans hlow.le
      omega
  · rw [if_neg (hsplit.not.2 hshort)]
    refine ⟨le_max_right _ _, hhigh.trans_le ?_, fun hlt => ?_⟩
    · exact two_zpow_le.2 (by omega)
    · refine (two_zpow_le.2 ?_).trans (not_lt.1 hshort)
      omega

/-! ## Intervals -/

/-- The quotients that are nearest to a finite number: the ends of the interval, the midpoints to
the neighbours, belong to it if the significand is even. -/
structure RoundsTo (x : Binary64) (q : ℚ) : Prop where
  low : (x.lowEnd : ℚ) / 4 * 2 ^ x.exponent ≤ q
  high : q ≤ (x.highEnd : ℚ) / 4 * 2 ^ x.exponent
  odd : x.significand % 2 = 1 →
    (x.lowEnd : ℚ) / 4 * 2 ^ x.exponent < q ∧ q < (x.highEnd : ℚ) / 4 * 2 ^ x.exponent

lemma lowEnd_ge (x : Binary64) : (x.significand : ℚ) - 1 / 2 ≤ x.lowEnd / 4 := by
  have hend : 4 * x.significand ≤ x.lowEnd + 2 := by
    simp only [lowEnd, quadruple]
    split <;> omega
  have hend : (4 * x.significand : ℚ) ≤ x.lowEnd + 2 := by exact_mod_cast hend
  linarith

lemma lowEnd_le (x : Binary64) : x.lowEnd ≤ 4 * x.significand := by
  simp only [lowEnd, quadruple]
  split <;> omega

/-- Next to a number that is no power of two the ends are half a unit away. -/
lemma lowEnd_of_fraction (h : x.fraction ≠ 0) : (x.lowEnd : ℚ) / 4 = x.significand - 1 / 2 := by
  have hpos : x.fraction ≤ x.significand := by
    simp only [significand]
    split <;> omega
  have hend : x.lowEnd + 2 = 4 * x.significand := by
    rw [lowEnd, if_neg fun hboth => h hboth.1, quadruple]
    omega
  have hend : (x.lowEnd + 2 : ℚ) = 4 * x.significand := by exact_mod_cast hend
  linarith

lemma lowEnd_pos (hs : x.significand ≠ 0) : 0 < x.lowEnd := by
  simp only [lowEnd, quadruple]
  split <;> omega

lemma highEnd_eq (x : Binary64) : (x.highEnd : ℚ) / 4 = x.significand + 1 / 2 := by
  simp only [highEnd, quadruple]
  push_cast
  ring

lemma two_zpow_pos (e : Int) : (0 : ℚ) < 2 ^ e := by positivity

variable {q : ℚ}

lemma RoundsTo.pos (hs : x.significand ≠ 0) (h : RoundsTo x q) : 0 < q := by
  have hend : (0 : ℚ) < x.lowEnd := by exact_mod_cast lowEnd_pos hs
  exact lt_of_lt_of_le (by positivity) h.low

lemma RoundsTo.lt (h : RoundsTo x q) : q < 2 ^ (x.exponent + 53) := by
  have hs : (x.significand : ℚ) + 1 ≤ 2 ^ 53 := by exact_mod_cast x.significand_lt
  calc q ≤ (x.highEnd : ℚ) / 4 * 2 ^ x.exponent := h.high
    _ < 2 ^ 53 * 2 ^ x.exponent := by
      rw [highEnd_eq]
      exact mul_lt_mul_of_pos_right (by linarith) (two_zpow_pos _)
    _ = 2 ^ (x.exponent + 53) := by
      rw [zpow_add₀ (by norm_num), mul_comm]
      norm_num

/-- Below a power of two the numbers are closer to each other than above it, so that quotients
there may be rounded in units half as large, but up to the power of two. -/
lemma RoundsTo.unit {u : Int} (h : RoundsTo x q) (hmin : -1074 ≤ u) (hlt : q < 2 ^ (u + 53))
    (hle : -1074 < u → (2 : ℚ) ^ (u + 52) ≤ q) :
    u = x.exponent
      ∨ u = x.exponent - 1 ∧ x.significand = 2 ^ 52 ∧ x.lowEnd + 1 = 4 * x.significand := by
  have hexponent := x.neg_1074_le_exponent
  have hpow := two_zpow_pos x.exponent
  rcases lt_trichotomy u x.exponent with hbelow | heq | habove
  · right
    obtain ⟨hs, hbiased⟩ := le_significand (show -1074 < x.exponent by omega)
    have hlow : (x.lowEnd : ℚ) / 4 < 2 ^ 52 := by
      refine lt_of_mul_lt_mul_right ?_ hpow.le
      calc (x.lowEnd : ℚ) / 4 * 2 ^ x.exponent ≤ q := h.low
        _ < 2 ^ (u + 53) := hlt
        _ ≤ 2 ^ (x.exponent + 52) := two_zpow_le.2 (by omega)
        _ = 2 ^ 52 * 2 ^ x.exponent := by
          rw [zpow_add₀ (by norm_num), mul_comm]
          norm_num
    have hlow : x.lowEnd < 4 * 2 ^ 52 := by
      have : (x.lowEnd : ℚ) < 4 * 2 ^ 52 := by linarith
      exact_mod_cast this
    -- Only a power of two has such a lower end.
    have hends : x.significand = 2 ^ 52 ∧ x.lowEnd + 1 = 4 * x.significand := by
      have hne : x.biased ≠ 0 := by omega
      have hsum : x.significand = 2 ^ 52 + x.fraction := if_neg hne
      by_cases hzero : x.fraction = 0
      · rw [hzero] at hsum
        have hend : x.lowEnd = 4 * x.significand - 1 := if_pos ⟨hzero, hbiased⟩
        omega
      · have hend : x.lowEnd = 4 * x.significand - 2 := if_neg fun h => hzero h.1
        omega
    refine ⟨?_, hends⟩
    obtain ⟨hs, hend⟩ := hends
    have hend : (x.lowEnd : ℚ) + 1 = 4 * 2 ^ 52 := by
      rw [hs] at hend
      exact_mod_cast hend
    have hnear : (2 : ℚ) ^ (x.exponent + 51) < 2 ^ (u + 53) := by
      calc (2 : ℚ) ^ (x.exponent + 51) = 2 ^ 51 * 2 ^ x.exponent := by
            rw [zpow_add₀ (by norm_num), mul_comm]
            norm_num
        _ < (x.lowEnd : ℚ) / 4 * 2 ^ x.exponent := mul_lt_mul_of_pos_right (by linarith) hpow
        _ ≤ q := h.low
        _ < 2 ^ (u + 53) := hlt
    have hnear := two_zpow_lt.1 hnear
    omega
  · exact .inl heq
  · have hunit := two_zpow_lt.1 ((hle (by omega)).trans_lt h.lt)
    omega

variable {num den : Nat}

/-- A quotient in units that are a power of two is rounded to the integer that is nearest to it. -/
lemma roundDiv_scaled {n : Nat} {u : Int} (hden : den ≠ 0)
    (hlow : ((n : ℚ) - 1 / 2) * 2 ^ u ≤ num / den) (hhigh : (num : ℚ) / den ≤ (n + 1 / 2) * 2 ^ u)
    (hodd : n % 2 = 1 →
      ((n : ℚ) - 1 / 2) * 2 ^ u < num / den ∧ (num : ℚ) / den < (n + 1 / 2) * 2 ^ u) :
    roundDiv (scaled num den u).1 (scaled num den u).2 = n := by
  have hpow := two_zpow_pos u
  rw [← le_div_iff₀ hpow, ← scaled_div] at hlow
  rw [← div_le_iff₀ hpow, ← scaled_div] at hhigh
  rw [← lt_div_iff₀ hpow, ← div_lt_iff₀ hpow, ← scaled_div] at hodd
  exact roundDiv_eq (scaled_pos (Nat.pos_of_ne_zero hden) u) hlow hhigh hodd

/-- The bits of a number from a quotient in its interval and the unit for that quotient. -/
lemma RoundsTo.bitMagnitude_eq {u : Int} (h : RoundsTo x (num / den)) (hden : den ≠ 0)
    (hmin : -1074 ≤ u) (hlt : (num : ℚ) / den < 2 ^ (u + 53))
    (hle : -1074 < u → (2 : ℚ) ^ (u + 52) ≤ num / den) :
    (u + 1074).toNat * 2 ^ 52 + roundDiv (scaled num den u).1 (scaled num den u).2
      = x.bitMagnitude := by
  have hpow := two_zpow_pos u
  rw [Binary64.bitMagnitude_eq]
  rcases h.unit hmin hlt hle with rfl | ⟨heq, hpower, hend⟩
  · have hlow := mul_le_mul_of_nonneg_right x.lowEnd_ge hpow.le
    have hround := h.high
    have hodd := h.odd
    rw [highEnd_eq] at hround hodd
    rw [roundDiv_scaled hden (hlow.trans h.low) hround
      fun hs => ⟨lt_of_le_of_lt hlow (hodd hs).1, (hodd hs).2⟩]
  · -- The quotient is rounded up to the next power of two, which is the number.
    have hend : (x.lowEnd : ℚ) + 1 = 4 * 2 ^ 52 := by
      rw [hpower] at hend
      exact_mod_cast hend
    have hlow : ((2 ^ 53 : Nat) - 1 / 2 : ℚ) * 2 ^ u ≤ num / den := by
      calc ((2 ^ 53 : Nat) - 1 / 2 : ℚ) * 2 ^ u = (x.lowEnd : ℚ) / 4 * 2 ^ (u + 1) := by
            rw [zpow_add_one₀ (by norm_num), eq_sub_of_add_eq hend]
            push_cast
            ring
        _ = (x.lowEnd : ℚ) / 4 * 2 ^ x.exponent := by rw [heq, sub_add_cancel]
        _ ≤ num / den := h.low
    have hhigh : (num : ℚ) / den ≤ ((2 ^ 53 : Nat) + 1 / 2) * 2 ^ u := by
      calc (num : ℚ) / den ≤ 2 ^ (u + 53) := hlt.le
        _ = (2 ^ 53 : Nat) * 2 ^ u := by
          rw [zpow_add₀ (by norm_num), mul_comm]
          norm_num
        _ ≤ ((2 ^ 53 : Nat) + 1 / 2) * 2 ^ u :=
          mul_le_mul_of_nonneg_right (by linarith) hpow.le
    rw [roundDiv_scaled hden hlow hhigh (by norm_num), hpower]
    omega

/-- **Rounding**: the quotients in the interval of a number are rounded to it. -/
theorem ofRatio_of_roundsTo (hfinite : x.isFinite = true) (hs : x.significand ≠ 0) (hden : den ≠ 0)
    (h : RoundsTo x (num / den)) : ofRatio x.negative num den = x := by
  have hnum : num ≠ 0 := by
    rintro rfl
    simpa using h.pos hs
  obtain ⟨hmin, hlt, hle⟩ := unitExponent_spec hnum hden
  have hmagnitude := h.bitMagnitude_eq hden hmin hlt hle
  simp only [ofRatio, if_neg hnum, Nat.pow_eq]
  rw [hmagnitude, Nat.min_eq_left (bitMagnitude_lt hfinite).le, assemble_bitMagnitude]

/-! ## Decimals -/

lemma ten_pow_div (digits : Nat) (e : Int) :
    ((digits * Nat.pow 10 e.toNat : Nat) : ℚ) / (Nat.pow 10 (-e).toNat : Nat)
      = digits * 10 ^ e := by
  simp only [Nat.pow_eq, Nat.cast_mul, Nat.cast_pow, Nat.cast_ofNat]
  rw [mul_div_assoc, pow_toNat_div]

lemma exponent_le (h : x.isFinite = true) : x.exponent ≤ 971 := by
  have hbiased := biased_of_finite h
  simp only [exponent]
  omega

/-- Powers of two and larger powers of ten. -/
lemma two_zpow_lt_ten_zpow {n : Int} (hn : 0 < n) : (2 : ℚ) ^ (13 * n) < 10 ^ (4 * n) := by
  rw [zpow_mul, zpow_mul]
  exact zpow_lt_zpow_left₀ hn (by norm_num) (by norm_num)

lemma ten_zpow_neg_lt {n : Int} (hn : 0 < n) : (10 : ℚ) ^ (-(4 * n)) < 2 ^ (-(13 * n)) := by
  rw [zpow_neg, zpow_neg]
  exact inv_strictAnti₀ (two_zpow_pos _) (two_zpow_lt_ten_zpow hn)

/-- Powers of ten that no finite number comes up to, or down to. -/
lemma RoundsTo.bounds (hfinite : x.isFinite = true) (hs : x.significand ≠ 0) (h : RoundsTo x q) :
    (10 : ℚ) ^ (-400 : Int) < q ∧ q < 10 ^ (400 : Int) := by
  constructor
  · have hend : (1 : ℚ) ≤ x.lowEnd := by exact_mod_cast lowEnd_pos hs
    have hexponent := x.neg_1074_le_exponent
    calc (10 : ℚ) ^ (-(4 * 100) : Int) < 2 ^ (-(13 * 100) : Int) := ten_zpow_neg_lt (by omega)
      _ ≤ 2 ^ (x.exponent - 2) := two_zpow_le.2 (by omega)
      _ = 1 / 4 * 2 ^ x.exponent := by
        rw [zpow_sub₀ (by norm_num)]
        ring
      _ ≤ (x.lowEnd : ℚ) / 4 * 2 ^ x.exponent :=
        mul_le_mul_of_nonneg_right (by linarith) (two_zpow_pos _).le
      _ ≤ q := h.low
  · have hexponent := exponent_le hfinite
    calc q < 2 ^ (x.exponent + 53) := h.lt
      _ ≤ 2 ^ (13 * 100 : Int) := two_zpow_le.2 (by omega)
      _ < 10 ^ (4 * 100 : Int) := two_zpow_lt_ten_zpow (by omega)

/-- **Reading a decimal**: the decimals in the interval of a number are read as that number. -/
theorem ofDecimal_of_roundsTo {digits : Nat} {e : Int} (hfinite : x.isFinite = true)
    (hs : x.significand ≠ 0) (h : RoundsTo x (digits * 10 ^ e)) :
    ofDecimal x.negative digits e = x := by
  obtain ⟨hlow, hhigh⟩ := h.bounds hfinite hs
  have hdigits : digits ≠ 0 := by
    rintro rfl
    simpa using h.pos hs
  have hlarge : ¬400 < e := by
    intro hlt
    have hone : (1 : ℚ) ≤ digits := by exact_mod_cast Nat.one_le_iff_ne_zero.2 hdigits
    have hpow : (10 : ℚ) ^ (400 : Int) ≤ 10 ^ e := zpow_le_zpow_right₀ (by norm_num) hlt.le
    have hle := mul_le_mul_of_nonneg_right hone (zpow_nonneg (show (0 : ℚ) ≤ 10 by norm_num) e)
    linarith
  have hsmall : ¬e < -(digits.log2 + 400 : Nat) := by
    intro hlt
    have hdigits : (digits : ℚ) ≤ 10 ^ (digits.log2 + 1) := by
      have hlog : digits < 2 ^ (digits.log2 + 1) := Nat.lt_log2_self
      exact_mod_cast hlog.le.trans (Nat.pow_le_pow_left (by omega) _)
    have hle : (digits : ℚ) * 10 ^ e ≤ 10 ^ (-400 : Int) := by
      calc (digits : ℚ) * 10 ^ e ≤ 10 ^ (digits.log2 + 1) * 10 ^ e :=
            mul_le_mul_of_nonneg_right hdigits (zpow_nonneg (by norm_num) e)
        _ = 10 ^ ((digits.log2 + 1 : Nat) + e) := by
          rw [zpow_add₀ (by norm_num), zpow_natCast]
        _ ≤ 10 ^ (-400 : Int) := zpow_le_zpow_right₀ (by norm_num) (by omega)
    linarith
  rw [ofDecimal, if_neg hdigits, if_neg hlarge, if_neg hsmall]
  exact ofRatio_of_roundsTo hfinite hs (by simp) ((ten_pow_div digits e).symm ▸ h)

end MeteredHttp.Binary64
