import MeteredHttp.Proofs.Timestamp

/-!
# The order of written times

In the written form of a time the larger parts come first, and each part has a fixed number of
digits.  So texts are in the order of the instants that they denote.

* `Date.number_lt` says that dates are in the order of years, months and days.
* `Timestamp.Denotes.lt_iff` carries this over to texts.
* **`Timestamp.render_exact_and_ordered`** is all about the written form of a time: its form, its
  instant and its order.
-/

namespace MeteredHttp

/-! ## Dates -/

namespace Date

lemma daysBeforeMonth_succ (year : Int) {month : Nat} (h : 1 ≤ month) :
    daysBeforeMonth year (month + 1) = daysBeforeMonth year month + daysInMonth year month := by
  obtain ⟨earlier, rfl⟩ := Nat.exists_eq_add_of_le' h
  simp [daysBeforeMonth, List.range_succ]

/-- The days of a month lie before every later month. -/
lemma daysBeforeMonth_add_le (year : Int) {month later : Nat} (h : 1 ≤ month)
    (hlater : month + 1 ≤ later) :
    daysBeforeMonth year month + daysInMonth year month ≤ daysBeforeMonth year later := by
  induction later, hlater using Nat.le_induction with
  | base => rw [daysBeforeMonth_succ year h]
  | succ later hle ih =>
    rw [daysBeforeMonth_succ year (by omega)]
    omega

lemma daysBeforeMonth_thirteen (year : Int) :
    daysBeforeMonth year 13 = 365 + if IsLeap year then 1 else 0 := by
  by_cases h : IsLeap year <;> simp [daysBeforeMonth, daysInMonth, List.range_succ, h]

lemma leapYearsBefore_mono {year later : Int} (h : year ≤ later) :
    leapYearsBefore year ≤ leapYearsBefore later := by
  induction later, h using Int.leInduction with
  | base => exact Int.le_refl _
  | succ later hle ih =>
    rw [leapYearsBefore_succ]
    split <;> omega

/-- **Dates that there are lie in the order of their years, months and days.** -/
lemma number_lt {date date' : Date} (h : date.Valid) (h' : date'.Valid)
    (hlt : date.year < date'.year ∨ date.year = date'.year
      ∧ (date.month < date'.month ∨ date.month = date'.month ∧ date.day < date'.day)) :
    date.number < date'.number := by
  obtain ⟨year, month, day⟩ := date
  obtain ⟨year', month', day'⟩ := date'
  obtain ⟨hmonth, hmonths, hday, hdays⟩ := h
  obtain ⟨-, -, hday', -⟩ := h'
  simp only [number] at *
  rcases hlt with hyear | ⟨rfl, hlt | ⟨rfl, hlt⟩⟩
  · -- The days that are left of the year still lie before the next one.
    have hrest := daysBeforeMonth_add_le year hmonth (Nat.succ_le_succ hmonths)
    have hleap := leapYearsBefore_succ year
    have hmono := leapYearsBefore_mono (Int.add_one_le_of_lt hyear)
    rw [daysBeforeMonth_thirteen] at hrest
    by_cases hisLeap : IsLeap year <;> simp only [hisLeap, if_true, if_false] at hrest hleap <;>
      omega
  · have hrest := daysBeforeMonth_add_le year hmonth hlt
    omega
  · omega

end Date

/-! ## Texts -/

namespace Timestamp

open Numeral (Fills)

/-- Two texts that begin with a part of the same width and the same mark are in the order of these
parts, or else of what follows. -/
lemma parts_lt_iff {width n m : Nat} {text text' : Bytes} {mark : UInt8} {rest rest' : Bytes}
    (hn : Fills width text n) (hm : Fills width text' m) :
    text ++ mark :: rest < text' ++ mark :: rest' ↔ n < m ∨ n = m ∧ rest < rest' := by
  rw [Bytes.append_lt_append_iff (hn.length_eq.trans hm.length_eq.symm), hn.lt_iff hm,
    hn.eq_iff hm, List.cons_lt_cons_iff]
  simp

/-- A text that comes before another one denotes an earlier instant. -/
lemma Denotes.lt_of_lt {text text' : Bytes} {i j : Int} (hi : Denotes text i)
    (hj : Denotes text' j) (hlt : text < text') : i < j := by
  obtain @⟨y, m, d, h, min, s, us, _, _, _, _, _, _, _, hyear, hmonth, hday, hdate, hhour, hminute,
    hsecond, hclock, hmicro, rfl, rfl⟩ := hi
  obtain @⟨y', m', d', h', min', s', us', _, _, _, _, _, _, _, hyear', hmonth', hday', hdate',
    hhour', hminute', hsecond', hclock', hmicro', rfl, rfl⟩ := hj
  rw [parts_lt_iff hyear hyear', parts_lt_iff hmonth hmonth', parts_lt_iff hday hday',
    parts_lt_iff hhour hhour', parts_lt_iff hminute hminute', parts_lt_iff hsecond hsecond',
    parts_lt_iff hmicro hmicro'] at hlt
  simp only [List.not_lt_nil, and_false, or_false] at hlt
  have hmicros := Numeral.value_lt hmicro.writes.digits
  rw [hmicro.writes.value_eq, hmicro.length_eq] at hmicros
  by_cases hsame : y = y' ∧ m = m' ∧ d = d'
  · obtain ⟨rfl, rfl, rfl⟩ := hsame
    omega
  · have hdates : Date.number ⟨y, m, d⟩ < Date.number ⟨y', m', d'⟩ := by
      refine Date.number_lt hdate hdate' ?_
      simp only [Nat.cast_lt, Nat.cast_inj]
      omega
    omega

lemma Denotes.lt_iff {text text' : Bytes} {i j : Int} (hi : Denotes text i)
    (hj : Denotes text' j) : text < text' ↔ i < j := by
  refine ⟨hi.lt_of_lt hj, ?_⟩
  intro hlt
  by_contra hnot
  have hnot' : ¬text' < text := fun hgt => Int.lt_asymm (hj.lt_of_lt hi hgt) hlt
  obtain rfl := List.le_antisymm (List.not_lt.1 hnot') (List.not_lt.1 hnot)
  exact hlt.ne (hi.unique hj)

/-- Times that fit in 64 bits together with the beginning of their second. -/
structure SecondFits (time : Timestamp) : Prop where
  low : -9223372036000000000 ≤ time.nanoseconds
  high : time.nanoseconds ≤ Int64.maxValue.toInt

lemma SecondFits.fits {time : Timestamp} (h : time.SecondFits) : time.Fits := by
  have hlow : Int64.minValue.toInt = -9223372036854775808 := rfl
  have hsecond := h.low
  exact ⟨by omega, h.high⟩

/-- **The written form of a time is exact and in order.**  It is a date and a time of day in UTC
with six digits of fraction, denotes the time rounded down to a microsecond and nothing else, and
written forms are in the order of their times. -/
theorem render_exact_and_ordered {time time' : Timestamp} (h : time.SecondFits)
    (h' : time'.SecondFits) :
    (∀ instant, Denotes time.render instant ↔ instant = time.nanoseconds / 1000)
      ∧ (time.render < time'.render ↔ time.nanoseconds / 1000 < time'.nanoseconds / 1000)
      ∧ (time.nanoseconds ≤ time'.nanoseconds → time.render ≤ time'.render) := by
  have horder : ∀ {earlier later : Timestamp}, earlier.SecondFits → later.SecondFits →
      (earlier.render < later.render ↔ earlier.nanoseconds / 1000 < later.nanoseconds / 1000) :=
    fun hearlier hlater => (denotes_render hearlier.fits).lt_iff (denotes_render hlater.fits)
  refine ⟨fun instant => denotes_render_iff h.fits, horder h h', ?_⟩
  intro hle
  rw [← List.not_lt, horder h' h]
  omega

/-- The last moment before 1970, and the last one of a leap day. -/
theorem render_exact_and_ordered_across_epoch :
    (⟨-1⟩ : Timestamp).SecondFits ∧ (⟨1709251199999999999⟩ : Timestamp).SecondFits
      ∧ (⟨-1⟩ : Timestamp).render = utf8 "1969-12-31T23:59:59.999999Z"
      ∧ (⟨1709251199999999999⟩ : Timestamp).render = utf8 "2024-02-29T23:59:59.999999Z"
      ∧ Denotes (utf8 "1969-12-31T23:59:59.999999Z") (-1)
      ∧ utf8 "1969-12-31T23:59:59.999999Z" ≤ utf8 "2024-02-29T23:59:59.999999Z" := by
  have hlast : (⟨-1⟩ : Timestamp).SecondFits := ⟨by decide, by decide⟩
  have hleap : (⟨1709251199999999999⟩ : Timestamp).SecondFits := ⟨by decide, by decide⟩
  have hlastText : (⟨-1⟩ : Timestamp).render = utf8 "1969-12-31T23:59:59.999999Z" := by
    decide +kernel
  have hleapText : (⟨1709251199999999999⟩ : Timestamp).render
      = utf8 "2024-02-29T23:59:59.999999Z" := by
    decide +kernel
  obtain ⟨hdenotes, -, hordered⟩ := render_exact_and_ordered hlast hleap
  refine ⟨hlast, hleap, hlastText, hleapText, ?_, ?_⟩
  · rw [← hlastText]
    exact (hdenotes _).2 rfl
  · rw [← hlastText, ← hleapText]
    exact hordered (by decide)

end Timestamp

end MeteredHttp
