import MeteredHttp.Timestamp
import MeteredHttp.Proofs.Numeral
import Mathlib.Tactic.IntervalCases

/-!
# Written times

* `Date.number` counts the days from the first of January 1970 to a date, by the rules of the
  Gregorian calendar.  `Date.number_ofDay` says that `Date.ofDay` finds the date of a day.
* `Timestamp.Denotes` says which instant a text denotes, in microseconds, if it has the form
  `YYYY-MM-DDThh:mm:ss.ffffffZ`.
* **`Timestamp.denotes_render_iff`** says that the written form of a time denotes that time rounded
  down, and nothing else.
-/

namespace MeteredHttp

/-! ## The calendar -/

namespace Date

/-- Every fourth year is a leap year, but of the centuries only every fourth one is. -/
def IsLeap (year : Int) : Prop := year % 4 = 0 ∧ (year % 100 = 0 → year % 400 = 0)

instance (year : Int) : Decidable (IsLeap year) := inferInstanceAs (Decidable (_ ∧ _))

/-- The number of days of a month. -/
def daysInMonth (year : Int) (month : Nat) : Nat :=
  if month = 2 then if IsLeap year then 29 else 28
  else if month ∈ [4, 6, 9, 11] then 30
  else 31

lemma daysInMonth_le (year : Int) (month : Nat) : daysInMonth year month ≤ 31 := by
  grind [daysInMonth]

/-- A date that there is. -/
structure Valid (date : Date) : Prop where
  month_pos : 1 ≤ date.month
  month_le : date.month ≤ 12
  day_pos : 1 ≤ date.day
  day_le : date.day ≤ daysInMonth date.year date.month

/-- The number of leap years before a year, counted from the beginning of the calendar. -/
def leapYearsBefore (year : Int) : Int := (year - 1) / 4 - (year - 1) / 100 + (year - 1) / 400

/-- The number of days of a year that lie before a month. -/
def daysBeforeMonth (year : Int) (month : Nat) : Nat :=
  ((List.range (month - 1)).map fun earlier => daysInMonth year (earlier + 1)).sum

/-- The day of a date, counted from the first of January 1970. -/
def number (date : Date) : Int :=
  365 * (date.year - 1970) + (leapYearsBefore date.year - leapYearsBefore 1970)
    + daysBeforeMonth date.year date.month + (date.day - 1)

lemma leapYearsBefore_succ (year : Int) :
    leapYearsBefore (year + 1) = leapYearsBefore year + if IsLeap year then 1 else 0 := by
  by_cases hleap : IsLeap year
  · rw [if_pos hleap]
    simp only [IsLeap] at hleap
    simp only [leapYearsBefore]
    omega
  · rw [if_neg hleap]
    simp only [IsLeap] at hleap
    simp only [leapYearsBefore]
    omega

/-! ### Years that begin in March -/

/-- The date of a day of the year that begins in March of `year`. -/
def ofDayOfYear (year dayOfYear : Int) : Date :=
  let marchMonth := (5 * dayOfYear + 2) / 153
  let month := if marchMonth < 10 then marchMonth + 3 else marchMonth - 9
  { year := year + if month ≤ 2 then 1 else 0
    month := month.toNat
    day := (dayOfYear - (153 * marchMonth + 2) / 5 + 1).toNat }

lemma valid_ofDayOfYear {year dayOfYear : Int} (hpos : 0 ≤ dayOfYear) (hle : dayOfYear ≤ 365)
    (hleap : dayOfYear = 365 → IsLeap (year + 1)) : (ofDayOfYear year dayOfYear).Valid := by
  obtain ⟨marchMonth, hmarch⟩ : ∃ m, m = (5 * dayOfYear + 2) / 153 := ⟨_, rfl⟩
  have hlow : 0 ≤ marchMonth := by omega
  have hhigh : marchMonth ≤ 11 := by omega
  rw [ofDayOfYear, ← hmarch]
  by_cases h : IsLeap (year + 1) <;> simp only [h, imp_false, imp_true_iff] at hleap <;>
    interval_cases marchMonth <;> constructor <;> simp [daysInMonth, h] <;> omega

lemma number_ofDayOfYear (year : Int) {dayOfYear : Int} (hpos : 0 ≤ dayOfYear)
    (hle : dayOfYear ≤ 365) :
    (ofDayOfYear year dayOfYear).number
      = 365 * year + leapYearsBefore (year + 1) - 719468 + dayOfYear := by
  have hepoch : leapYearsBefore 1970 = 477 := rfl
  have hleap := leapYearsBefore_succ year
  obtain ⟨marchMonth, hmarch⟩ : ∃ m, m = (5 * dayOfYear + 2) / 153 := ⟨_, rfl⟩
  have hlow : 0 ≤ marchMonth := by omega
  have hhigh : marchMonth ≤ 11 := by omega
  rw [ofDayOfYear, ← hmarch]
  by_cases h : IsLeap year <;> simp only [h, if_true, if_false] at hleap <;>
    interval_cases marchMonth <;>
    simp [number, daysBeforeMonth, daysInMonth, List.range_succ, h, hepoch] <;> omega

/-! ### Cycles of 400 years -/

/-- A day of such a cycle, in its century, its four years and its year.  The last day of a year is a
leap day, so it is there only in the last of four years, and in a century's last four years only if
the century is the last one. -/
lemma exists_parts {day : Int} (hpos : 0 ≤ day) (hlt : day < 146097) :
    ∃ century four year rest : Int, day = 36524 * century + 1461 * four + 365 * year + rest
      ∧ (0 ≤ century ∧ century ≤ 3) ∧ (0 ≤ four ∧ four ≤ 24) ∧ (0 ≤ year ∧ year ≤ 3)
      ∧ (0 ≤ rest ∧ rest ≤ 365) ∧ (rest = 365 → year = 3 ∧ (four = 24 → century = 3)) := by
  let century := min (day / 36524) 3
  let dayOfCentury := day - 36524 * century
  let year := min (dayOfCentury % 1461 / 365) 3
  refine ⟨century, dayOfCentury / 1461, year, dayOfCentury % 1461 - 365 * year, ?_⟩
  omega

/-- The year of a cycle that a day lies in. -/
def yearOfCycle (day : Int) : Int := (day - day / 1460 + day / 36524 - day / 146096) / 365

lemma yearOfCycle_eq {century four year rest : Int} (hcentury : 0 ≤ century ∧ century ≤ 3)
    (hfour : 0 ≤ four ∧ four ≤ 24) (hyear : 0 ≤ year ∧ year ≤ 3) (hrest : 0 ≤ rest ∧ rest ≤ 365)
    (hleap : rest = 365 → year = 3 ∧ (four = 24 → century = 3)) :
    yearOfCycle (36524 * century + 1461 * four + 365 * year + rest)
      = 100 * century + 4 * four + year := by
  rw [yearOfCycle]
  by_cases hend : rest = 365 ∧ four = 24
  · -- The last day of the cycle is the only one in a fifth century.
    obtain ⟨rfl, rfl⟩ := hend
    omega
  · have hcenturies : (36524 * century + 1461 * four + 365 * year + rest) / 36524 = century := by
      omega
    have hcycles : (36524 * century + 1461 * four + 365 * year + rest) / 146096 = 0 := by omega
    omega

/-- **The days of a cycle in years**: the year, counted from March, and the day of that year. -/
lemma year_of_cycle {day : Int} (hpos : 0 ≤ day) (hlt : day < 146097) {year rest : Int}
    (hyear : year = yearOfCycle day) (hrest : rest = day - (365 * year + year / 4 - year / 100)) :
    (0 ≤ year ∧ year < 400) ∧ (0 ≤ rest ∧ rest ≤ 365) ∧ (rest = 365 → IsLeap (year + 1)) := by
  obtain ⟨century, four, yearOfFour, dayOfYear, rfl, hcentury, hfour, hyearOfFour, hday, hleap⟩ :=
    exists_parts hpos hlt
  rw [yearOfCycle_eq hcentury hfour hyearOfFour hday hleap] at hyear
  have hfours : year / 4 = 25 * century + four := by omega
  have hcenturies : year / 100 = century := by omega
  have hdayOfYear : rest = dayOfYear := by omega
  refine ⟨by omega, by omega, ?_⟩
  intro hlast
  simp only [IsLeap]
  omega

/-- A day is one of a cycle, and then one of a year that begins in March. -/
lemma ofDay_eq {day cycle dayOfCycle year : Int} (hcycle : cycle = (day + 719468) / 146097)
    (hday : dayOfCycle = (day + 719468) % 146097) (hyear : year = yearOfCycle dayOfCycle) :
    ofDay day
      = ofDayOfYear (year + cycle * 400) (dayOfCycle - (365 * year + year / 4 - year / 100)) := by
  subst hcycle hday hyear
  rfl

/-- **The date of a day is one that there is, and has the number of that day.** -/
lemma number_ofDay (day : Int) : (ofDay day).Valid ∧ (ofDay day).number = day := by
  obtain ⟨cycle, hcycle⟩ : ∃ c, c = (day + 719468) / 146097 := ⟨_, rfl⟩
  obtain ⟨dayOfCycle, hday⟩ : ∃ d, d = (day + 719468) % 146097 := ⟨_, rfl⟩
  obtain ⟨year, hyear⟩ : ∃ y, y = yearOfCycle dayOfCycle := ⟨_, rfl⟩
  obtain ⟨hbounds, ⟨hpos, hle⟩, hleap⟩ := year_of_cycle (by omega) (by omega) hyear rfl
  rw [ofDay_eq hcycle hday hyear]
  constructor
  · refine valid_ofDayOfYear hpos hle fun hlast => ?_
    have hleap := hleap hlast
    simp only [IsLeap] at hleap ⊢
    omega
  · have hfours : (year + cycle * 400) / 4 = year / 4 + 100 * cycle := by omega
    have hcenturies : (year + cycle * 400) / 100 = year / 100 + 4 * cycle := by omega
    have hcycles : (year + cycle * 400) / 400 = cycle := by omega
    rw [number_ofDayOfYear _ hpos hle, leapYearsBefore, Int.add_sub_cancel, hfours, hcenturies,
      hcycles]
    omega

/-- The years of these days have four digits. -/
lemma year_ofDay {day : Int} (hlow : -719468 ≤ day) (hhigh : day < 2786860) :
    0 ≤ (ofDay day).year ∧ (ofDay day).year < 10000 := by
  obtain ⟨cycle, hcycle⟩ : ∃ c, c = (day + 719468) / 146097 := ⟨_, rfl⟩
  obtain ⟨dayOfCycle, hday⟩ : ∃ d, d = (day + 719468) % 146097 := ⟨_, rfl⟩
  obtain ⟨year, hyear⟩ : ∃ y, y = yearOfCycle dayOfCycle := ⟨_, rfl⟩
  obtain ⟨hbounds, -⟩ := year_of_cycle (by omega) (by omega) hyear rfl
  have hcycles : 0 ≤ cycle ∧ cycle < 24 := by omega
  rw [ofDay_eq hcycle hday hyear]
  simp only [ofDayOfYear]
  split <;> omega

end Date

/-! ## Instants -/

namespace Timestamp

open Numeral (Fills)

/-- The instant that a text denotes, in microseconds since the beginning of 1970.  The text is a
date and a time of day in UTC, each of whose parts has a fixed number of digits. -/
inductive Denotes (text : Bytes) (instant : Int) : Prop
  | utc {y m d h min s us : Nat} {year month day hour minute second micro : Bytes}
    (hyear : Fills 4 year y) (hmonth : Fills 2 month m) (hday : Fills 2 day d)
    (hdate : Date.Valid ⟨y, m, d⟩)
    (hhour : Fills 2 hour h) (hminute : Fills 2 minute min) (hsecond : Fills 2 second s)
    (hclock : h < 24 ∧ min < 60 ∧ s < 60)
    (hmicro : Fills 6 micro us)
    (htext : text = year ++ 45 :: (month ++ 45 :: (day ++ 84 :: (hour ++ 58 :: (minute
      ++ 58 :: (second ++ 46 :: (micro ++ [90])))))))
    (hinstant : instant
      = (((Date.number ⟨y, m, d⟩ * 24 + h) * 60 + min) * 60 + s) * 1000000 + us)

/-- A part of a text and what follows it, if they stand at the same place. -/
lemma parts_eq {width n m : Nat} {text text' : Bytes} {mark : UInt8} {rest rest' : Bytes}
    (hn : Fills width text n) (hm : Fills width text' m)
    (h : text ++ mark :: rest = text' ++ mark :: rest') : n = m ∧ rest = rest' := by
  obtain ⟨rfl, hrest⟩ := List.append_inj h (hn.length_eq.trans hm.length_eq.symm)
  exact ⟨hn.unique hm, (List.cons.inj hrest).2⟩

/-- A text denotes one instant at most. -/
lemma Denotes.unique {text : Bytes} {i j : Int} (hi : Denotes text i) (hj : Denotes text j) :
    i = j := by
  obtain ⟨hyear, hmonth, hday, -, hhour, hminute, hsecond, -, hmicro, rfl, rfl⟩ := hi
  obtain ⟨hyear', hmonth', hday', -, hhour', hminute', hsecond', -, hmicro', htext, rfl⟩ := hj
  obtain ⟨rfl, htext⟩ := parts_eq hyear hyear' htext
  obtain ⟨rfl, htext⟩ := parts_eq hmonth hmonth' htext
  obtain ⟨rfl, htext⟩ := parts_eq hday hday' htext
  obtain ⟨rfl, htext⟩ := parts_eq hhour hhour' htext
  obtain ⟨rfl, htext⟩ := parts_eq hminute hminute' htext
  obtain ⟨rfl, htext⟩ := parts_eq hsecond hsecond' htext
  obtain ⟨rfl, -⟩ := parts_eq hmicro hmicro' htext
  rfl

/-- Times that fit in 64 bits. -/
def Fits (time : Timestamp) : Prop :=
  Int64.minValue.toInt ≤ time.nanoseconds ∧ time.nanoseconds ≤ Int64.maxValue.toInt

instance (time : Timestamp) : Decidable time.Fits := inferInstanceAs (Decidable (_ ∧ _))

/-- A date and a time of day, as they are written. -/
lemma denotes_parts {date : Date} {second micro : Nat} (hvalid : date.Valid)
    (hyear : 0 ≤ date.year ∧ date.year < 10000) (hsecond : second < 86400)
    (hmicro : micro < 1000000) :
    Denotes (date.render ++ 84 :: renderClock second ++ 46 :: Numeral.padded 6 micro ++ [90])
      ((date.number * 86400 + second) * 1000000 + micro) := by
  obtain ⟨year, month, day⟩ := date
  obtain ⟨hlow, hhigh⟩ := hyear
  obtain ⟨y, rfl⟩ := Int.eq_ofNat_of_zero_le hlow
  have hmonth := hvalid.month_le
  have hday := hvalid.day_le.trans (Date.daysInMonth_le _ _)
  simp only at hhigh hmonth hday
  have hclock : second / 3600 < 24 ∧ second / 60 % 60 < 60 ∧ second % 60 < 60 := by omega
  refine .utc (Numeral.fills_padded (n := y) (by decide) (by omega))
    (Numeral.fills_padded (n := month) (by decide) (by omega))
    (Numeral.fills_padded (n := day) (by decide) (by omega)) hvalid
    (Numeral.fills_padded (n := second / 3600) (by decide) (by omega))
    (Numeral.fills_padded (n := second / 60 % 60) (by decide) (by omega))
    (Numeral.fills_padded (n := second % 60) (by decide) (by omega)) hclock
    (Numeral.fills_padded (n := micro) (by decide) (by omega)) ?_ ?_
  · simp [Date.render, renderClock]
  · push_cast
    omega

lemma denotes_render {time : Timestamp} (h : time.Fits) :
    Denotes time.render (time.nanoseconds / 1000) := by
  have hlow : Int64.minValue.toInt = -9223372036854775808 := rfl
  have hhigh : Int64.maxValue.toInt = 9223372036854775807 := rfl
  obtain ⟨hmin, hmax⟩ := h
  obtain ⟨day, hday⟩ : ∃ d, d = time.nanoseconds / 1000 / 1000000 / 86400 := ⟨_, rfl⟩
  obtain ⟨hvalid, hnumber⟩ := Date.number_ofDay day
  have hyear := @Date.year_ofDay day (by omega) (by omega)
  have hparts := @denotes_parts _ (time.nanoseconds / 1000 / 1000000 % 86400).toNat
    (time.nanoseconds / 1000 % 1000000).toNat hvalid hyear (by omega) (by omega)
  have hinstant : (day * 86400 + (time.nanoseconds / 1000 / 1000000 % 86400).toNat) * 1000000
      + (time.nanoseconds / 1000 % 1000000).toNat = time.nanoseconds / 1000 := by
    omega
  rw [hnumber, hinstant, hday] at hparts
  exact hparts

/-- **The written form of a time denotes that time**, rounded down to a microsecond, and nothing
else. -/
lemma denotes_render_iff {time : Timestamp} (h : time.Fits) {instant : Int} :
    Denotes time.render instant ↔ instant = time.nanoseconds / 1000 := by
  constructor
  · intro hinstant
    exact hinstant.unique (denotes_render h)
  · rintro rfl
    exact denotes_render h

end Timestamp

end MeteredHttp
