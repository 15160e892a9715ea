import MeteredHttp.Numeral

/-!
# Points in time

Samples carry the time at which they were taken, in nanoseconds.  In writing, a time is a date of
the Gregorian calendar and a time of day in UTC, with microseconds.

* `Date.ofDay` is the date of a day counted from the first of January 1970.
* `Timestamp.render` is the written form of a time.
-/

namespace MeteredHttp

/-- A date of the Gregorian calendar. -/
structure Date where
  year : Int
  month : Nat
  day : Nat
  deriving DecidableEq

namespace Date

/-- The date of a day, counted from the first of January 1970.  The years are taken to begin in
March, so that the leap day is the last day of a year, and are counted in cycles of 400 years,
which all have the same number of days. -/
def ofDay (day : Int) : Date :=
  let shifted := day + 719468
  let cycle := shifted / 146097
  let dayOfCycle := shifted % 146097
  let yearOfCycle :=
    (dayOfCycle - dayOfCycle / 1460 + dayOfCycle / 36524 - dayOfCycle / 146096) / 365
  let dayOfYear :=
    dayOfCycle - (365 * yearOfCycle + yearOfCycle / 4 - yearOfCycle / 100)
  let marchMonth := (5 * dayOfYear + 2) / 153
  let month := if marchMonth < 10 then marchMonth + 3 else marchMonth - 9
  { year := yearOfCycle + cycle * 400 + (if month ≤ 2 then 1 else 0)
    month := month.toNat
    day := (dayOfYear - (153 * marchMonth + 2) / 5 + 1).toNat }

/-- Year, month and day with hyphens between them. -/
def render (date : Date) : Bytes :=
  Numeral.padded 4 date.year.toNat ++ 45 :: Numeral.padded 2 date.month ++ 45 ::
    Numeral.padded 2 date.day

end Date

/-- A point in time, in nanoseconds since the beginning of 1970 in UTC. -/
structure Timestamp where
  nanoseconds : Int
  deriving DecidableEq

namespace Timestamp

instance : Inhabited Timestamp := ⟨⟨0⟩⟩

/-- Hours, minutes and seconds of a second of the day, with colons between them. -/
def renderClock (second : Nat) : Bytes :=
  Numeral.padded 2 (second / 3600) ++ 58 :: Numeral.padded 2 (second / 60 % 60) ++ 58 ::
    Numeral.padded 2 (second % 60)

/-- Date and time of day in UTC.  What is finer than a microsecond is dropped. -/
def render (time : Timestamp) : Bytes :=
  let micros := time.nanoseconds / 1000
  let seconds := micros / 1000000
  (Date.ofDay (seconds / 86400)).render ++ 84 :: renderClock (seconds % 86400).toNat ++ 46 ::
    Numeral.padded 6 (micros % 1000000).toNat ++ [90]

end Timestamp

end MeteredHttp
