import MeteredHttp.Numeral

/-!
# Judges of statuses

A client can be told which statuses to expect.  What it is told is a judge, which may also fail to
decide.

* `Judge.ofRanges` expects the statuses of given ranges.
-/

namespace MeteredHttp

/-- Decides whether a status is expected, zero standing for no response; it may fail with an error
that gives a reason.  Only such errors are considered: nobody is prepared for anything else that a
judge might raise. -/
abbrev Judge := Int → Except Bytes Bool

/-- A range of statuses, both ends included. -/
structure StatusRange where
  least : Int
  greatest : Int
  deriving DecidableEq

namespace StatusRange

/-- Whether a status lies in the range. -/
def contains (range : StatusRange) (status : Int) : Bool :=
  decide (range.least ≤ status ∧ status ≤ range.greatest)

/-- What is wrong with a range that ends before it starts. -/
def invalidMessage (range : StatusRange) : Bytes :=
  utf8 "invalid status range " ++ Numeral.decimal range.least ++ utf8 "-"
    ++ Numeral.decimal range.greatest

end StatusRange

/-- Expects the statuses of the given ranges, none of which may end before it starts; otherwise
the first that does is returned. -/
def Judge.ofRanges (ranges : List StatusRange) : Except StatusRange Judge :=
  match ranges.find? fun range => range.greatest < range.least with
  | some range => .error range
  | none => .ok fun status => .ok (ranges.any (·.contains status))

end MeteredHttp
