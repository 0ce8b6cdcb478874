import TypedSelect.Number.Decimal
import TypedSelect.Time.Instant

/-! The written form of an instant: date, the letter T, time of day, fraction, the letter Z. -/
namespace TypedSelect.Time

open TypedSelect.Number

/-- How the fraction of a second is written: three digits cut off, or as few groups of
three as are exact. -/
inductive Precision where
  | milliseconds
  | exact
deriving DecidableEq

/-- Four digits, with a sign in front where that is not enough or the year is negative. -/
def yearText (year : Int) : List Char :=
  if 0 ≤ year ∧ year ≤ 9999 then padded 4 year.natAbs
  else (if year < 0 then '-' else '+') :: padded 4 year.natAbs

def fractionText (precision : Precision) (nano : Nat) : List Char :=
  match precision with
  | .milliseconds => '.' :: padded 3 (nano / 1000000)
  | .exact =>
    if nano = 0 then []
    else if nano % 1000000 = 0 then '.' :: padded 3 (nano / 1000000)
    else if nano % 1000 = 0 then '.' :: padded 6 (nano / 1000)
    else '.' :: padded 9 nano

/-- The written form of an instant. A leap second is written as second sixty. -/
def Instant.text (precision : Precision) (t : Instant) : List Char :=
  let day := t.date
  let leap := decide (nanosPerSecond ≤ t.nano)
  let second := t.secondOfDay % 60 + (if leap then 1 else 0)
  yearText day.year ++ '-' :: padded 2 day.month ++ '-' :: padded 2 day.day ++
    'T' :: padded 2 (t.secondOfDay / 3600) ++ ':' :: padded 2 (t.secondOfDay / 60 % 60) ++
    ':' :: padded 2 second ++ fractionText precision (t.nano % nanosPerSecond) ++ ['Z']

end TypedSelect.Time
