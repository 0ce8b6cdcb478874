import TypedSelect.Time.Calendar

/-! Points in universal time, to the nanosecond. A leap second is the second before it
with a second or more of nanoseconds. -/
namespace TypedSelect.Time

/-- The first and the last year that instants reach. -/
def firstYear : Int := -262143

@[inherit_doc firstYear]
def lastYear : Int := 262142

def secondsPerDay : Int := 86400

def nanosPerSecond : Nat := 1000000000

/-- The first and the last second that instants reach, counted from 1970-01-01T00:00:00. -/
def firstSecond : Int := Date.toDayNumber ⟨firstYear, 1, 1⟩ * secondsPerDay

@[inherit_doc firstSecond]
def lastSecond : Int := (Date.toDayNumber ⟨lastYear, 12, 31⟩ + 1) * secondsPerDay - 1

/-- Only the last second of a minute can be a leap second. -/
structure Instant where
  second : Int
  nano : Nat
  firstSecond_le : firstSecond ≤ second
  le_lastSecond : second ≤ lastSecond
  nano_lt : nano < 2 * nanosPerSecond
  leap_at_end : nanosPerSecond ≤ nano → second % 60 = 59
deriving DecidableEq

namespace Instant

def ofSecond? (second : Int) (nano : Nat) : Option Instant :=
  if h : firstSecond ≤ second ∧ second ≤ lastSecond ∧ nano < 2 * nanosPerSecond ∧
      (nanosPerSecond ≤ nano → second % 60 = 59) then
    some ⟨second, nano, h.1, h.2.1, h.2.2.1, h.2.2.2⟩
  else none

def ofDate? (d : Date) : Option Instant :=
  if d.isValid then ofSecond? (d.toDayNumber * secondsPerDay) 0 else none

def date (t : Instant) : Date :=
  Date.ofDayNumber (t.second / secondsPerDay)

def secondOfDay (t : Instant) : Nat :=
  (t.second % secondsPerDay).toNat

end Instant

end TypedSelect.Time
