import Profiling.Calendar.Date

/-!
# Instants

A date with a time of day, to the nanosecond. The last second of a minute may be followed by a
leap second, whose nanoseconds are counted on from a whole second.
-/

namespace Profiling

/-- A date and the time on it. From a billion nanoseconds up it lies in a leap second. -/
structure Instant where
  date : Date
  second : Nat
  nano : Nat
  second_lt : second < 86400
  nano_lt : nano < 2000000000
deriving DecidableEq

namespace Instant

def billion : Nat := 1000000000

def ofHms? (date : Date) (hour minute second nano : Nat) : Option Instant :=
  if h : (hour < 24 ∧ minute < 60 ∧ second < 60) ∧ nano < 2000000000 then
    if nano < billion ∨ second = 59 then
      some ⟨date, hour * 3600 + minute * 60 + second, nano, by omega, h.2⟩
    else none
  else none

def isLeapSecond (t : Instant) : Bool := billion ≤ t.nano

/-- Whole seconds from 1970-01-01 00:00:00, where a leap second counts as the one after it. -/
def seconds (t : Instant) : Int :=
  t.date.dayNumber * 86400 + t.second + (if t.isLeapSecond then 1 else 0)

def ofSeconds (n : Int) (nano : Nat) (nano_lt : nano < 2000000000) : Instant where
  date := .ofDayNumber (n / 86400)
  second := (n % 86400).toNat
  nano := nano
  second_lt := by omega
  nano_lt := nano_lt

def timeText (t : Instant) : List Char :=
  let second := t.second % 60 + (if t.isLeapSecond then 1 else 0)
  padded 2 (t.second / 3600) ++ ':' :: padded 2 (t.second / 60 % 60) ++
    ':' :: padded 2 second

def text (t : Instant) : List Char :=
  t.date.text ++ ' ' :: t.timeText

/-- The fraction of the second in the fewest thousands of places that hold it, if there is one. -/
def fractionText (t : Instant) : List Char :=
  let n := t.nano % billion
  if n = 0 then []
  else if n % 1000000 = 0 then '.' :: padded 3 (n / 1000000)
  else if n % 1000 = 0 then '.' :: padded 6 (n / 1000)
  else '.' :: padded 9 n

end Instant

end Profiling
