import Profiling.Calendar.Instant

/-!
# Time windows

A window reaches back from an instant by a number of hours, days, months or years. Days and months
are counted in 32 bits and spans of time in 64, and the calendar in use has a first and a last year.
A window has no start where a count does not fit or the calendar does not reach.
-/

namespace Profiling

inductive IntervalUnit where
  | hour
  | day
  | month
  | year
deriving DecidableEq, Repr

namespace IntervalUnit

def all : List IntervalUnit := [hour, day, month, year]

def label : IntervalUnit → String
  | hour => "Hour"
  | day => "Day"
  | month => "Month"
  | year => "Year"

def code : IntervalUnit → String
  | hour => "HOUR"
  | day => "DAY"
  | month => "MONTH"
  | year => "YEAR"

end IntervalUnit

def signed32? (n : Int) : Option Int :=
  if -twoTo 31 ≤ n ∧ n < twoTo 31 then some n else none

def unsigned32? (n : Nat) : Option Nat :=
  if n < twoTo 32 then some n else none

/-! ### Dates -/

namespace Date

def earliestYear : Int := -262143

def latestYear : Int := 262142

def InCalendar (d : Date) : Prop := earliestYear ≤ d.year ∧ d.year ≤ latestYear

instance (d : Date) : Decidable d.InCalendar := inferInstanceAs (Decidable (_ ∧ _))

/-- The date, if the calendar in use has it. -/
def inCalendar? (d : Date) : Option Date :=
  if d.InCalendar then some d else none

def minusDays? (d : Date) (days : Int) : Option Date := do
  let added ← signed32? (-days)
  (ofDayNumber (d.dayNumber + added)).inCalendar?

/-- Earlier by a number of months, on the same day or the last one of the month. -/
def minusMonths? (d : Date) (months : Nat) : Option Date := do
  let taken ← signed32? months
  let index ← signed32? (d.monthIndex - taken)
  (d.inMonth index).inCalendar?

end Date

/-! ### Spans -/

/-- A time in whole seconds. Its milliseconds fit in 64 bits with a sign. -/
structure Span where
  seconds : Nat
  fits : seconds * 1000 < twoTo 63

/-- A longer span cannot be made, and asking for one is a mistake of the caller. -/
def Span.ofSeconds? (n : Nat) : Option Span :=
  if h : n * 1000 < twoTo 63 then some ⟨n, h⟩ else none

/-! ### Starts -/

namespace Instant

/-- Earlier by a span. A leap second is left for the second after it, unless nothing is taken. -/
def minusSpan? (t : Instant) (span : Span) : Option Instant :=
  if span.seconds = 0 then some t
  else do
    let second : Int := t.second + (if t.isLeapSecond then 1 else 0) - span.seconds
    let date ← t.date.minusDays? (-(second / 86400))
    return { date
             second := (second % 86400).toNat
             nano := if t.isLeapSecond then t.nano - billion else t.nano
             second_lt := by omega
             nano_lt := by have := t.nano_lt; split <;> omega }

/-- Earlier by a number of months, at the same time of day. -/
def minusMonths? (t : Instant) (months : Nat) : Option Instant :=
  (t.date.minusMonths? months).map fun date => { t with date }

/-- The start of the window of `k` units up to `t`. -/
def windowStart? (t : Instant) (k : Nat) : IntervalUnit → Option Instant
  | .hour => do t.minusSpan? (← Span.ofSeconds? (k * 3600))
  | .day => do t.minusSpan? (← Span.ofSeconds? (k * 86400))
  | .month => t.minusMonths? k
  | .year => do t.minusMonths? (← unsigned32? (k * 12))

end Instant

end Profiling
