import Profiling.Decimal.Integer

/-!
# Durations

Lengths of time to the nanosecond, written in the largest unit that fits them. Waits are measured
by a clock that ticks in milliseconds.
-/

namespace Profiling

structure Duration where
  nanos : Nat
deriving DecidableEq, Repr

namespace Duration

def ofMillis (n : Nat) : Duration := ⟨n * tenTo 6⟩

def ofSeconds (n : Nat) : Duration := ⟨n * tenTo 9⟩

/-- How many ticks of a millisecond cover the length. -/
def ticks (d : Duration) : Nat := (d.nanos + (tenTo 6 - 1)) / tenTo 6

/-- `n` in units of ten to the power of `places`, without zeros at the end of the fraction. -/
def inUnits (n places : Nat) : List Char :=
  let fraction := padded places (n % tenTo places)
  let shown := (fraction.reverse.dropWhile (· == '0')).reverse
  natText (n / tenTo places) ++
    (if n % tenTo places = 0 then [] else '.' :: shown)

/-- The length in the largest unit of which it has at least one. -/
def text (d : Duration) : List Char :=
  if tenTo 9 ≤ d.nanos then inUnits d.nanos 9 ++ ['s']
  else if tenTo 6 ≤ d.nanos then inUnits d.nanos 6 ++ ['m', 's']
  else if tenTo 3 ≤ d.nanos then inUnits d.nanos 3 ++ ['µ', 's']
  else inUnits d.nanos 0 ++ ['n', 's']

end Duration

end Profiling
