import Profiling.Decimal.Integer

/-!
# Dates of the proleptic Gregorian calendar

`Date.dayNumber` counts days from 1970-01-01, and `Date.ofDayNumber` is the date with a given
count. Months are counted in the same way by `Date.monthIndex`; going back by months keeps the
day, or takes the last one of a month that is too short.
-/

namespace Profiling

def isLeap (year : Int) : Bool :=
  year % 4 = 0 && (year % 100 ≠ 0 || year % 400 = 0)

def monthLength (year : Int) (month : Nat) : Nat :=
  match month with
  | 2 => if isLeap year then 29 else 28
  | 4 | 6 | 9 | 11 => 30
  | _ => 31

structure Date where
  year : Int
  month : Nat
  day : Nat
  month_pos : 1 ≤ month
  month_le : month ≤ 12
  day_pos : 1 ≤ day
  day_le : day ≤ monthLength year month
deriving DecidableEq

namespace Date

def ofYmd? (year : Int) (month day : Nat) : Option Date :=
  if h : (1 ≤ month ∧ month ≤ 12) ∧ 1 ≤ day ∧ day ≤ monthLength year month then
    some ⟨year, month, day, h.1.1, h.1.2, h.2.1, h.2.2⟩
  else none

/-! ### Days -/

/-- Days from 0001-01-01 to the start of a year. -/
def daysBeforeYear (year : Int) : Int :=
  let y := year - 1
  365 * y + y / 4 - y / 100 + y / 400

/-- The number of days of a year's months before the given one. -/
def daysBeforeMonth (year : Int) : (month : Nat) → Nat
  | 0 => 0
  | 1 => 0
  | m + 2 => daysBeforeMonth year (m + 1) + monthLength year (m + 1)

/-- Days from 0001-01-01 to 1970-01-01. -/
def epochDays : Int := 719162

/-- Days from 1970-01-01. -/
def dayNumber (d : Date) : Int :=
  daysBeforeYear d.year + (daysBeforeMonth d.year d.month + (d.day - 1) : Nat) - epochDays

/-- The year of the day `n` days after 0001-01-01. -/
def yearOf (n : Int) : Int :=
  let guess := n * 400 / 146097 + 1
  if n < daysBeforeYear guess then guess - 1
  else if daysBeforeYear (guess + 1) ≤ n then guess + 1
  else guess

/-- The month of the day `n` days after the start of a year, among the months up to `m`. -/
def monthOf (year : Int) (n : Nat) : (m : Nat) → Nat
  | 0 => 1
  | m + 1 => if daysBeforeMonth year (m + 1) ≤ n then m + 1 else monthOf year n m

theorem monthOf_pos (year : Int) (n m : Nat) : 1 ≤ monthOf year n m := by
  induction m with
  | zero => simp [monthOf]
  | succ m ih => simp only [monthOf]; split <;> omega

theorem monthOf_le (year : Int) (n m : Nat) (h : 1 ≤ m) : monthOf year n m ≤ m := by
  induction m with
  | zero => omega
  | succ m ih =>
    simp only [monthOf]
    split
    · omega
    · cases m with
      | zero => simp [monthOf]
      | succ m => have := ih (by omega); omega

theorem monthLength_ge (year : Int) (month : Nat) : 28 ≤ monthLength year month := by
  unfold monthLength; repeat' split
  all_goals omega

/-- The date `n` days after 1970-01-01. -/
def ofDayNumber (n : Int) : Date :=
  let year := yearOf (n + epochDays)
  let rest := (n + epochDays - daysBeforeYear year).toNat
  let month := monthOf year rest 12
  let day := min (rest - daysBeforeMonth year month + 1) (monthLength year month)
  { year, month, day
    month_pos := monthOf_pos ..
    month_le := monthOf_le _ _ _ (by omega)
    day_pos := by have := monthLength_ge year month; omega
    day_le := Nat.min_le_right .. }

/-! ### Months -/

/-- Months from January of the year 0. -/
def monthIndex (d : Date) : Int := 12 * d.year + (d.month - 1 : Nat)

/-- The date in the month with the given index, on the same day or the last one of the month. -/
def inMonth (d : Date) (index : Int) : Date :=
  let year := index / 12
  let month := (index % 12).toNat + 1
  { year, month
    day := min d.day (monthLength year month)
    month_pos := by omega
    month_le := by omega
    day_pos := by have := monthLength_ge year month; have := d.day_pos; omega
    day_le := Nat.min_le_right .. }

/-! ### Text -/

/-- A year of four digits, with a sign outside of 0 to 9999. -/
def yearText (year : Int) : List Char :=
  if 0 ≤ year ∧ year ≤ 9999 then padded 4 year.toNat
  else (if year < 0 then '-' else '+') :: padded 4 year.natAbs

def text (d : Date) : List Char :=
  yearText d.year ++ '-' :: padded 2 d.month ++ '-' :: padded 2 d.day

end Date

end Profiling
