import Mathlib.Data.Prod.Lex
import Mathlib.Order.Monotone.Basic
import Profiling.Calendar.Date

/-!
# Days of the calendar

`Date.next` is the day after a date, by the lengths of months and years alone. The count of days goes
up by one with it, keeps the order of dates and misses no number, so counting and going through the
calendar day by day come to the same.
-/

namespace Profiling

namespace Date

/-! ### Order -/

/-- Year, month and day, of which an earlier one outweighs the later ones. -/
def key (d : Date) : Int ×ₗ Nat ×ₗ Nat := toLex (d.year, toLex (d.month, d.day))

theorem key_injective : Function.Injective key := by
  intro d e same
  have parts := Prod.ext_iff.mp (toLex.injective same)
  have inner := Prod.ext_iff.mp (toLex.injective parts.2)
  cases d
  cases e
  simp only [mk.injEq]
  exact ⟨parts.1, inner.1, inner.2⟩

instance : LinearOrder Date := LinearOrder.lift' key key_injective

theorem lt_iff {d e : Date} : d < e ↔
    d.year < e.year ∨ d.year = e.year ∧ (d.month < e.month ∨ d.month = e.month ∧ d.day < e.day) := by
  show key d < key e ↔ _
  simp only [key, Prod.Lex.toLex_lt_toLex]

theorem le_iff {d e : Date} : d ≤ e ↔
    d.year < e.year ∨ d.year = e.year ∧ (d.month < e.month ∨ d.month = e.month ∧ d.day ≤ e.day) := by
  show key d ≤ key e ↔ _
  simp only [key, Prod.Lex.toLex_le_toLex]

/-! ### Years and months -/

def yearLength (year : Int) : Nat := if isLeap year then 366 else 365

theorem daysBeforeYear_succ (year : Int) :
    daysBeforeYear (year + 1) = daysBeforeYear year + yearLength year := by
  have leap : isLeap year = true ↔ year % 4 = 0 ∧ (year % 100 ≠ 0 ∨ year % 400 = 0) := by simp [isLeap]
  unfold daysBeforeYear yearLength
  dsimp only
  -- a year is leap exactly if the three quotients together go up at it
  split
  · have := leap.mp ‹_›
    omega
  · have := mt leap.mpr ‹_›
    omega

theorem daysBeforeYear_mono {m n : Int} (ordered : m ≤ n) : daysBeforeYear m ≤ daysBeforeYear n := by
  refine monotone_int_of_le_succ (fun year => ?_) ordered
  rw [daysBeforeYear_succ]
  omega

theorem daysBeforeMonth_succ (year : Int) {month : Nat} (pos : 1 ≤ month) :
    daysBeforeMonth year (month + 1) = daysBeforeMonth year month + monthLength year month := by
  obtain ⟨m, rfl⟩ := Nat.exists_eq_add_of_le' pos
  rfl

theorem daysBeforeMonth_mono (year : Int) {m n : Nat} (ordered : m ≤ n) :
    daysBeforeMonth year m ≤ daysBeforeMonth year n := by
  refine monotone_nat_of_le_succ (fun month => ?_) ordered
  cases month with
  | zero => exact Nat.le_refl 0
  | succ m => exact Nat.le_add_right ..

theorem daysBeforeMonth_thirteen (year : Int) : daysBeforeMonth year 13 = yearLength year := by
  simp only [daysBeforeMonth, monthLength, yearLength]
  split <;> rfl

/-! ### Counts -/

def dayOfYear (d : Date) : Nat := daysBeforeMonth d.year d.month + (d.day - 1)

theorem dayNumber_eq (d : Date) : d.dayNumber = daysBeforeYear d.year + d.dayOfYear - epochDays := rfl

theorem dayOfYear_lt_next_month (d : Date) : d.dayOfYear < daysBeforeMonth d.year (d.month + 1) := by
  rw [daysBeforeMonth_succ d.year d.month_pos]
  have := d.day_pos
  have := d.day_le
  unfold dayOfYear
  omega

theorem dayOfYear_lt (d : Date) : d.dayOfYear < yearLength d.year := by
  have inMonth := dayOfYear_lt_next_month d
  have inYear := daysBeforeMonth_mono d.year (Nat.succ_le_succ d.month_le)
  rw [daysBeforeMonth_thirteen] at inYear
  exact Nat.lt_of_lt_of_le inMonth inYear

/-- The days of a year are those counted between its start and that of the next. -/
theorem dayNumber_bounds (d : Date) :
    daysBeforeYear d.year - epochDays ≤ d.dayNumber ∧ d.dayNumber < daysBeforeYear (d.year + 1) - epochDays := by
  have := dayOfYear_lt d
  rw [dayNumber_eq, daysBeforeYear_succ]
  omega

theorem le_year_iff {d : Date} {year : Int} : year ≤ d.year ↔ daysBeforeYear year - epochDays ≤ d.dayNumber := by
  have ⟨first, last⟩ := dayNumber_bounds d
  constructor
  · intro reached
    have := daysBeforeYear_mono reached
    omega
  · intro reached
    by_contra before
    have := daysBeforeYear_mono (show d.year + 1 ≤ year by omega)
    omega

theorem dayNumber_lt {d e : Date} (before : d < e) : d.dayNumber < e.dayNumber := by
  rw [dayNumber_eq, dayNumber_eq]
  rcases lt_iff.mp before with year | ⟨year, month | ⟨month, day⟩⟩
  · have := daysBeforeYear_mono (show d.year + 1 ≤ e.year from year)
    have := dayOfYear_lt d
    rw [daysBeforeYear_succ] at *
    omega
  · have := daysBeforeMonth_mono e.year (show d.month + 1 ≤ e.month from month)
    have := dayOfYear_lt_next_month d
    rw [year] at *
    have : daysBeforeMonth e.year e.month ≤ e.dayOfYear := Nat.le_add_right ..
    omega
  · have := d.day_pos
    unfold dayOfYear
    rw [year, month]
    omega

theorem dayNumber_lt_iff {d e : Date} : d.dayNumber < e.dayNumber ↔ d < e := by
  constructor
  · intro counted
    by_contra reversed
    rcases (not_lt.mp reversed).eq_or_lt with rfl | after
    · omega
    · have := dayNumber_lt after
      omega
  · exact dayNumber_lt

theorem dayNumber_le_iff {d e : Date} : d.dayNumber ≤ e.dayNumber ↔ d ≤ e := by
  rw [← Int.not_lt, ← not_lt, dayNumber_lt_iff]

theorem dayNumber_injective : Function.Injective dayNumber := by
  intro d e same
  exact le_antisymm (dayNumber_le_iff.mp (by omega)) (dayNumber_le_iff.mp (by omega))

/-! ### Dates by their count -/

theorem yearOf_spec (n : Int) : daysBeforeYear (yearOf n) ≤ n ∧ n < daysBeforeYear (yearOf n + 1) := by
  -- the mean length of a year is 146097 / 400 days, and a start of a year is never two days off it
  unfold yearOf daysBeforeYear
  dsimp only
  split
  · omega
  · split <;> omega

theorem monthOf_spec (year : Int) {n m : Nat} (before : n < daysBeforeMonth year (m + 1)) :
    daysBeforeMonth year (monthOf year n m) ≤ n ∧ n < daysBeforeMonth year (monthOf year n m + 1) := by
  induction m with
  | zero => exact absurd before (Nat.not_lt_zero n)
  | succ m ih =>
    unfold monthOf
    split
    · exact ⟨‹_›, before⟩
    · exact ih (Nat.lt_of_not_le ‹_›)

theorem dayNumber_ofDayNumber (n : Int) : (ofDayNumber n).dayNumber = n := by
  have ⟨begun, ends⟩ := yearOf_spec (n + epochDays)
  rw [daysBeforeYear_succ] at ends
  have within : (n + epochDays - daysBeforeYear (yearOf (n + epochDays))).toNat <
      daysBeforeMonth (yearOf (n + epochDays)) 13 := by
    rw [daysBeforeMonth_thirteen]
    omega
  have ⟨first, last⟩ := monthOf_spec _ within
  rw [daysBeforeMonth_succ _ (monthOf_pos ..)] at last
  simp only [dayNumber, ofDayNumber]
  omega

theorem ofDayNumber_dayNumber (d : Date) : ofDayNumber d.dayNumber = d :=
  dayNumber_injective (dayNumber_ofDayNumber _)

/-! ### Day by day -/

def newYear (year : Int) : Date where
  year := year
  month := 1
  day := 1
  month_pos := Nat.le_refl 1
  month_le := by decide
  day_pos := Nat.le_refl 1
  day_le := Nat.le_trans (by decide) (monthLength_ge ..)

def next (d : Date) : Date :=
  if inMonth : d.day < monthLength d.year d.month then
    { d with day := d.day + 1, day_pos := Nat.le_add_left .., day_le := inMonth }
  else if inYear : d.month < 12 then
    { year := d.year
      month := d.month + 1
      day := 1
      month_pos := Nat.le_add_left ..
      month_le := inYear
      day_pos := Nat.le_refl 1
      day_le := Nat.le_trans (by decide) (monthLength_ge ..) }
  else newYear (d.year + 1)

theorem dayNumber_next (d : Date) : d.next.dayNumber = d.dayNumber + 1 := by
  have := d.day_pos
  have := d.day_le
  have monthEnd := daysBeforeMonth_succ d.year d.month_pos
  rw [dayNumber_eq, dayNumber_eq]
  unfold next dayOfYear
  split
  · dsimp only
    omega
  · split
    · dsimp only
      omega
    · have december : d.month + 1 = 13 := by
        have := d.month_le
        omega
      rw [december, daysBeforeMonth_thirteen] at monthEnd
      dsimp only [newYear]
      rw [daysBeforeYear_succ, show daysBeforeMonth (d.year + 1) 1 = 0 from rfl]
      omega

end Date

end Profiling
