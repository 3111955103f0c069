import Profiling.Calendar.Window
import Profiling.Proofs.Calendar.Clock

/-!
# Starts of windows

On a calendar without ends a window starts so many seconds of the clock or months of the calendar
before an instant. The calendar in use has this start unless it lies before the earliest date: a count
that does not fit in its bits is one that reaches beyond that date.
-/

namespace Profiling

theorem twoTo_thirtyOne : twoTo 31 = 2147483648 := rfl

theorem signed32?_cases (n : Int) : signed32? n = some n ∨ signed32? n = none ∧ (n < -twoTo 31 ∨ twoTo 31 ≤ n) := by
  unfold signed32?
  split
  · exact .inl rfl
  · refine .inr ⟨rfl, ?_⟩
    omega

namespace Date

variable {d e : Date}

/-! ### Months -/

theorem monthIndex_inMonth (d : Date) (index : Int) : (d.inMonth index).monthIndex = index := by
  simp only [monthIndex, inMonth]
  omega

theorem le_iff_monthIndex : d ≤ e ↔ d.monthIndex < e.monthIndex ∨ d.monthIndex = e.monthIndex ∧ d.day ≤ e.day := by
  have := d.month_pos
  have := d.month_le
  have := e.month_pos
  have := e.month_le
  rw [le_iff]
  unfold monthIndex
  omega

theorem eq_inMonth_iff {index : Int} :
    e = d.inMonth index ↔ e.monthIndex = index ∧ e.day = min d.day (monthLength e.year e.month) := by
  constructor
  · rintro rfl
    exact ⟨monthIndex_inMonth d index, rfl⟩
  · rintro ⟨rfl, day⟩
    have := e.month_pos
    have := e.month_le
    have year : (d.inMonth e.monthIndex).year = e.year := by
      simp only [inMonth, monthIndex]
      omega
    have month : (d.inMonth e.monthIndex).month = e.month := by
      simp only [inMonth, monthIndex]
      omega
    have sameDay : (d.inMonth e.monthIndex).day = e.day := by
      rw [day, ← year, ← month]
      rfl
    exact (key_injective (by simp only [key, year, month, sameDay])).symm

theorem inMonth_le {index : Int} (back : index ≤ d.monthIndex) : d.inMonth index ≤ d := by
  rw [le_iff_monthIndex, monthIndex_inMonth]
  have : (d.inMonth index).day ≤ d.day := Nat.min_le_left ..
  omega

/-! ### The calendar in use -/

def earliest : Date := newYear earliestYear

theorem lt_earliest_iff : d < earliest ↔ d.year < earliestYear := by
  have := d.month_pos
  have := d.day_pos
  rw [lt_iff]
  simp only [earliest, newYear]
  omega

theorem not_lt_earliest (inUse : d.InCalendar) : ¬ d < earliest := by
  rw [lt_earliest_iff]
  exact Int.not_lt.mpr inUse.1

/-- Going back from a date, only the earliest one is an end of the calendar. -/
theorem inCalendar?_of_le (inUse : d.InCalendar) (before : e ≤ d) :
    e.inCalendar? = if e < earliest then none else some e := by
  have year : e.year ≤ latestYear := by
    have := inUse.2
    rcases le_iff.mp before with earlier | ⟨same, -⟩ <;> omega
  unfold inCalendar?
  by_cases early : e < earliest
  · rw [if_pos early, if_neg fun inUse => not_lt_earliest inUse early]
  · rw [if_neg early, if_pos ⟨Int.not_lt.mp (mt lt_earliest_iff.mpr early), year⟩]

/-- More days than fit in their bits are more than the whole calendar in use has. -/
theorem ofDayNumber_lt_earliest (inUse : d.InCalendar) {days : Int} (many : twoTo 31 ≤ days) :
    ofDayNumber (d.dayNumber - days) < earliest := by
  have last := (dayNumber_bounds d).2
  have := daysBeforeYear_mono (Int.add_le_add_right inUse.2 1)
  rw [lt_earliest_iff, ← Int.not_le, le_year_iff, dayNumber_ofDayNumber]
  simp only [twoTo_thirtyOne, daysBeforeYear, latestYear, earliestYear] at *
  omega

theorem minusDays?_eq (inUse : d.InCalendar) {days : Int} (back : 0 ≤ days) :
    d.minusDays? days =
      if ofDayNumber (d.dayNumber - days) < earliest then none else some (ofDayNumber (d.dayNumber - days)) := by
  unfold minusDays?
  rcases signed32?_cases (-days) with fits | ⟨fails, outside⟩
  · have ordered : ofDayNumber (d.dayNumber - days) ≤ d := by
      rw [← dayNumber_le_iff, dayNumber_ofDayNumber]
      omega
    rw [fits]
    exact inCalendar?_of_le inUse ordered
  · rw [fails, if_pos (ofDayNumber_lt_earliest inUse (by omega))]
    rfl

theorem inMonth_lt_earliest_iff {index : Int} : d.inMonth index < earliest ↔ index < 12 * earliestYear := by
  rw [lt_earliest_iff]
  show index / 12 < earliestYear ↔ _
  omega

theorem monthIndex_lt (inUse : d.InCalendar) : d.monthIndex < 12 * (latestYear + 1) := by
  have := inUse.2
  have := d.month_le
  unfold monthIndex
  omega

/-- An index that does not fit in its bits is one of a month before the earliest. -/
theorem inMonth_lt_earliest (inUse : d.InCalendar) {months : Nat}
    (outside : twoTo 31 ≤ (months : Int) ∨ d.monthIndex - months < -twoTo 31) :
    d.inMonth (d.monthIndex - months) < earliest := by
  have := monthIndex_lt inUse
  rw [inMonth_lt_earliest_iff]
  simp only [twoTo_thirtyOne, latestYear, earliestYear] at *
  omega

theorem minusMonths?_eq (inUse : d.InCalendar) (months : Nat) :
    d.minusMonths? months =
      if d.inMonth (d.monthIndex - months) < earliest then none else some (d.inMonth (d.monthIndex - months)) := by
  unfold minusMonths?
  rcases signed32?_cases months with fits | ⟨fails, outside⟩
  · rw [fits]
    show ((signed32? (d.monthIndex - months)).bind fun index => (d.inMonth index).inCalendar?) = _
    rcases signed32?_cases (d.monthIndex - months) with fits | ⟨fails, outside⟩
    · rw [fits]
      exact inCalendar?_of_le inUse (inMonth_le (by omega))
    · have := monthIndex_lt inUse
      have early : d.monthIndex - months < -twoTo 31 := by
        simp only [twoTo_thirtyOne, latestYear] at *
        omega
      rw [fails, if_pos (inMonth_lt_earliest inUse (.inr early))]
      rfl
  · rw [fails, if_pos (inMonth_lt_earliest inUse (.inl (by omega)))]
    rfl

theorem eq_of_inCalendar? (known : d.inCalendar? = some e) : d = e := by
  unfold inCalendar? at known
  split at known
  · exact Option.some.inj known
  · cases known

theorem le_of_minusDays? {days : Int} (back : 0 ≤ days) (earlier : d.minusDays? days = some e) : e ≤ d := by
  unfold minusDays? at earlier
  rcases signed32?_cases (-days) with fits | ⟨fails, -⟩
  · rw [fits] at earlier
    rw [← eq_of_inCalendar? earlier, ← dayNumber_le_iff, dayNumber_ofDayNumber]
    omega
  · rw [fails] at earlier
    cases earlier

theorem le_of_minusMonths? {months : Nat} (earlier : d.minusMonths? months = some e) : e ≤ d := by
  unfold minusMonths? at earlier
  rcases signed32?_cases months with fits | ⟨fails, -⟩
  · rw [fits, Option.bind_eq_bind, Option.bind_some] at earlier
    rcases signed32?_cases (d.monthIndex - months) with fits | ⟨fails, -⟩
    · rw [fits] at earlier
      rw [← eq_of_inCalendar? earlier]
      exact inMonth_le (by omega)
    · rw [fails] at earlier
      cases earlier
  · rw [fails] at earlier
    cases earlier

end Date

namespace Instant

variable {t u now later : Instant} {k : Nat}

/-! ### Exact starts -/

structure MonthsBefore (t now : Instant) (n : Nat) : Prop where
  month : t.date.monthIndex = now.date.monthIndex - n
  day : t.date.day = min now.date.day (monthLength t.date.year t.date.month)
  second : t.second = now.second
  nano : t.nano = now.nano

/-- Whether `t` lies exactly `k` units before `now`, by the seconds of the clock or by the months of the
calendar. -/
def Precedes (t now : Instant) (k : Nat) : IntervalUnit → Prop
  | .hour => next^[k * 3600] t = now
  | .day => next^[k * 86400] t = now
  | .month => t.MonthsBefore now k
  | .year => t.MonthsBefore now (k * 12)

def minusSeconds (t : Instant) (n : Nat) : Instant := ofSeconds (t.seconds - n) t.nano t.nano_lt

def minusMonths (t : Instant) (n : Nat) : Instant :=
  { t with date := t.date.inMonth (t.date.monthIndex - n) }

/-- Earlier by `k` units, on a calendar without ends. -/
def back (t : Instant) (k : Nat) : IntervalUnit → Instant
  | .hour => t.minusSeconds (k * 3600)
  | .day => t.minusSeconds (k * 86400)
  | .month => t.minusMonths k
  | .year => t.minusMonths (k * 12)

theorem seconds_minusSeconds (plain : t.isLeapSecond = false) (n : Nat) :
    (t.minusSeconds n).seconds = t.seconds - n :=
  seconds_ofSeconds t.nano_lt (Nat.lt_of_not_le (of_decide_eq_false plain))

theorem plain_minusSeconds (plain : t.isLeapSecond = false) (n : Nat) : (t.minusSeconds n).isLeapSecond = false :=
  plain

theorem iterate_next_eq_iff_minusSeconds (plain : now.isLeapSecond = false) {n : Nat} :
    next^[n] t = now ↔ t = now.minusSeconds n := by
  rw [iterate_next_eq_iff]
  constructor
  · rintro ⟨seconds, nano⟩
    exact ext_of_seconds (seconds.trans (seconds_minusSeconds plain n).symm) nano
  · rintro rfl
    exact ⟨seconds_minusSeconds plain n, rfl⟩

theorem monthsBefore_iff {n : Nat} : t.MonthsBefore now n ↔ t = now.minusMonths n := by
  constructor
  · rintro ⟨month, day, second, nano⟩
    have date := Date.eq_inMonth_iff.mpr ⟨month, day⟩
    refine key_injective ?_
    simp only [key, minusMonths, date, second, nano]
  · rintro rfl
    obtain ⟨month, day⟩ := Date.eq_inMonth_iff.mp (rfl : (now.minusMonths n).date = _)
    exact ⟨month, day, rfl, rfl⟩

theorem precedes_iff (plain : now.isLeapSecond = false) (unit : IntervalUnit) :
    t.Precedes now k unit ↔ t = now.back k unit := by
  cases unit with
  | hour | day => exact iterate_next_eq_iff_minusSeconds plain
  | month | year => exact monthsBefore_iff

/-! ### Order of starts -/

theorem minusSeconds_anti (plain : now.isLeapSecond = false) {m n : Nat} (more : m ≤ n) :
    now.minusSeconds n ≤ now.minusSeconds m := by
  rw [le_iff_seconds (plain_minusSeconds plain n) (plain_minusSeconds plain m), seconds_minusSeconds plain,
    seconds_minusSeconds plain]
  have : (now.minusSeconds n).nano = (now.minusSeconds m).nano := rfl
  omega

theorem minusMonths_anti {m n : Nat} (more : m ≤ n) : now.minusMonths n ≤ now.minusMonths m := by
  rcases more.eq_or_lt with rfl | more
  · exact le_rfl
  · refine le_iff.mpr (.inl (lt_of_not_ge fun ordered => ?_))
    rw [Date.le_iff_monthIndex] at ordered
    simp only [minusMonths, Date.monthIndex_inMonth] at ordered
    omega

theorem back_anti (plain : now.isLeapSecond = false) {j k : Nat} (more : j ≤ k) (unit : IntervalUnit) :
    now.back k unit ≤ now.back j unit := by
  cases unit with
  | hour | day => exact minusSeconds_anti plain (Nat.mul_le_mul_right _ more)
  | month => exact minusMonths_anti more
  | year => exact minusMonths_anti (Nat.mul_le_mul_right _ more)

theorem minusSeconds_mono (now_plain : now.isLeapSecond = false) (later_plain : later.isLeapSecond = false)
    (ordered : now ≤ later) (n : Nat) : now.minusSeconds n ≤ later.minusSeconds n := by
  rw [le_iff_seconds (plain_minusSeconds now_plain n) (plain_minusSeconds later_plain n),
    seconds_minusSeconds now_plain, seconds_minusSeconds later_plain]
  have nano : (now.minusSeconds n).nano = now.nano ∧ (later.minusSeconds n).nano = later.nano := ⟨rfl, rfl⟩
  rcases (le_iff_seconds now_plain later_plain).mp ordered with earlier | same <;> omega

/-- Going back by months keeps the order of dates, but two days may come to one. -/
theorem date_minusMonths_mono (ordered : now ≤ later) (n : Nat) :
    (now.minusMonths n).date ≤ (later.minusMonths n).date := by
  have dates := Date.le_iff_monthIndex.mp (date_le ordered)
  rw [Date.le_iff_monthIndex]
  simp only [minusMonths, Date.monthIndex_inMonth]
  rcases dates with month | ⟨month, day⟩
  · omega
  · rw [month]
    refine .inr ⟨rfl, ?_⟩
    simp only [Date.inMonth]
    omega

/-- Where the later day is in the month too, the order is kept to the time of day. -/
theorem minusMonths_mono {n : Nat} (kept : (later.minusMonths n).date.day = later.date.day) (ordered : now ≤ later) :
    now.minusMonths n ≤ later.minusMonths n := by
  rcases le_iff.mp ordered with date | ⟨date, time⟩
  · -- a day that was kept is not one that an earlier day comes to
    refine le_iff.mpr (.inl (lt_of_not_ge fun reversed => not_le_of_gt date ?_))
    have : (now.minusMonths n).date.day ≤ now.date.day := Nat.min_le_left ..
    rw [Date.le_iff_monthIndex, kept] at reversed
    rw [Date.le_iff_monthIndex]
    simp only [minusMonths, Date.monthIndex_inMonth] at *
    omega
  · refine le_iff.mpr (.inr ⟨?_, time⟩)
    simp only [minusMonths, date]

/-- A later instant has no earlier start, unless its day was cut to the last one of a month. -/
theorem back_mono (now_plain : now.isLeapSecond = false) (later_plain : later.isLeapSecond = false)
    (ordered : now ≤ later) {unit : IntervalUnit}
    (kept : unit = .hour ∨ unit = .day ∨ (later.back k unit).date.day = later.date.day) :
    now.back k unit ≤ later.back k unit := by
  cases unit with
  | hour | day => exact minusSeconds_mono now_plain later_plain ordered _
  | month | year => exact minusMonths_mono (by simpa [back] using kept) ordered

theorem date_back_mono (now_plain : now.isLeapSecond = false) (later_plain : later.isLeapSecond = false)
    (ordered : now ≤ later) (unit : IntervalUnit) : (now.back k unit).date ≤ (later.back k unit).date := by
  cases unit with
  | hour | day => exact date_le (minusSeconds_mono now_plain later_plain ordered _)
  | month | year => exact date_minusMonths_mono ordered _

/-! ### Starts in the calendar -/

/-- A day's second and the days it goes back by are the two parts of the count of seconds. -/
theorem minusSeconds_eq (plain : now.isLeapSecond = false) (n : Nat) :
    (now.minusSeconds n).date = .ofDayNumber (now.date.dayNumber - -((now.second + 0 - n : Int) / 86400)) ∧
      (now.minusSeconds n).second = ((now.second + 0 - n : Int) % 86400).toNat := by
  have whole : now.seconds - n = now.date.dayNumber * 86400 + (now.second + 0 - n : Int) := by
    rw [seconds_of_plain plain]
    omega
  constructor
  · show Date.ofDayNumber ((now.seconds - n) / 86400) = _
    rw [whole]
    congr 1
    omega
  · show ((now.seconds - n) % 86400).toNat = _
    rw [whole]
    omega

theorem minusSpan?_eq (inUse : now.date.InCalendar) (plain : now.isLeapSecond = false) (span : Span) :
    now.minusSpan? span =
      if (now.minusSeconds span.seconds).date < .earliest then none else some (now.minusSeconds span.seconds) := by
  unfold minusSpan?
  split
  · have same : now.minusSeconds span.seconds = now :=
      ext_of_seconds (by rw [seconds_minusSeconds plain]; omega) rfl
    rw [same, if_neg (Date.not_lt_earliest inUse)]
  · have := now.second_lt
    have ⟨date, second⟩ := minusSeconds_eq plain span.seconds
    simp only [plain, Bool.false_eq_true, if_false]
    rw [Date.minusDays?_eq inUse (by omega), ← date]
    split
    · rfl
    · exact congrArg some (key_injective (by simp only [key, second]; rfl))

theorem minusMonths?_eq (inUse : now.date.InCalendar) (n : Nat) :
    now.minusMonths? n =
      if (now.minusMonths n).date < .earliest then none else some (now.minusMonths n) := by
  unfold minusMonths?
  rw [Date.minusMonths?_eq inUse]
  show Option.map _ (if (now.minusMonths n).date < .earliest then _ else _) = _
  split <;> rfl

theorem span_fits (fits : k < twoTo 32) {n : Nat} (unit : n ≤ 86400) :
    ∃ span, Span.ofSeconds? (k * n) = some span ∧ span.seconds = k * n := by
  have : k * n * 1000 < twoTo 63 :=
    calc k * n * 1000 ≤ twoTo 32 * 86400 * 1000 := Nat.mul_le_mul_right _ (Nat.mul_le_mul fits.le unit)
      _ < twoTo 63 := by decide
  exact ⟨⟨k * n, this⟩, dif_pos this, rfl⟩

theorem bind_span_eq (inUse : now.date.InCalendar) (plain : now.isLeapSecond = false) (fits : k < twoTo 32) {n : Nat}
    (unit : n ≤ 86400) : (Span.ofSeconds? (k * n)).bind now.minusSpan? =
      if (now.minusSeconds (k * n)).date < .earliest then none else some (now.minusSeconds (k * n)) := by
  obtain ⟨span, made, seconds⟩ := span_fits fits unit
  rw [made, Option.bind_some, minusSpan?_eq inUse plain, seconds]

theorem unsigned32?_cases (n : Nat) : unsigned32? n = some n ∨ unsigned32? n = none ∧ twoTo 32 ≤ n := by
  unfold unsigned32?
  split
  · exact .inl rfl
  · exact .inr ⟨rfl, Nat.le_of_not_lt ‹_›⟩

theorem windowStart?_eq (inUse : now.date.InCalendar) (plain : now.isLeapSecond = false) (fits : k < twoTo 32)
    (unit : IntervalUnit) : now.windowStart? k unit =
      if (now.back k unit).date < .earliest then none else some (now.back k unit) := by
  cases unit with
  | hour => exact bind_span_eq inUse plain fits (by decide)
  | day => exact bind_span_eq inUse plain fits (Nat.le_refl 86400)
  | month => exact minusMonths?_eq inUse k
  | year =>
    show (unsigned32? (k * 12)).bind now.minusMonths? = _
    rcases unsigned32?_cases (k * 12) with fits | ⟨fails, long⟩
    · rw [fits, Option.bind_some]
      exact minusMonths?_eq inUse (k * 12)
    · have : twoTo 31 ≤ twoTo 32 := by decide
      have early : (now.back k .year).date < .earliest := Date.inMonth_lt_earliest inUse (.inl (by omega))
      rw [if_pos early, fails]
      rfl

/-! ### Starts of any instant -/

structure StartsBefore (start now : Instant) : Prop where
  date_le : start.date ≤ now.date
  plain : now.isLeapSecond = false → start.isLeapSecond = false

theorem startsBefore_of_minusSpan? {span : Span} (started : now.minusSpan? span = some start) :
    start.StartsBefore now := by
  unfold minusSpan? at started
  split at started
  · obtain rfl := Option.some.inj started
    exact ⟨le_rfl, id⟩
  · obtain ⟨date, earlier, made⟩ := Option.bind_eq_some_iff.mp started
    obtain rfl := Option.some.inj made
    have := now.second_lt
    refine ⟨Date.le_of_minusDays? ?_ earlier, fun plain => ?_⟩
    · split <;> omega
    · rw [← plain]
      exact isLeapSecond_congr (if_neg (ne_true_of_eq_false plain))

theorem startsBefore_of_minusMonths? {months : Nat} (started : now.minusMonths? months = some start) :
    start.StartsBefore now := by
  obtain ⟨date, earlier, rfl⟩ := Option.map_eq_some_iff.mp started
  exact ⟨Date.le_of_minusMonths? earlier, id⟩

theorem startsBefore_of_windowStart? (started : now.windowStart? k unit = some start) : start.StartsBefore now := by
  cases unit with
  | hour | day =>
    obtain ⟨span, -, started⟩ := Option.bind_eq_some_iff.mp started
    exact startsBefore_of_minusSpan? started
  | month => exact startsBefore_of_minusMonths? started
  | year =>
    obtain ⟨months, -, started⟩ := Option.bind_eq_some_iff.mp started
    exact startsBefore_of_minusMonths? started

end Instant

end Profiling
