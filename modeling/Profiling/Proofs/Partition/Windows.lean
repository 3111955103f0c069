import Profiling.Proofs.Calendar.Starts
import Profiling.Proofs.Partition.Refusals

/-!
# Windows of partitions

A partition by time takes what is not before the exact start of its window, and is refused if the
calendar in use does not have that start. A larger interval never starts later. A later instant never
has an earlier start by hours or days; by months it never has one on an earlier date, but at the end of
a month several days have their starts on one date.
-/

namespace Profiling

namespace Instant

variable {now later start : Instant} {k : Nat} {unit : IntervalUnit}

theorem windowStart?_eq_some_iff (inUse : now.date.InCalendar) (plain : now.isLeapSecond = false)
    (fits : k < twoTo 32) : now.windowStart? k unit = some start ↔
      start = now.back k unit ∧ ¬ (now.back k unit).date < .earliest := by
  rw [windowStart?_eq inUse plain fits]
  split
  · simp [*]
  · simp [*, eq_comm]

theorem exists_windowStart?_of_le (inUse : now.date.InCalendar) (plain : now.isLeapSecond = false)
    (fits : k < twoTo 32) (started : now.windowStart? k unit = some start) {j : Nat} (fewer : j ≤ k) :
    ∃ start', now.windowStart? j unit = some start' ∧ start ≤ start' := by
  obtain ⟨rfl, reached⟩ := (windowStart?_eq_some_iff inUse plain fits).mp started
  have ordered := back_anti plain fewer unit
  refine ⟨now.back j unit, (windowStart?_eq_some_iff inUse plain (by omega)).mpr ⟨rfl, ?_⟩, ordered⟩
  exact fun early => reached ((date_le ordered).trans_lt early)

theorem exists_windowStart?_of_later (inUse : now.date.InCalendar) (plain : now.isLeapSecond = false)
    (fits : k < twoTo 32) (started : now.windowStart? k unit = some start) (later_inUse : later.date.InCalendar)
    (later_plain : later.isLeapSecond = false) (ordered : now ≤ later) :
    ∃ start', later.windowStart? k unit = some start' ∧ start.date ≤ start'.date ∧
      (unit = .hour ∨ unit = .day ∨ start'.date.day = later.date.day → start ≤ start') := by
  obtain ⟨rfl, reached⟩ := (windowStart?_eq_some_iff inUse plain fits).mp started
  have dates := date_back_mono (k := k) plain later_plain ordered unit
  refine ⟨later.back k unit, (windowStart?_eq_some_iff later_inUse later_plain fits).mpr ⟨rfl, ?_⟩, dates,
    back_mono plain later_plain ordered⟩
  exact fun early => reached (dates.trans_lt early)

end Instant

namespace Partition

variable {now : Instant} {k : Nat}

theorem predicateAt_of_window {p : Partition} {columns : List Column} {c : Column} {unit : IntervalUnit}
    (kind : p.kind = .timeUnit k unit ∨ p.kind = .ingestionTime k unit) (pos : 1 ≤ k)
    (found : findColumn columns p.column = some c) : p.predicateAt columns now = window c k unit now := by
  have valid : p.validate = .ok () := by
    rw [validate_eq_ok_iff]
    rcases kind with kind | kind <;> simpa [kind, PartitionKind.Empty] using Nat.ne_of_gt pos
  rw [predicateAt_eq found, valid]
  unfold conditionOn
  rcases kind with kind | kind <;> rw [kind] <;> rfl

/-- The window of a partition starts exactly its interval before an instant, and the partition is refused
if that is before the calendar in use. No interval of 32 bits is too long for its span. -/
theorem starts_exactly (inUse : now.date.InCalendar) (plain : now.isLeapSecond = false) (fits : k < twoTo 32)
    (unit : IntervalUnit) :
    (∃ start : Instant, (∀ t, t.Precedes now k unit ↔ t = start) ∧
      now.windowStart? k unit = (if start.date < .earliest then none else some start) ∧
      ∀ (p : Partition) (columns : List Column) (c : Column), 1 ≤ k →
        (p.kind = .timeUnit k unit ∨ p.kind = .ingestionTime k unit) → findColumn columns p.column = some c →
        p.predicateAt columns now =
          if start.date < .earliest then .error (.windowOutOfRange k unit)
          else .ok ((Expr.column c.name).gtEq (.literal (bound c.type start)))) ∧
    ((Span.ofSeconds? (k * 3600)).isSome ∧ (Span.ofSeconds? (k * 86400)).isSome) ∧
    ∀ start, now.windowStart? k unit = some start →
      (∀ j ≤ k, ∃ start', now.windowStart? j unit = some start' ∧ start ≤ start') ∧
      ∀ later : Instant, later.date.InCalendar → later.isLeapSecond = false → now ≤ later →
        ∃ start', later.windowStart? k unit = some start' ∧ start.date ≤ start'.date ∧
          (unit = .hour ∨ unit = .day ∨ start'.date.day = later.date.day → start ≤ start') := by
  have starts := Instant.windowStart?_eq inUse plain fits unit
  refine ⟨⟨now.back k unit, fun t => Instant.precedes_iff plain unit, starts, ?_⟩, ?_, fun start started => ⟨?_, ?_⟩⟩
  · intro p columns c pos kind found
    rw [predicateAt_of_window kind pos found]
    unfold window
    rw [starts]
    by_cases early : (now.back k unit).date < .earliest
    · rw [if_pos early, if_pos early]
    · rw [if_neg early, if_neg early]
  · obtain ⟨hours, made, -⟩ := Instant.span_fits fits (show 3600 ≤ 86400 by decide)
    obtain ⟨days, made', -⟩ := Instant.span_fits fits (Nat.le_refl 86400)
    rw [made, made']
    exact ⟨rfl, rfl⟩
  · exact fun j fewer => Instant.exists_windowStart?_of_le inUse plain fits started fewer
  · exact fun later later_inUse later_plain ordered =>
      Instant.exists_windowStart?_of_later inUse plain fits started later_inUse later_plain ordered

/-- Thirty-six hours before the first half hour of March are over, the window starts on the day before the
leap day. -/
theorem hours_over_leap_day :
    let columns : List Column := [⟨"day", .date⟩]
    let hours : Partition := ⟨"day", .timeUnit 36 .hour⟩
    ∃ date now later start, Date.ofYmd? 2024 3 1 = some date ∧ Instant.ofHms? date 0 30 0 0 = some now ∧
      Instant.ofHms? date 12 0 0 0 = some later ∧ Instant.next^[36 * 3600] start = now ∧
      Date.ofYmd? 2024 2 28 = some start.date ∧
      hours.predicateAt columns now = .ok ((Expr.column "day").gtEq (.literal (.date start.date))) ∧
      (∃ start', now.windowStart? 12 .hour = some start' ∧ start ≤ start') ∧
      ∃ start', later.windowStart? 36 .hour = some start' ∧ start ≤ start' := by
  intro columns hours
  obtain ⟨date, now, later, start, isDate, isNow, isLater, started, day, inUse, later_inUse, plain, ordered⟩ :
      ∃ date now later start, Date.ofYmd? 2024 3 1 = some date ∧ Instant.ofHms? date 0 30 0 0 = some now ∧
        Instant.ofHms? date 12 0 0 0 = some later ∧ now.windowStart? 36 .hour = some start ∧
        Date.ofYmd? 2024 2 28 = some start.date ∧ now.date.InCalendar ∧ later.date.InCalendar ∧
        (now.isLeapSecond = false ∧ later.isLeapSecond = false) ∧ now ≤ later :=
    ⟨_, _, _, _, rfl, rfl, rfl, rfl, rfl, by decide, by decide, by decide, by decide⟩
  obtain ⟨⟨start', exact, starts, taken⟩, -, monotone⟩ :=
    starts_exactly inUse plain.1 (show 36 < twoTo 32 by decide) .hour
  have condition := taken hours columns ⟨"day", .date⟩ (by decide) (.inl rfl) rfl
  -- the window that is there is the exact one
  rw [started] at starts
  split at starts
  · cases starts
  · obtain rfl := Option.some.inj starts
    rw [if_neg ‹_›] at condition
    obtain ⟨fewer, others⟩ := monotone start started
    obtain ⟨start', laterStart, -, kept⟩ := others later later_inUse plain.2 ordered
    exact ⟨date, now, later, start, isDate, isNow, isLater, (exact start).mpr rfl, day, condition,
      fewer 12 (by decide), start', laterStart, kept (.inl rfl)⟩

/-- An hour before the last day of March and an hour into it the windows of a month start on one date,
and that of the later instant starts earlier. -/
theorem month_end_starts_earlier :
    ∃ day next : Date, ∃ now later start start' : Instant,
      Date.ofYmd? 2024 3 30 = some day ∧ Instant.ofHms? day 23 0 0 0 = some now ∧
      Date.ofYmd? 2024 3 31 = some next ∧ Instant.ofHms? next 1 0 0 0 = some later ∧
      (now.date.InCalendar ∧ now.isLeapSecond = false) ∧ (later.date.InCalendar ∧ later.isLeapSecond = false) ∧
      now < later ∧ now.windowStart? 1 .month = some start ∧ later.windowStart? 1 .month = some start' ∧
      start' < start :=
  ⟨_, _, _, _, _, _, rfl, rfl, rfl, rfl, by decide, by decide, by decide, rfl, rfl, by decide⟩

end Partition

end Profiling
