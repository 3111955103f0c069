import Profiling.Proofs.Calendar.Fields
import Profiling.Proofs.Partition.Predicate
import Profiling.Proofs.Partition.Windows
import Profiling.Proofs.Sql.Lexeme

/-!
# Texts of bounds

The bound of a window is written as a date or as a time to the second. Its year has four digits and no
sign unless the window starts before the year 0, and nothing refuses a window for that. Where the year
has four digits, the comparison with the text that is read back takes every cell of the window, and none
that is a second or more before it.
-/

namespace Profiling

open Profiling.Frame (Cell)

variable {V : Type}

/-! ### Times in databases -/

structure Interpretation.Chronological (db : Interpretation V) (day : Date → V) (moment : Instant → V) : Prop where
  date : ∀ d, db.literal (.date d) = day d
  timestamp : ∀ t, t.isLeapSecond = false → db.literal (.timestamp t) = moment t
  days : ∀ d e, db.compare .gtEq (day d) (day e) = some (decide (e ≤ d))
  moments : ∀ t u, t.isLeapSecond = false → u.isLeapSecond = false →
    db.compare .gtEq (moment t) (moment u) = some (decide (u ≤ t))

namespace Interpretation

theorem compare_gtEq_of_order {a b : Cell} {m n : Int} (order : a.order? b = some (Ord.compare m n)) :
    cells.compare .gtEq a b = some (decide (n ≤ m)) := by
  have holds : (Ord.compare m n != .lt) = decide (n ≤ m) := by
    rw [Bool.eq_iff_iff, bne_iff_ne, ne_eq, Int.compare_eq_lt, Int.not_lt, decide_eq_true_eq]
  rw [← holds]
  show Cell.truth (Cell.ofTruth ((a.order? b).map Frame.Comparison.gtEq.holds)) = _
  rw [order]
  rfl

/-- Dates are counted in days, and instants in nanoseconds. -/
theorem cells_chronological :
    cells.Chronological (fun d => .date d.dayNumber) fun t => .dateTime t.nanoseconds Instant.billion where
  date _ := rfl
  timestamp _ _ := rfl
  days d e := by
    have order : (Cell.date d.dayNumber).order? (.date e.dayNumber) = some (Ord.compare d.dayNumber e.dayNumber) := rfl
    rw [compare_gtEq_of_order order]
    simp only [Date.dayNumber_le_iff]
  moments t u t_plain u_plain := by
    have order : (Cell.dateTime t.nanoseconds Instant.billion).order? (.dateTime u.nanoseconds Instant.billion) =
      some (Ord.compare t.nanoseconds u.nanoseconds) := rfl
    rw [compare_gtEq_of_order order]
    simp only [Instant.le_iff_nanoseconds u_plain t_plain]

variable {db : Interpretation V} {ofDay : Date → V} {ofMoment : Instant → V} {row : RowView V} {name : String}

theorem Chronological.holds_since_day (times : db.Chronological ofDay ofMoment) {d cell : Date}
    (isCell : row.cell name = ofDay cell) :
    ((Expr.column name).gtEq (.literal (.date d))).Holds db row ↔ d ≤ cell := by
  rw [Expr.gtEq, Expr.holds_binary, isCell, times.date, times.days]
  simp

theorem Chronological.holds_since_moment (times : db.Chronological ofDay ofMoment) {t cell : Instant}
    (plain : t.isLeapSecond = false) (cell_plain : cell.isLeapSecond = false) (isCell : row.cell name = ofMoment cell) :
    ((Expr.column name).gtEq (.literal (.timestamp t))).Holds db row ↔ t ≤ cell := by
  rw [Expr.gtEq, Expr.holds_binary, isCell, times.timestamp t plain, times.moments cell t cell_plain plain]
  simp

end Interpretation

/-! ### Texts -/

namespace Partition

variable {p : Partition} {columns : List Column} {now start : Instant} {k : Nat} {unit : IntervalUnit} {e : Expr}
  {c : Column}

/-- What stands between the quotes of a bound. -/
def boundText (type : ColumnType) (start : Instant) : List Char :=
  if type = .date then start.date.text else start.text

def boundSql (type : ColumnType) (text : List Char) : List Char :=
  (if type = .date then "DATE '".toList else "TIMESTAMP '".toList) ++ text ++ ['\'']

def sinceSql (d : Dialect) (c : Column) (text : List Char) : List Char :=
  '(' :: d.ident c.name ++ ' ' :: ['>', '='] ++ ' ' :: boundSql c.type text ++ [')']

theorem sql_bound (d : Dialect) (type : ColumnType) (start : Instant) :
    (bound type start).sql d = boundSql type (boundText type start) := by
  unfold bound boundSql boundText
  split
  · exact Literal.sql_date d start.date
  · exact Literal.sql_timestamp d start

theorem sql_since (d : Dialect) (c : Column) (start : Instant) :
    ((Expr.column c.name).gtEq (.literal (bound c.type start))).sql d = sinceSql d c (boundText c.type start) := by
  unfold sinceSql
  rw [← sql_bound d]
  rfl

def boundShape (type : ColumnType) : List Char := if type = .date then dayShape else momentShape

/-- A bound in the shape of databases, whose year is not the year 0. -/
def StandardBound (type : ColumnType) (text : List Char) : Prop :=
  HasShape (boundShape type) text ∧ 1 ≤ field text 0 4

instance (type : ColumnType) (text : List Char) : Decidable (StandardBound type text) :=
  inferInstanceAs (Decidable (_ ∧ _))

theorem hasShape_boundText_iff (type : ColumnType) :
    HasShape (boundShape type) (boundText type start) ↔ 0 ≤ start.date.year ∧ start.date.year ≤ 9999 := by
  unfold boundShape boundText
  split
  · exact Date.hasShape_text_iff
  · exact Instant.hasShape_text_iff

theorem field_year_boundText (type : ColumnType) (inside : 0 ≤ start.date.year ∧ start.date.year ≤ 9999) :
    field (boundText type start) 0 4 = start.date.year.toNat := by
  unfold boundText
  split
  · have year := Date.field_year inside []
    rwa [List.append_nil] at year
  · exact Date.field_year inside (' ' :: start.timeText)

theorem standardBound_iff (type : ColumnType) (reached : start.date.year ≤ 9999) :
    StandardBound type (boundText type start) ↔ 1 ≤ start.date.year := by
  unfold StandardBound
  rw [hasShape_boundText_iff]
  constructor
  · rintro ⟨inside, year⟩
    rw [field_year_boundText type inside] at year
    omega
  · intro year
    have inside : 0 ≤ start.date.year ∧ start.date.year ≤ 9999 := ⟨by omega, reached⟩
    rw [field_year_boundText type inside]
    exact ⟨inside, by omega⟩

/-- A window that is accepted has a start, and its condition is that the column is not before it. -/
theorem window_of_predicateAt (kind : p.kind = .timeUnit k unit ∨ p.kind = .ingestionTime k unit)
    (built : p.predicateAt columns now = .ok e) : ∃ c start, findColumn columns p.column = some c ∧
      now.windowStart? k unit = some start ∧ e = (Expr.column c.name).gtEq (.literal (bound c.type start)) := by
  obtain ⟨c, found, condition⟩ := column_of_predicateAt built
  have windowed : window c k unit now = .ok e := by
    rw [← condition]
    unfold conditionOn
    rcases kind with kind | kind <;> rw [kind]
  obtain ⟨start, started, rfl⟩ := window_eq_ok.mp windowed
  exact ⟨c, start, found, started, rfl⟩

/-! ### Years of bounds -/

/-- In the years 1 to 9999 the bound of an accepted window has a year of four digits and no sign exactly if
the window starts in the year 1 or later. A window is refused only if the calendar in use has no start for
it, so one that starts in the year 0 or before has a bound that is no date to databases. -/
theorem standard_bound_iff (inYears : 1 ≤ now.date.year ∧ now.date.year ≤ 9999)
    (kind : p.kind = .timeUnit k unit ∨ p.kind = .ingestionTime k unit) :
    (∀ e, p.predicateAt columns now = .ok e → ∃ c start, findColumn columns p.column = some c ∧
      now.windowStart? k unit = some start ∧ start.date.year ≤ 9999 ∧
      (∀ d : Dialect, e.sql d = sinceSql d c (boundText c.type start)) ∧
      (StandardBound c.type (boundText c.type start) ↔ 1 ≤ start.date.year)) ∧
    (1 ≤ k → (∃ c ∈ columns, c.name = p.column) →
      (p.predicateAt columns now = .error (.windowOutOfRange k unit) ↔ now.windowStart? k unit = none)) ∧
    (now.isLeapSecond = false → k < twoTo 32 →
      (now.windowStart? k unit = none ↔ (now.back k unit).date.year < Date.earliestYear)) := by
  refine ⟨fun e built => ?_, fun pos known => ?_, fun plain fits => ?_⟩
  · obtain ⟨c, start, found, started, rfl⟩ := window_of_predicateAt kind built
    have before := (Instant.startsBefore_of_windowStart? started).date_le
    have reached : start.date.year ≤ 9999 := by
      rcases Date.le_iff.mp before with year | ⟨year, -⟩ <;> omega
    exact ⟨c, start, found, started, reached, fun d => sql_since d c start, standardBound_iff c.type reached⟩
  · obtain ⟨c, found⟩ := exists_findColumn.mpr known
    rw [predicateAt_of_window kind pos found, window_eq_error]
    exact and_iff_left rfl
  · have inUse : now.date.InCalendar := by
      unfold Date.InCalendar Date.earliestYear Date.latestYear
      omega
    rw [Instant.windowStart?_eq inUse plain fits, ← Date.lt_earliest_iff]
    split <;> simp [*]

/-- The year 1 is reached by as many years as there are before the year of an instant. -/
theorem year_one_standard :
    let columns : List Column := [⟨"at", .timestamp⟩]
    let years : Partition := ⟨"at", .timeUnit 2023 .year⟩
    ∃ date noon e start, Date.ofYmd? 2024 3 31 = some date ∧ Instant.ofHms? date 12 0 0 0 = some noon ∧
      years.predicateAt columns noon = .ok e ∧ noon.windowStart? 2023 .year = some start ∧
      e.sql .postgres = "(\"at\" >= TIMESTAMP '0001-03-31 12:00:00')".toList ∧
      StandardBound .timestamp (boundText .timestamp start) := by
  intro columns years
  obtain ⟨date, noon, e, start, isDate, isNoon, built, started, year, inYears, written⟩ :
      ∃ date noon e start, Date.ofYmd? 2024 3 31 = some date ∧ Instant.ofHms? date 12 0 0 0 = some noon ∧
        years.predicateAt columns noon = .ok e ∧ noon.windowStart? 2023 .year = some start ∧ start.date.year = 1 ∧
        (1 ≤ noon.date.year ∧ noon.date.year ≤ 9999) ∧
        e.sql .postgres = "(\"at\" >= TIMESTAMP '0001-03-31 12:00:00')".toList :=
    ⟨_, _, _, _, rfl, rfl, rfl, rfl, rfl, by decide, by decide⟩
  obtain ⟨accepted, -⟩ := @standard_bound_iff years columns _ _ _ inYears (.inl rfl)
  obtain ⟨c, start', found, started', -, -, standard⟩ := accepted e built
  obtain rfl := Option.some.inj found
  obtain rfl := Option.some.inj (started.symm.trans started')
  exact ⟨date, noon, e, start, isDate, isNoon, built, started, written, standard.mpr year.ge⟩

/-- A window that starts in a year before the year 0 is accepted, and its bound has a sign. -/
theorem three_thousand_years_signed :
    let columns : List Column := [⟨"at", .timestamp⟩]
    let years : Partition := ⟨"at", .timeUnit 3000 .year⟩
    ∃ date noon e, Date.ofYmd? 2024 3 31 = some date ∧ Instant.ofHms? date 12 0 0 0 = some noon ∧
      years.predicateAt columns noon = .ok e ∧
      e.sql .postgres = "(\"at\" >= TIMESTAMP '-0976-03-31 12:00:00')".toList ∧
      ¬ StandardBound .timestamp "-0976-03-31 12:00:00".toList :=
  ⟨_, _, _, rfl, rfl, rfl, by decide, by decide⟩

/-! ### Rows of bounds -/

/-- A window's bound, where its year has four digits, is written in ten or nineteen places. Read back it is
the day of the start, or a second that the start lies in. Compared with that, every cell that is not before
the start is taken, and of the others none of an earlier day, or none that is a second or more before it. -/
theorem bound_keeps_window (plain : now.isLeapSecond = false)
    (kind : p.kind = .timeUnit k unit ∨ p.kind = .ingestionTime k unit) (pos : 1 ≤ k)
    (found : findColumn columns p.column = some c) (started : now.windowStart? k unit = some start)
    (inside : 0 ≤ start.date.year ∧ start.date.year ≤ 9999) :
    ∃ e text, p.predicateAt columns now = .ok e ∧ (∀ d : Dialect, e.sql d = sinceSql d c text) ∧ '\'' ∉ text ∧
      HasShape (boundShape c.type) text ∧
      (c.type = .date → text.length = 10 ∧ Date.ofFields? text = some start.date ∧
        ∀ {V : Type} (db : Interpretation V) (ofDay : Date → V) (ofMoment : Instant → V),
          db.Chronological ofDay ofMoment → ∀ (row : RowView V) (cell : Date), row.cell c.name = ofDay cell →
            (((Expr.column c.name).gtEq (.literal (.date start.date))).Holds db row ↔ start.date ≤ cell)) ∧
      (c.type ≠ .date → text.length = 19 ∧ ∃ shown, Instant.ofFields? text = some shown ∧
        shown ≤ start ∧ start < shown.next ∧
        ∀ {V : Type} (db : Interpretation V) (ofDay : Date → V) (ofMoment : Instant → V),
          db.Chronological ofDay ofMoment → ∀ (row : RowView V) (cell : Instant), cell.isLeapSecond = false →
            row.cell c.name = ofMoment cell →
              let since := (Expr.column c.name).gtEq (.literal (.timestamp shown))
              (start ≤ cell → since.Holds db row) ∧ (since.Holds db row → start < cell.next)) := by
  have start_plain := (Instant.startsBefore_of_windowStart? started).plain plain
  have shape := (hasShape_boundText_iff c.type).mpr inside
  have length := shape.length_eq
  refine ⟨_, boundText c.type start, ?_, fun d => sql_since d c start, ?_, shape, fun day => ?_, fun other => ?_⟩
  · rw [predicateAt_of_window kind pos found]
    exact window_eq_ok.mpr ⟨start, started, rfl⟩
  · unfold boundText
    split
    · exact Date.quote_not_mem_text _
    · exact Instant.quote_not_mem_text _
  · have text : boundText c.type start = start.date.text := if_pos day
    rw [boundShape, if_pos day, text] at length
    rw [text]
    have read := Date.ofFields?_text inside []
    rw [List.append_nil] at read
    exact ⟨length, read, fun db ofDay ofMoment times row cell isCell => times.holds_since_day isCell⟩
  · -- what is read back is the start of the second, and the cells in between are taken too
    have text : boundText c.type start = start.text := if_neg other
    rw [boundShape, if_neg other, text] at length
    rw [text]
    have begun := Instant.floor_le start_plain
    have ended := Instant.lt_next_floor start_plain
    refine ⟨length, start.floor, Instant.ofFields?_text start_plain inside, begun, ended, ?_⟩
    intro V db ofDay ofMoment times row cell cell_plain isCell since
    have taken : since.Holds db row ↔ start.floor ≤ cell := times.holds_since_moment start.plain_floor cell_plain isCell
    rw [taken]
    exact ⟨begun.trans, fun late => ended.trans_le (Instant.next_le_next start.plain_floor cell_plain late)⟩

/-- A window that starts a quarter into a second takes the cell of its start, and not that of a second
before it. -/
theorem quarter_second_kept :
    let columns : List Column := [⟨"at", .timestamp⟩]
    let month : Partition := ⟨"at", .timeUnit 1 .month⟩
    let row (cell : Instant) := oneCell "at" (.dateTime cell.nanoseconds Instant.billion)
    ∃ date now start before e text, Date.ofYmd? 2024 3 31 = some date ∧
      Instant.ofHms? date 12 0 0 250000000 = some now ∧ now.windowStart? 1 .month = some start ∧ before.next = start ∧
      month.predicateAt columns now = .ok e ∧ e.sql .bigQuery = sinceSql .bigQuery ⟨"at", .timestamp⟩ text ∧
      text.length = 19 ∧ ∃ shown, Instant.ofFields? text = some shown ∧ shown ≤ start ∧
        ((Expr.column "at").gtEq (.literal (.timestamp shown))).Holds .cells (row start) ∧
        ¬ ((Expr.column "at").gtEq (.literal (.timestamp shown))).Holds .cells (row before) := by
  intro columns month row
  obtain ⟨date, now, start, before, isDate, isNow, started, earlier, inside, plain⟩ :
      ∃ date now start before, Date.ofYmd? 2024 3 31 = some date ∧ Instant.ofHms? date 12 0 0 250000000 = some now ∧
        now.windowStart? 1 .month = some start ∧ Instant.next before = start ∧
        (0 ≤ start.date.year ∧ start.date.year ≤ 9999) ∧
        now.isLeapSecond = false ∧ start.isLeapSecond = false ∧ before.isLeapSecond = false :=
    ⟨_, _, _, ⟨_, 43199, 250000000, by decide, by decide⟩, rfl, rfl, rfl, rfl, by decide, by decide⟩
  obtain ⟨e, text, built, written, -, -, -, moments⟩ :=
    @bound_keeps_window month columns now start 1 .month ⟨"at", .timestamp⟩ plain.1 (.inl rfl) (Nat.le_refl 1) rfl
      started inside
  obtain ⟨length, shown, read, begun, -, taken⟩ := moments (by decide)
  have taken (cell : Instant) (cell_plain : cell.isLeapSecond = false) :=
    taken .cells _ _ Interpretation.cells_chronological (row cell) cell cell_plain rfl
  refine ⟨date, now, start, before, e, text, isDate, isNow, started, earlier, built, written .bigQuery, length, shown,
    read, begun, (taken start plain.2.1).1 le_rfl, fun late => ?_⟩
  have after := (taken before plain.2.2).2 late
  rw [earlier] at after
  exact lt_irrefl start after

end Partition

end Profiling
