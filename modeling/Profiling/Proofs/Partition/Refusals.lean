import Profiling.Partition
import Profiling.Proofs.Results

/-!
# Partitions that are refused

A partition puts no condition on rows if the columns lack its own, if its bounds leave nothing
between them, or if its window would start before the calendar. Of several reasons the first in this
order is given.
-/

namespace Profiling

variable {columns : List Column} {name : String} {c : Column}

/-! ### The column of a name -/

theorem findColumn_name (found : findColumn columns name = some c) : c.name = name := by
  have matched := List.find?_some found
  simpa using matched

theorem findColumn_append (found : findColumn columns name = some c) (more : List Column) :
    findColumn (columns ++ more) name = some c := by
  unfold findColumn at found ⊢
  rw [List.find?_append, found, Option.some_or]

theorem findColumn_eq_none : findColumn columns name = none ↔ ∀ c ∈ columns, c.name ≠ name := by
  simp [findColumn]

theorem exists_findColumn : (∃ c, findColumn columns name = some c) ↔ ∃ c ∈ columns, c.name = name := by
  rw [← Option.isSome_iff_exists]
  simp [findColumn]

/-! ### Bounds -/

/-- Bounds that leave nothing between them. -/
def PartitionKind.Empty : PartitionKind → Prop
  | timeUnit interval _ | ingestionTime interval _ => interval = 0
  | integerRange start stop => stop < start
  | columnValues values => values = []

/-- A window that would start before the calendar does. -/
def PartitionKind.OutOfRange (kind : PartitionKind) (now : Instant) : Prop :=
  ∃ interval unit, (kind = timeUnit interval unit ∨ kind = ingestionTime interval unit) ∧
    now.windowStart? interval unit = none

namespace Partition

variable {p : Partition} {now : Instant} {cause : ConfigurationError}

theorem validate_eq_ok_iff : p.validate = .ok () ↔ ¬ p.kind.Empty := by
  unfold validate PartitionKind.Empty
  cases p.kind <;> simp

theorem validate_eq_error_iff : (∃ cause, p.validate = .error cause) ↔ p.kind.Empty := by
  constructor
  · rintro ⟨cause, invalid⟩
    refine Classical.byContradiction fun filled => ?_
    rw [validate_eq_ok_iff.mpr filled] at invalid
    cases invalid
  · intro empty
    cases valid : p.validate with
    | error cause => exact ⟨cause, rfl⟩
    | ok _ => exact absurd empty (validate_eq_ok_iff.mp valid)

/-- The condition on a column of a partition whose bounds are valid. -/
def conditionOn (p : Partition) (column : Column) (now : Instant) : Except ConfigurationError Expr :=
  match p.kind with
  | .timeUnit interval unit | .ingestionTime interval unit => window column interval unit now
  | .integerRange start stop => .ok (.between (.column column.name) (.int start) (.int stop))
  | .columnValues values =>
    .ok (.inList (.column column.name) (values.map fun v => .literal (.ofJson v)) false)

theorem predicateAt_eq (found : findColumn columns p.column = some c) :
    p.predicateAt columns now = p.validate.bind fun _ => p.conditionOn c now := by
  unfold predicateAt conditionOn
  rw [found]
  cases p.validate with
  | error cause => rfl
  | ok _ => cases p.kind <;> rfl

theorem predicateAt_of_missing (missing : ∀ c ∈ columns, c.name ≠ p.column) :
    p.predicateAt columns now = .error (.partitionColumnMissing p.column) := by
  unfold predicateAt
  rw [findColumn_eq_none.mpr missing]

theorem predicateAt_congr (p : Partition) {columns others : List Column}
    (same : findColumn columns p.column = findColumn others p.column) (now : Instant) :
    p.predicateAt columns now = p.predicateAt others now := by
  unfold predicateAt
  rw [same]

/-- A condition that is built is one on the partition's column. -/
theorem column_of_predicateAt {e : Expr} (built : p.predicateAt columns now = .ok e) :
    ∃ c, findColumn columns p.column = some c ∧ p.conditionOn c now = .ok e := by
  cases found : findColumn columns p.column with
  | none =>
    rw [predicateAt_of_missing (findColumn_eq_none.mp found)] at built
    cases built
  | some c =>
    rw [predicateAt_eq found] at built
    obtain ⟨_, -, built⟩ := ok_of_bind built
    exact ⟨c, rfl, built⟩

theorem window_eq_error {interval : Nat} {unit : IntervalUnit} : window c interval unit now = .error cause ↔
    now.windowStart? interval unit = none ∧ cause = .windowOutOfRange interval unit := by
  unfold window
  cases now.windowStart? interval unit <;> simp [eq_comm]

theorem conditionOn_eq_error : p.conditionOn c now = .error cause ↔
    ∃ interval unit, (p.kind = .timeUnit interval unit ∨ p.kind = .ingestionTime interval unit) ∧
      now.windowStart? interval unit = none ∧ cause = .windowOutOfRange interval unit := by
  unfold conditionOn
  cases p.kind with
  | timeUnit interval unit | ingestionTime interval unit =>
    simp only [window_eq_error, PartitionKind.timeUnit.injEq, PartitionKind.ingestionTime.injEq, reduceCtorEq,
      or_false, false_or]
    constructor
    · intro outside
      exact ⟨interval, unit, ⟨rfl, rfl⟩, outside⟩
    · rintro ⟨_, _, ⟨rfl, rfl⟩, outside⟩
      exact outside
  | integerRange start stop | columnValues values => simp

/-- Why a partition puts no condition on rows of some columns at an instant. -/
inductive Refuses (p : Partition) (columns : List Column) (now : Instant) : ConfigurationError → Prop where
  | column : (∀ c ∈ columns, c.name ≠ p.column) → p.Refuses columns now (.partitionColumnMissing p.column)
  | bounds {cause : ConfigurationError} : (∃ c ∈ columns, c.name = p.column) → p.validate = .error cause →
      p.Refuses columns now cause
  | window {interval : Nat} {unit : IntervalUnit} : (∃ c ∈ columns, c.name = p.column) → p.validate = .ok () →
      (p.kind = .timeUnit interval unit ∨ p.kind = .ingestionTime interval unit) →
      now.windowStart? interval unit = none → p.Refuses columns now (.windowOutOfRange interval unit)

theorem predicateAt_eq_error_iff : p.predicateAt columns now = .error cause ↔ p.Refuses columns now cause := by
  constructor
  · intro failed
    cases found : findColumn columns p.column with
    | none =>
      have missing := findColumn_eq_none.mp found
      rw [predicateAt_of_missing missing] at failed
      obtain rfl := Except.error.inj failed
      exact .column missing
    | some c =>
      have known := exists_findColumn.mp ⟨c, found⟩
      rw [predicateAt_eq found] at failed
      cases valid : p.validate with
      | error bounds =>
        rw [valid] at failed
        obtain rfl := Except.error.inj failed
        exact .bounds known valid
      | ok _ =>
        rw [valid] at failed
        obtain ⟨interval, unit, kind, outside, rfl⟩ := conditionOn_eq_error.mp failed
        exact .window known valid kind outside
  · intro refuses
    cases refuses with
    | column missing => exact predicateAt_of_missing missing
    | bounds known valid =>
      obtain ⟨c, found⟩ := exists_findColumn.mpr known
      rw [predicateAt_eq found, valid]
      rfl
    | window known valid kind outside =>
      obtain ⟨c, found⟩ := exists_findColumn.mpr known
      rw [predicateAt_eq found, valid]
      exact conditionOn_eq_error.mpr ⟨_, _, kind, outside, rfl⟩

/-- Whether a partition is refused, whatever is said of it. -/
theorem refuses_iff : (∃ cause, p.Refuses columns now cause) ↔
    (∀ c ∈ columns, c.name ≠ p.column) ∨
      (∃ c ∈ columns, c.name = p.column) ∧ (p.kind.Empty ∨ ¬ p.kind.Empty ∧ p.kind.OutOfRange now) := by
  constructor
  · rintro ⟨cause, refuses⟩
    cases refuses with
    | column missing => exact .inl missing
    | bounds known invalid => exact .inr ⟨known, .inl (validate_eq_error_iff.mp ⟨cause, invalid⟩)⟩
    | window known valid kind outside =>
      exact .inr ⟨known, .inr ⟨validate_eq_ok_iff.mp valid, _, _, kind, outside⟩⟩
  · rintro (missing | ⟨known, empty | ⟨filled, interval, unit, kind, outside⟩⟩)
    · exact ⟨_, .column missing⟩
    · obtain ⟨cause, invalid⟩ := validate_eq_error_iff.mpr empty
      exact ⟨cause, .bounds known invalid⟩
    · exact ⟨_, .window known (validate_eq_ok_iff.mpr filled) kind outside⟩

end Partition

end Profiling
