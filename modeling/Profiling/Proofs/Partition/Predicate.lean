import Profiling.Proofs.Partition.Refusals
import Profiling.Proofs.Sql.Meaning

/-!
# Which rows a partition takes

The condition of a partition reads its own column and nothing else. Where comparisons with a null are
unknown, it is true for the values in the window, in the range or among those listed, and never for
a null.
-/

namespace Profiling

open Profiling.Frame (Truth Cell)

variable {V : Type} {db : Interpretation V} {row : RowView V}

/-! ### Nulls -/

structure Interpretation.NullsUnknown (db : Interpretation V) : Prop where
  literal : db.isNull (db.literal .null) = true
  left : ∀ op a b, db.isNull a = true → db.compare op a b = none
  right : ∀ op a b, db.isNull b = true → db.compare op a b = none

namespace Interpretation

theorem NullsUnknown.not_null (strict : db.NullsUnknown) {op : BinaryOp} {a b : V}
    (known : db.compare op a b = some true) : db.isNull a = false ∧ db.isNull b = false := by
  constructor
  · refine eq_false_of_ne_true fun null => ?_
    rw [strict.left op a b null] at known
    cases known
  · refine eq_false_of_ne_true fun null => ?_
    rw [strict.right op a b null] at known
    cases known

theorem cells_nullsUnknown : Interpretation.cells.NullsUnknown where
  literal := rfl
  left op a b null := by
    obtain rfl : a = .null := beq_iff_eq.mp null
    cases op <;> cases b <;> rfl
  right op a b null := by
    obtain rfl : b = .null := beq_iff_eq.mp null
    cases op <;> cases a <;> rfl

end Interpretation

/-- An expression in which a column stands once, and no other name and no wildcard at all. -/
def Expr.ReadsOnly (e : Expr) (name : String) : Prop := e.identifiers = [name] ∧ ∀ x ∈ e.parts, x ≠ .wildcard

/-! ### Conditions of the kinds -/

namespace Expr

theorem holds_binary (op : BinaryOp) (name : String) (l : Literal) :
    (binary op (column name) (literal l)).Holds db row ↔ db.compare op (row.cell name) (db.literal l) = some true :=
  Iff.rfl

theorem holds_between (name : String) (low high : Literal) :
    (between (column name) (literal low) (literal high)).Holds db row ↔
      db.compare .gtEq (row.cell name) (db.literal low) = some true ∧
        db.compare .ltEq (row.cell name) (db.literal high) = some true := by
  rw [Holds, truth, value, db.truth_ofTruth, Truth.and_eq_true]
  rfl

theorem holds_inList (name : String) (items : List Literal) :
    (inList (column name) (items.map literal) false).Holds db row ↔
      ∃ l ∈ items, db.compare .eq (row.cell name) (db.literal l) = some true := by
  have listed : values db row (items.map literal) = items.map db.literal := by
    rw [values_eq_map, List.map_map]
    rfl
  rw [Holds, truth, value, db.truth_ofTruth, if_neg Bool.false_ne_true, listed, Interpretation.oneOf,
    List.map_map, Truth.any_eq_true]
  constructor
  · rintro ⟨t, member, same⟩
    obtain ⟨l, listed, rfl⟩ := List.mem_map.mp member
    exact ⟨l, listed, same⟩
  · rintro ⟨l, listed, same⟩
    exact ⟨_, List.mem_map.mpr ⟨l, listed, rfl⟩, same⟩

theorem readsOnly_binary (op : BinaryOp) (name : String) (l : Literal) :
    (binary op (column name) (literal l)).ReadsOnly name := by
  refine ⟨rfl, ?_⟩
  simp [parts]

theorem readsOnly_between (name : String) (low high : Literal) :
    (between (column name) (literal low) (literal high)).ReadsOnly name := by
  refine ⟨rfl, ?_⟩
  simp [parts]

theorem readsOnly_inList (name : String) (items : List Literal) (negated : Bool) :
    (inList (column name) (items.map literal) negated).ReadsOnly name := by
  have listed : partsOf (items.map literal) = items.map literal := by
    induction items with
    | nil => rfl
    | cons l items ih => exact congrArg (literal l :: ·) ih
  have unnamed : (items.map literal).filterMap ownName? = [] := by
    rw [List.filterMap_map]
    exact List.filterMap_eq_nil_iff.mpr fun _ _ => rfl
  constructor
  · rw [identifiers, parts, listed]
    exact congrArg (name :: ·) unnamed
  · rw [parts, listed]
    simp [parts]

end Expr

namespace Partition

/-- Whether the value of a cell lies in a partition. The first column of the name says whether a
window is one of dates. -/
def Takes (p : Partition) (db : Interpretation V) (columns : List Column) (now : Instant) (v : V) : Prop :=
  db.isNull v = false ∧ match p.kind with
    | .timeUnit interval unit | .ingestionTime interval unit =>
      ∃ c start, findColumn columns p.column = some c ∧ now.windowStart? interval unit = some start ∧
        db.compare .gtEq v (db.literal (if c.type = .date then .date start.date else .timestamp start)) = some true
    | .integerRange start stop =>
      db.compare .gtEq v (db.literal (.int start)) = some true ∧ db.compare .ltEq v (db.literal (.int stop)) = some true
    | .columnValues values =>
      ∃ listed ∈ values, Literal.ofJson listed ≠ .null ∧ db.compare .eq v (db.literal (.ofJson listed)) = some true

variable {p : Partition} {columns : List Column} {c : Column} {now : Instant} {e : Expr}

theorem window_eq_ok {interval : Nat} {unit : IntervalUnit} : window c interval unit now = .ok e ↔
    ∃ start, now.windowStart? interval unit = some start ∧
      e = .binary .gtEq (.column c.name) (.literal (bound c.type start)) := by
  unfold window
  cases now.windowStart? interval unit <;> simp [Expr.gtEq, eq_comm]

theorem readsOnly_conditionOn (built : p.conditionOn c now = .ok e) : e.ReadsOnly c.name := by
  unfold conditionOn at built
  split at built
  · obtain ⟨start, -, rfl⟩ := window_eq_ok.mp built
    exact Expr.readsOnly_binary _ _ _
  · obtain ⟨start, -, rfl⟩ := window_eq_ok.mp built
    exact Expr.readsOnly_binary _ _ _
  · obtain rfl := Except.ok.inj built
    exact Expr.readsOnly_between _ _ _
  · next values _ =>
    obtain rfl := Except.ok.inj built
    have reads := Expr.readsOnly_inList c.name (values.map .ofJson) false
    rw [List.map_map] at reads
    exact reads

/-- The condition on a column holds where the column's cell is one that the partition takes. -/
theorem holds_conditionOn (strict : db.NullsUnknown) (found : findColumn columns p.column = some c)
    (built : p.conditionOn c now = .ok e) : e.Holds db row ↔ p.Takes db columns now (row.cell p.column) := by
  have window {interval : Nat} {unit : IntervalUnit} (built : window c interval unit now = .ok e) :
      e.Holds db row ↔ db.isNull (row.cell p.column) = false ∧ ∃ c start,
        findColumn columns p.column = some c ∧ now.windowStart? interval unit = some start ∧
          db.compare .gtEq (row.cell p.column) (db.literal (bound c.type start)) = some true := by
    obtain ⟨start, starts, rfl⟩ := window_eq_ok.mp built
    rw [Expr.holds_binary, findColumn_name found]
    constructor
    · intro holds
      exact ⟨(strict.not_null holds).1, c, start, found, starts, holds⟩
    · rintro ⟨-, c', start', found', starts', holds⟩
      obtain rfl := Option.some.inj (found.symm.trans found')
      obtain rfl := Option.some.inj (starts.symm.trans starts')
      exact holds
  obtain ⟨name, kind⟩ := p
  unfold Takes
  cases kind with
  | timeUnit interval unit | ingestionTime interval unit => exact window built
  | integerRange start stop =>
    obtain rfl := Except.ok.inj built
    rw [Expr.int, Expr.int, Expr.holds_between, findColumn_name found]
    exact (and_iff_right_of_imp fun holds => (strict.not_null holds.1).1).symm
  | columnValues values =>
    obtain rfl := Except.ok.inj built
    have listed : values.map (fun v => Expr.literal (.ofJson v)) = (values.map .ofJson).map .literal :=
      (List.map_map).symm
    rw [listed, Expr.holds_inList, findColumn_name found]
    constructor
    · rintro ⟨l, member, same⟩
      obtain ⟨v, inList, rfl⟩ := List.mem_map.mp member
      refine ⟨(strict.not_null same).1, v, inList, fun null => ?_, same⟩
      have known := (strict.not_null same).2
      rw [null, strict.literal] at known
      cases known
    · rintro ⟨-, v, inList, -, same⟩
      exact ⟨_, List.mem_map.mpr ⟨v, inList, rfl⟩, same⟩

/-- A partition is refused for a column that is missing, first of all, or else for bounds with nothing
between them, or else for a window that starts too early. Otherwise its condition reads its own column
alone and is true for the values that lie in the partition. -/
theorem predicate_takes (p : Partition) (columns : List Column) (now : Instant) :
    ((∃ cause, p.predicateAt columns now = .error cause) ↔
      (∀ c ∈ columns, c.name ≠ p.column) ∨
        (∃ c ∈ columns, c.name = p.column) ∧ (p.kind.Empty ∨ ¬ p.kind.Empty ∧ p.kind.OutOfRange now)) ∧
    ((∀ c ∈ columns, c.name ≠ p.column) → p.predicateAt columns now = .error (.partitionColumnMissing p.column)) ∧
    ∀ e, p.predicateAt columns now = .ok e → e.ReadsOnly p.column ∧
      ∀ {V : Type} (db : Interpretation V) (row : RowView V), db.NullsUnknown →
        (e.Holds db row ↔ p.Takes db columns now (row.cell p.column)) := by
  refine ⟨?_, predicateAt_of_missing, fun e built => ?_⟩
  · rw [← refuses_iff]
    exact exists_congr fun _ => predicateAt_eq_error_iff
  · obtain ⟨c, found, condition⟩ := column_of_predicateAt built
    refine ⟨?_, fun db row strict => holds_conditionOn strict found condition⟩
    rw [← findColumn_name found]
    exact readsOnly_conditionOn condition

def oneCell (name : String) (cell : Cell) : RowView Cell where
  cell n := if n = name then cell else .null
  whole := .null
  random := .null

/-- The first of two columns of a name is one of dates, so a day is in the window from its first hour
on, though the window starts at noon. -/
theorem leap_day_taken :
    let columns : List Column := [⟨"day", .date⟩, ⟨"day", .timestamp⟩]
    let month : Partition := ⟨"day", .ingestionTime 1 .month⟩
    ∃ date noon e, Date.ofYmd? 2024 3 31 = some date ∧ Instant.ofHms? date 12 0 0 0 = some noon ∧
      month.predicateAt columns noon = .ok e ∧
      ∃ leapDay, Date.ofYmd? 2024 2 29 = some leapDay ∧
        e.Holds .cells (oneCell "day" (.date leapDay.dayNumber)) ∧
        ¬ e.Holds .cells (oneCell "day" (.date (leapDay.dayNumber - 1))) ∧
        ¬ e.Holds .cells (oneCell "day" .null) := by
  intro columns month
  obtain ⟨date, noon, start, e, isDate, isNoon, starts, built, first⟩ :
      ∃ date noon start e, Date.ofYmd? 2024 3 31 = some date ∧ Instant.ofHms? date 12 0 0 0 = some noon ∧
        noon.windowStart? 1 .month = some start ∧ month.predicateAt columns noon = .ok e ∧
        Date.ofYmd? 2024 2 29 = some start.date :=
    ⟨_, _, _, _, rfl, rfl, rfl, rfl, rfl⟩
  have day : start.date.dayNumber = 19782 := by
    rw [← Option.some.inj first]
    decide
  obtain ⟨-, -, specified⟩ := predicate_takes month columns noon
  have takes (cell : Cell) : e.Holds .cells (oneCell "day" cell) ↔ month.Takes .cells columns noon cell :=
    (specified e built).2 .cells (oneCell "day" cell) Interpretation.cells_nullsUnknown
  refine ⟨date, noon, e, isDate, isNoon, built, start.date, first, ?_, ?_, ?_⟩
  · refine (takes _).mpr ⟨rfl, _, start, rfl, starts, ?_⟩
    show Interpretation.cells.compare .gtEq (.date start.date.dayNumber) (.date start.date.dayNumber) = some true
    rw [day]
    rfl
  · intro holds
    obtain ⟨-, c, start', found, starts', known⟩ := (takes _).mp holds
    obtain rfl := Option.some.inj found
    obtain rfl := Option.some.inj (starts.symm.trans starts')
    replace known : Interpretation.cells.compare .gtEq (.date (start.date.dayNumber - 1))
      (.date start.date.dayNumber) = some true := known
    rw [day] at known
    exact absurd known (by decide)
  · intro holds
    obtain ⟨known, -⟩ := (takes _).mp holds
    cases known

end Partition

end Profiling
