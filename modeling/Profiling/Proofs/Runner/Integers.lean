import Mathlib.Tactic.NormNum
import Profiling.Proofs.Partition.Predicate
import Profiling.Proofs.Runner.Selection
import Profiling.Proofs.Sql.Exact
import Profiling.Proofs.Sql.Numerals

/-!
# Integers in conditions

An integer of a filter or a partition that fits 64 bits with a sign is written with its own digits, so that
conditions compare with it. One that needs all 64 bits becomes the nearest float first.
-/

namespace Profiling

open Profiling.Frame (Truth)

variable {V : Type} {db : Interpretation V} {n : Int} {v : V}

/-! ### Literals -/

namespace Literal

theorem sql_ofJson_signed (low : -twoTo 63 ≤ n) (high : n < twoTo 63) (d : Dialect) :
    (ofJson (.int n)).sql d = intText n := by
  have signed : ofJson (.int n) = int n := if_pos ⟨low, high⟩
  rw [signed]
  rfl

theorem sql_ofJson_large (large : twoTo 63 ≤ n) (d : Dialect) :
    (ofJson (.int n)).sql d = floatText (.ofInt n) := by
  have past : ofJson (.int n) = float (.ofInt n) := if_neg fun signed => absurd signed.2 (not_lt.mpr large)
  rw [past]
  rfl

theorem numeralValue?_string (d : Dialect) (s : String) : numeralValue? ((string s).sql d) = none := by
  cases d <;> rfl

end Literal

/-! ### Comparisons -/

structure Interpretation.ReadsNumerals (db : Interpretation V) (number : ℚ → V) : Prop where
  literal : ∀ (d : Dialect) l q, numeralValue? (l.sql d) = some q → db.literal l = number q

def FilterOp.comparison? : FilterOp → Option BinaryOp
  | eq => some .eq
  | ne => some .notEq
  | gt => some .gt
  | ge => some .gtEq
  | lt => some .lt
  | le => some .ltEq
  | isIn | notIn | like | isNull | isNotNull => none

structure Interpretation.ComparesWith (db : Interpretation V) (n : Int) (v : V) : Prop where
  scalar : ∀ row column op comparison, op.comparison? = some comparison →
    (FilterCondition.mk column op (.int n)).expr.truth db row = db.compare comparison (row.cell column) v
  alone : ∀ row column,
    (FilterCondition.mk column .isIn (.int n)).expr.truth db row = db.compare .eq (row.cell column) v ∧
      (FilterCondition.mk column .notIn (.int n)).expr.truth db row = (db.compare .eq (row.cell column) v).not
  listed : ∀ row column before after,
    let among := db.oneOf (row.cell column) (before.map (fun w => db.literal (.ofJson w)) ++ v ::
      after.map fun w => db.literal (.ofJson w))
    let values := before ++ .int n :: after
    (FilterCondition.mk column .isIn (.arr values)).expr.truth db row = among ∧
      (FilterCondition.mk column .notIn (.arr values)).expr.truth db row = among.not ∧
      ∀ columns now, (∃ c ∈ columns, c.name = column) →
        ∃ e, (Partition.mk column (.columnValues values)).predicateAt columns now = .ok e ∧ e.truth db row = among

theorem Interpretation.comparesWith_literal (db : Interpretation V) (n : Int) :
    db.ComparesWith n (db.literal (.ofJson (.int n))) where
  scalar row column op comparison same := by
    rw [FilterCondition.truth_expr]
    cases op <;> cases same <;> rfl
  alone row column := by
    have one : db.oneOf (row.cell column) [db.literal (.ofJson (.int n))] =
      db.compare .eq (row.cell column) (db.literal (.ofJson (.int n))) := Truth.or_false _
    rw [FilterCondition.truth_expr, FilterCondition.truth_expr, ← one]
    exact ⟨rfl, rfl⟩
  listed row column before after := by
    intro among values
    have listed : db.oneOf (row.cell column) (values.map fun w => db.literal (.ofJson w)) = among := by
      rw [List.map_append]
      rfl
    have isIn : (FilterCondition.mk column .isIn (.arr values)).expr.truth db row = among := by
      rw [FilterCondition.truth_expr, ← listed]
      rfl
    refine ⟨isIn, ?_, fun columns now known => ⟨(FilterCondition.mk column .isIn (.arr values)).expr, ?_, isIn⟩⟩
    · rw [FilterCondition.truth_expr, ← listed]
      rfl
    · obtain ⟨c, found⟩ := exists_findColumn.mpr known
      have filled : ¬ (PartitionKind.columnValues values).Empty := List.append_ne_nil_of_right_ne_nil _ (by simp)
      have same := findColumn_name found
      rw [Partition.predicateAt_eq found, Partition.validate_eq_ok_iff.mpr filled, ← same]
      rfl

/-! ### Values of integers -/

/-- An interpretation that reads numerals, where it may make another thing of the other literals. -/
def Interpretation.readingNumerals (db : Interpretation RationalValue) : Interpretation RationalValue :=
  { db with literal := fun l => ((numeralValue? (l.sql .generic)).map .number).getD (db.literal l) }

theorem Interpretation.readingNumerals_reads (db : Interpretation RationalValue) :
    db.readingNumerals.ReadsNumerals .number where
  literal d l q read := by
    have written : numeralValue? (l.sql .generic) = some q := by
      cases l with
      | string s =>
        rw [Literal.numeralValue?_string] at read
        cases read
      | bool b => cases b <;> exact read
      | null | int | float | date | timestamp => exact read
    show ((numeralValue? (l.sql .generic)).map RationalValue.number).getD (db.literal l) = _
    rw [written]
    rfl

/-- An integer of 64 bits is written as a numeral. Below 2 ^ 63 it stands for the integer, and no other integer
is written so. From 2 ^ 63 on it stands for a multiple of a hundred next to the integer. Where databases read
numerals, conditions compare with the number that is written. -/
theorem integer_written {n : Int} (low : -twoTo 63 ≤ n) (high : n < twoTo 64) :
    ∃ written : Int, (∀ d : Dialect, numeralValue? ((Literal.ofJson (.int n)).sql d) = some ↑written) ∧
      (n < twoTo 63 → written = n ∧ ∀ m : Int, -twoTo 63 ≤ m → m < twoTo 64 → ∀ d : Dialect,
        (Literal.ofJson (.int m)).sql d = (Literal.ofJson (.int n)).sql d → m = n) ∧
      (twoTo 63 ≤ n → (100 : Int) ∣ written ∧ |written - n| ≤ twoTo 11) ∧
      ∀ {V : Type} (db : Interpretation V) (number : ℚ → V), db.ReadsNumerals number →
        db.ComparesWith n (number written) := by
  have compares {written : Int} (shown : ∀ d : Dialect, numeralValue? ((Literal.ofJson (.int n)).sql d) = some ↑written)
      {V : Type} (db : Interpretation V) (number : ℚ → V) (reads : db.ReadsNumerals number) :
      db.ComparesWith n (number written) := by
    rw [← reads.literal .generic _ _ (shown .generic)]
    exact db.comparesWith_literal n
  rcases lt_or_ge n (twoTo 63) with small | large
  · have shown (d : Dialect) : numeralValue? ((Literal.ofJson (.int n)).sql d) = some ↑n := by
      rw [Literal.sql_ofJson_signed low small]
      exact numeralValue?_intText n
    refine ⟨n, shown, fun _ => ⟨rfl, fun m least most d same => ?_⟩, fun large => absurd small (not_lt.mpr large),
      fun {V} => compares shown⟩
    rw [Literal.sql_ofJson_signed low small] at same
    rcases lt_or_ge m (twoTo 63) with signed | past
    · rw [Literal.sql_ofJson_signed least signed] at same
      exact intText_injective same
    · -- a float has a point, and an integer has none
      rw [Literal.sql_ofJson_large past] at same
      exact absurd same (Literal.floatText_ne_intText _ _)
  · obtain ⟨written, value, hundreds, near⟩ := numeralValue?_ofInt_large large high
    have shown (d : Dialect) : numeralValue? ((Literal.ofJson (.int n)).sql d) = some ↑written := by
      rw [Literal.sql_ofJson_large large]
      exact value
    exact ⟨written, shown, fun small => absurd small (not_lt.mpr large), fun _ => ⟨hundreds, near⟩,
      fun {V} => compares shown⟩

/-- The largest integer with a sign is told from the next one. -/
theorem largest_signed_compared :
    let reading := (Database.rational fun _ => ⟨[], [], by simp⟩).toInterpretation.readingNumerals
    let above := FilterCondition.mk "id" .gt (.int 9223372036854775807)
    let row (id : ℚ) : RowView RationalValue := ⟨fun _ => .number id, .null, .null⟩
    (∀ d : Dialect, numeralValue? ((Literal.ofJson above.value).sql d) = some 9223372036854775807) ∧
      above.expr.Holds reading (row 9223372036854775808) ∧ ¬ above.expr.Holds reading (row 9223372036854775807) := by
  intro reading above row
  obtain ⟨written, shown, signed, -, compares⟩ := @integer_written 9223372036854775807 (by decide) (by decide)
  obtain ⟨rfl, -⟩ := signed (by decide)
  have numerals := compares reading .number (Interpretation.readingNumerals_reads _)
  have larger (id : ℚ) : above.expr.Holds reading (row id) ↔ 9223372036854775807 < id := by
    unfold Expr.Holds
    rw [numerals.scalar (row id) "id" .gt .gt rfl]
    show some (decide (id > ((9223372036854775807 : Int) : ℚ))) = some true ↔ _
    simp
  refine ⟨fun d => (shown d).trans (by norm_num), (larger _).mpr (by norm_num), fun holds => ?_⟩
  exact absurd ((larger _).mp holds) (by norm_num)

/-- Past the integers with a sign, two that follow each other are written alike, as a third. -/
theorem past_signed_merged :
    (∀ d : Dialect, (Literal.ofJson (.int 9223372036854775808)).sql d = "9223372036854776000.0".toList) ∧
      (∀ d : Dialect, (Literal.ofJson (.int 9223372036854775809)).sql d = "9223372036854776000.0".toList) ∧
      numeralValue? "9223372036854776000.0".toList = some 9223372036854776000 := by
  have digits : "9223372036854776000.0".toList = withZeros 9223372036854776 3 ++ ['.', '0'] := by decide
  refine ⟨fun d => ?_, fun d => ?_, ?_⟩
  · rw [Literal.sql_ofJson_large (by decide)]
    decide
  · rw [Literal.sql_ofJson_large (by decide)]
    decide
  · rw [digits, numeralValue?_withZeros]
    norm_num [tenTo]

end Profiling
