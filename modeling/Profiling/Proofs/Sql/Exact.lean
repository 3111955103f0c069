import Mathlib.Algebra.Order.Field.Rat
import Mathlib.Data.Rat.Cast.Defs
import Mathlib.Order.WithBot
import Profiling.Proofs.Sql.Relation

/-!
# Exact numbers

Databases that calculate with numbers and compare them without rounding, and one of them with the
rational numbers.
-/

namespace Profiling

/-- The number that a float stands for, unless it is infinite or not a number. -/
def floatNumber? (x : Float) : Option ℚ :=
  match x.toModel.unpack with
  | .infinity _ | .notANumber => none
  | .zero _ => some 0
  | .finite sign mantissa exponent _ =>
    some (sign.apply (mantissa * twoTo exponent.toNat) / twoTo (-exponent).toNat)

/-- A float above zero that is not above a hundred is a number. -/
theorem floatNumber?_of_percent {p : Float} (above : 0 < p) (below : p ≤ 100) :
    ∃ q, floatNumber? p = some q := by
  have low : (0 : Float).toModel.unpack.lt p.toModel.unpack = true :=
    of_decide_eq_true (show Float.lt 0 p = true from above)
  have high : p.toModel.unpack.le (100 : Float).toModel.unpack = true :=
    of_decide_eq_true (show Float.le p 100 = true from below)
  have zero : (0 : Float).toModel.unpack = .zero .positive := rfl
  have hundred : (100 : Float).toModel.unpack = .finite .positive 7036874417766400 (-46) (by decide) := rfl
  rw [zero] at low
  rw [hundred] at high
  unfold floatNumber?
  revert low high
  generalize p.toModel.unpack = unpacked
  intro low high
  cases unpacked with
  | notANumber => cases low
  | infinity sign =>
    cases sign with
    | positive => cases high
    | negative => cases low
  | zero sign => exact ⟨0, rfl⟩
  | finite sign mantissa exponent positive => exact ⟨_, rfl⟩

structure Database.Exact {V K : Type} [DivisionRing K] [LinearOrder K] (db : Database V K) : Prop where
  int : ∀ n : Int, db.literal (.int n) = db.number n
  float : ∀ x q, floatNumber? x = some q → db.literal (.float x) = db.number q
  multiply : ∀ x y, db.operation .multiply (db.number x) (db.number y) = db.number (x * y)
  ltEq : ∀ x y, db.compare .ltEq (db.number x) (db.number y) = some (decide (x ≤ y))
  precedes : ∀ x y, db.precedes (db.number x) (db.number y) = true ↔ x ≤ y

/-! ### Rational numbers -/

inductive RationalValue where
  | null
  | bool (b : Bool)
  | number (x : ℚ)
  /-- A value that can only be told from others. -/
  | other (v : Literal)
deriving DecidableEq

namespace RationalValue

/-- The value of a literal. A float that is not a number is null, as it is written. -/
def ofLiteral : Literal → RationalValue
  | .null => null
  | .bool b => bool b
  | .int n => number n
  | .float x => (floatNumber? x).elim null number
  | v => other v

def ofTruth : Frame.Truth → RationalValue
  | some b => bool b
  | none => null

def truth : RationalValue → Frame.Truth
  | bool b => some b
  | _ => none

def operation : BinaryOp → RationalValue → RationalValue → RationalValue
  | .eq, number x, number y => bool (x = y)
  | .notEq, number x, number y => bool (x ≠ y)
  | .lt, number x, number y => bool (x < y)
  | .ltEq, number x, number y => bool (x ≤ y)
  | .gt, number x, number y => bool (x > y)
  | .gtEq, number x, number y => bool (x ≥ y)
  | .plus, number x, number y => number (x + y)
  | .minus, number x, number y => number (x - y)
  | .multiply, number x, number y => number (x * y)
  | .divide, number x, number y => if y = 0 then null else number (x / y)
  | .eq, other v, other w => bool (v = w)
  | .notEq, other v, other w => bool (v ≠ w)
  | _, _, _ => null

/-- The place of a value in a sorted list: numbers stand behind all other values. -/
def rank : RationalValue → WithBot ℚ
  | number x => x
  | _ => ⊥

end RationalValue

def Database.rational (table : TableRef → Relation RationalValue ℚ) : Database RationalValue ℚ where
  literal := .ofLiteral
  operation := RationalValue.operation
  function _ _ := .null
  isNull v := v = .null
  truth := RationalValue.truth
  ofTruth := .ofTruth
  truth_ofTruth t := by cases t <;> rfl
  number := .number
  record _ := .bool true
  label _ := "column"
  precedes v w := v.rank ≤ w.rank
  precedes_trans vw wx := decide_eq_true ((of_decide_eq_true vw).trans (of_decide_eq_true wx))
  precedes_total v w := by
    rw [decide_eq_true_eq, decide_eq_true_eq]
    exact le_total _ _
  table
  leaves _ _ _ := true
  subquery _ := ⟨[], [], by simp⟩

theorem Database.rational_exact (table : TableRef → Relation RationalValue ℚ) : (rational table).Exact where
  int n := rfl
  float x q read := by
    show RationalValue.ofLiteral (.float x) = _
    rw [RationalValue.ofLiteral, read, Rat.cast_id]
    rfl
  multiply x y := rfl
  ltEq x y := rfl
  precedes x y := by
    show decide ((x : WithBot ℚ) ≤ y) = true ↔ x ≤ y
    rw [decide_eq_true_eq, WithBot.coe_le_coe]

end Profiling
