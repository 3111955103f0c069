import Profiling.Frame.Formula
import Profiling.Proofs.Sql.Parts

/-!
# The meaning of expressions

The value of an expression on a row, in the logic of three truth values. What SQL leaves to the
database, such as the operations on its values, is a parameter.
-/

namespace Profiling

namespace Frame.Truth

def all (ts : List Truth) : Truth := ts.foldr and (some true)

def any (ts : List Truth) : Truth := ts.foldr or (some false)

theorem and_eq_true {a b : Truth} : and a b = some true ↔ a = some true ∧ b = some true := by
  rcases a with _ | _ | _ <;> rcases b with _ | _ | _ <;> decide

theorem or_eq_true {a b : Truth} : or a b = some true ↔ a = some true ∨ b = some true := by
  rcases a with _ | _ | _ <;> rcases b with _ | _ | _ <;> decide

theorem and_true (a : Truth) : and a (some true) = a := by
  rcases a with _ | _ | _ <;> rfl

theorem true_and (a : Truth) : and (some true) a = a := by
  rcases a with _ | _ | _ <;> rfl

theorem or_false (a : Truth) : or a (some false) = a := by
  rcases a with _ | _ | _ <;> rfl

theorem false_or (a : Truth) : or (some false) a = a := by
  rcases a with _ | _ | _ <;> rfl

theorem and_assoc (a b c : Truth) : and (and a b) c = and a (and b c) := by
  rcases a with _ | _ | _ <;> rcases b with _ | _ | _ <;> rcases c with _ | _ | _ <;> rfl

theorem or_assoc (a b c : Truth) : or (or a b) c = or a (or b c) := by
  rcases a with _ | _ | _ <;> rcases b with _ | _ | _ <;> rcases c with _ | _ | _ <;> rfl

theorem all_append (ts us : List Truth) : all (ts ++ us) = and (all ts) (all us) := by
  induction ts with
  | nil => exact (true_and _).symm
  | cons t ts ih =>
    show and t (all (ts ++ us)) = and (and t (all ts)) (all us)
    rw [ih, and_assoc]

theorem any_append (ts us : List Truth) : any (ts ++ us) = or (any ts) (any us) := by
  induction ts with
  | nil => exact (false_or _).symm
  | cons t ts ih =>
    show or t (any (ts ++ us)) = or (or t (any ts)) (any us)
    rw [ih, or_assoc]

theorem all_eq_true {ts : List Truth} : all ts = some true ↔ ∀ t ∈ ts, t = some true := by
  induction ts with
  | nil => simp [all]
  | cons t ts ih =>
    rw [List.forall_mem_cons, ← ih]
    exact and_eq_true

theorem any_eq_true {ts : List Truth} : any ts = some true ↔ ∃ t ∈ ts, t = some true := by
  induction ts with
  | nil => simp [any]
  | cons t ts ih =>
    show or t (any ts) = some true ↔ _
    simp only [or_eq_true, ih, List.mem_cons, exists_eq_or_imp]

end Frame.Truth

open Profiling.Frame (Truth Cell)

/-- What a database makes of the parts of an expression: its values, which of them are null, and
how they stand for truth values. -/
structure Interpretation (V : Type) where
  literal : Literal → V
  operation : BinaryOp → V → V → V
  function : String → List V → V
  isNull : V → Bool
  truth : V → Truth
  ofTruth : Truth → V
  truth_ofTruth : ∀ t, truth (ofTruth t) = t

/-- The cells of in-memory frames as values, without functions. -/
def Interpretation.cells : Interpretation Cell where
  literal
    | .null => .null
    | .bool b => .bool b
    | .int n => .int n
    | .float x => .float x
    | .string s => .string s
    | .date d => .date d.dayNumber
    | .timestamp t => .dateTime (t.seconds * Instant.billion + t.nano % Instant.billion) Instant.billion
  operation
    | .eq, a, b => Cell.compareBy .eq a b
    | .notEq, a, b => Cell.compareBy .notEq a b
    | .lt, a, b => Cell.compareBy .lt a b
    | .ltEq, a, b => Cell.compareBy .ltEq a b
    | .gt, a, b => Cell.compareBy .gt a b
    | .gtEq, a, b => Cell.compareBy .gtEq a b
    | .plus, a, b => Cell.calculate .plus (.int 64) a b
    | .minus, a, b => Cell.calculate .minus (.int 64) a b
    | .multiply, a, b => Cell.calculate .multiply (.int 64) a b
    | .divide, a, b => Cell.calculate .divide (.int 64) a b
    | .modulo, a, b => Cell.calculate .modulo (.int 64) a b
    | .like, a, .string pattern => Cell.like pattern.toList a
    | .like, _, _ => .null
  function _ _ := .null
  isNull c := c == .null
  truth := Cell.truth
  ofTruth := Cell.ofTruth
  truth_ofTruth t := by cases t <;> rfl

structure RowView (V : Type) where
  cell : String → V
  whole : V
  random : V

variable {V : Type}

namespace Interpretation

def compare (db : Interpretation V) (op : BinaryOp) (a b : V) : Truth := db.truth (db.operation op a b)

def oneOf (db : Interpretation V) (a : V) (items : List V) : Truth := .any (items.map (db.compare .eq a))

end Interpretation

namespace Expr

mutual

def value (db : Interpretation V) (row : RowView V) : Expr → V
  | column name => row.cell name
  | wildcard => row.whole
  | literal v => db.literal v
  | random => row.random
  | call name args => db.function name (values db row args)
  | binary op a b => db.operation op (value db row a) (value db row b)
  | all terms => db.ofTruth (.all ((values db row terms).map db.truth))
  | any terms => db.ofTruth (.any ((values db row terms).map db.truth))
  | not e => db.ofTruth (db.truth (value db row e)).not
  | inList e items negated =>
    let among := db.oneOf (value db row e) (values db row items)
    db.ofTruth (if negated then among.not else among)
  | between e low high =>
    db.ofTruth ((db.compare .gtEq (value db row e) (value db row low)).and
      (db.compare .ltEq (value db row e) (value db row high)))
  | isNull e negated => db.ofTruth (some (db.isNull (value db row e) != negated))
  | named e _ => value db row e

def values (db : Interpretation V) (row : RowView V) : List Expr → List V
  | [] => []
  | e :: es => value db row e :: values db row es

end

variable {db : Interpretation V} {row : RowView V}

theorem values_eq_map (es : List Expr) : values db row es = es.map (value db row) := by
  induction es with
  | nil => rfl
  | cons e es ih => simp [values, ih]

def truth (db : Interpretation V) (row : RowView V) (e : Expr) : Truth := db.truth (e.value db row)

/-- Whether an expression is true on a row, and neither false nor unknown. -/
def Holds (db : Interpretation V) (row : RowView V) (e : Expr) : Prop := e.truth db row = some true

instance (e : Expr) : Decidable (e.Holds db row) := inferInstanceAs (Decidable (e.truth db row = some true))

theorem truth_all (terms : List Expr) :
    (all terms).truth db row = .all (terms.map (truth db row)) := by
  rw [truth, value, db.truth_ofTruth, values_eq_map, List.map_map]
  rfl

theorem truth_any (terms : List Expr) :
    (any terms).truth db row = .any (terms.map (truth db row)) := by
  rw [truth, value, db.truth_ofTruth, values_eq_map, List.map_map]
  rfl

/-! ### Joining -/

theorem truth_conjuncts (e : Expr) : Truth.all (e.conjuncts.map (truth db row)) = e.truth db row := by
  cases e with
  | all terms => exact (truth_all terms).symm
  | _ => exact Truth.and_true _

theorem truth_disjuncts (e : Expr) : Truth.any (e.disjuncts.map (truth db row)) = e.truth db row := by
  cases e with
  | any terms => exact (truth_any terms).symm
  | _ => exact Truth.or_false _

theorem truth_and (a b : Expr) : (a.and b).truth db row = (a.truth db row).and (b.truth db row) := by
  rw [and, truth_all, List.map_append, Truth.all_append, truth_conjuncts, truth_conjuncts]

theorem truth_or (a b : Expr) : (a.or b).truth db row = (a.truth db row).or (b.truth db row) := by
  rw [or, truth_any, List.map_append, Truth.any_append, truth_disjuncts, truth_disjuncts]

/-- Joined one after the other by AND, expressions are true together. -/
theorem truth_foldl_and (f : α → Expr) (items : List α) (e : Expr) :
    (items.foldl (fun e a => e.and (f a)) e).truth db row =
      .all (e.truth db row :: items.map fun a => (f a).truth db row) := by
  induction items generalizing e with
  | nil => exact (Truth.and_true _).symm
  | cons a items ih =>
    rw [List.foldl_cons, ih, truth_and]
    exact Truth.and_assoc _ _ _

/-- Joined one after the other by OR, expressions are true as soon as one of them is. -/
theorem truth_foldl_or (f : α → Expr) (items : List α) (e : Expr) :
    (items.foldl (fun e a => e.or (f a)) e).truth db row =
      .any (e.truth db row :: items.map fun a => (f a).truth db row) := by
  induction items generalizing e with
  | nil => exact (Truth.or_false _).symm
  | cons a items ih =>
    rw [List.foldl_cons, ih, truth_or]
    exact Truth.or_assoc _ _ _

end Expr

namespace Select

/-- Whether a statement takes a row: its condition is true there, if it has one. -/
def Selects (db : Interpretation V) (row : RowView V) (q : Select) : Prop :=
  ∀ e, q.selection = some e → e.Holds db row

variable {db : Interpretation V} {row : RowView V}

theorem selects_of_none {q : Select} (h : q.selection = none) : q.Selects db row := by
  intro e some
  rw [h] at some
  cases some

theorem selects_congr {p q : Select} (h : p.selection = q.selection) :
    p.Selects db row ↔ q.Selects db row := by
  rw [Selects, Selects, h]

/-- A condition that is added must hold besides those that are there. -/
theorem selects_filter (q : Select) (e : Expr) :
    (q.filter e).Selects db row ↔ q.Selects db row ∧ e.Holds db row := by
  cases selection : q.selection with
  | none => simp [Selects, filter, selection]
  | some first => simp [Selects, filter, selection, Expr.Holds, Expr.truth_and, Truth.and_eq_true]

end Select

end Profiling
