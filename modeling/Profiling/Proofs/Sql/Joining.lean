import Profiling.Proofs.Sql.Meaning

/-!
# Joining without nesting

How expressions are bracketed when they are joined makes no difference to what they are joined to. The
conditions that are added to a statement come to the same expression in whatever groups they are joined
before, and that is true where all of them are.
-/

namespace Profiling

open Profiling.Frame (Truth)

variable {V : Type} {db : Interpretation V} {row : RowView V}

namespace Expr

theorem assoc_and (a b c : Expr) : (a.and b).and c = a.and (b.and c) := by
  show all ((a.conjuncts ++ b.conjuncts) ++ c.conjuncts) = all (a.conjuncts ++ (b.conjuncts ++ c.conjuncts))
  rw [List.append_assoc]

theorem assoc_or (a b c : Expr) : (a.or b).or c = a.or (b.or c) := by
  show any ((a.disjuncts ++ b.disjuncts) ++ c.disjuncts) = any (a.disjuncts ++ (b.disjuncts ++ c.disjuncts))
  rw [List.append_assoc]

/-! ### Conjunctions of lists -/

/-- What conditions are joined to one after the other. A condition on its own stays as it is. -/
def conjunction? : List Expr → Option Expr
  | [] => none
  | [e] => some e
  | es => some (all (es.flatMap conjuncts))

theorem flatMap_conjuncts_and (before behind : List Expr) (a b : Expr) :
    (before ++ a.and b :: behind).flatMap conjuncts = (before ++ a :: b :: behind).flatMap conjuncts := by
  have joined : (a.and b).conjuncts = a.conjuncts ++ b.conjuncts := rfl
  simp only [List.flatMap_append, List.flatMap_cons, joined, List.append_assoc]

/-- Two neighbours may be joined before the rest. -/
theorem conjunction?_and (before behind : List Expr) (a b : Expr) :
    conjunction? (before ++ a.and b :: behind) = conjunction? (before ++ a :: b :: behind) := by
  have same := congrArg (fun es => some (all es)) (flatMap_conjuncts_and before behind a b)
  -- Only two conditions on their own are not yet a conjunction on one side.
  match before, behind with
  | [], [] =>
    show some (a.and b) = some (all (a.conjuncts ++ (b.conjuncts ++ [])))
    rw [List.append_nil]
    rfl
  | [], _ :: _ => exact same
  | [_], _ => exact same
  | _ :: _ :: _, _ => exact same

/-- Conditions that are joined in some order of brackets. -/
inductive Grouping where
  | single (e : Expr)
  | joined (left right : Grouping)

namespace Grouping

def expr : Grouping → Expr
  | single e => e
  | joined left right => left.expr.and right.expr

def members : Grouping → List Expr
  | single e => [e]
  | joined left right => left.members ++ right.members

theorem conjunction?_expr (g : Grouping) (before behind : List Expr) :
    conjunction? (before ++ g.expr :: behind) = conjunction? (before ++ g.members ++ behind) := by
  induction g generalizing before behind with
  | single e => rw [members, List.append_assoc]; rfl
  | joined left right ihLeft ihRight =>
    have taken := ihRight (before ++ left.members) behind
    rw [List.append_assoc before] at taken
    rw [expr, conjunction?_and, ihLeft before (right.expr :: behind), List.append_assoc before, taken,
      members, List.append_assoc before, List.append_assoc]

theorem conjunction?_map_expr (groups : List Grouping) (before : List Expr) :
    conjunction? (before ++ groups.map expr) = conjunction? (before ++ groups.flatMap members) := by
  induction groups generalizing before with
  | nil => rfl
  | cons g groups ih =>
    rw [List.map_cons, conjunction?_expr, ih, List.flatMap_cons, List.append_assoc]

end Grouping

end Expr

namespace Select

variable {q : Select}

theorem selection_filter (q : Select) (p : Expr) (ps : List Expr) :
    Expr.conjunction? ((q.filter p).selection.toList ++ ps) = Expr.conjunction? (q.selection.toList ++ p :: ps) := by
  unfold filter
  cases q.selection with
  | none => rfl
  | some e => exact Expr.conjunction?_and [] ps e p

theorem selection_filters (q : Select) (ps : List Expr) :
    (ps.foldl filter q).selection = Expr.conjunction? (q.selection.toList ++ ps) := by
  induction ps generalizing q with
  | nil =>
    cases selection : q.selection with
    | none => exact selection
    | some e => exact selection
  | cons p ps ih => rw [List.foldl_cons, ih, selection_filter]

/-! ### Meaning -/

/-- The truth of a statement's condition on a row. A statement without one takes all rows. -/
def conditionTruth (db : Interpretation V) (row : RowView V) (q : Select) : Truth :=
  match q.selection with
  | some e => e.truth db row
  | none => some true

theorem conditionTruth_filter (q : Select) (p : Expr) :
    (q.filter p).conditionTruth db row = (q.conditionTruth db row).and (p.truth db row) := by
  unfold conditionTruth filter
  cases q.selection with
  | none => exact (Truth.true_and _).symm
  | some e => exact Expr.truth_and e p

theorem conditionTruth_filters (q : Select) (ps : List Expr) :
    (ps.foldl filter q).conditionTruth db row =
      (q.conditionTruth db row).and (.all (ps.map (Expr.truth db row))) := by
  induction ps generalizing q with
  | nil => exact (Truth.and_true _).symm
  | cons p ps ih =>
    rw [List.foldl_cons, ih, conditionTruth_filter, Truth.and_assoc]
    rfl

end Select

/-- Joining is associative and means what it says, and the condition of a statement is the conjunction
of all that were added to it, the same expression however they were joined before. -/
theorem joins_flatten (a b c : Expr) :
    (a.and b).and c = a.and (b.and c) ∧ (a.or b).or c = a.or (b.or c) ∧
    (∀ {V : Type} (db : Interpretation V) (row : RowView V),
      (a.and b).truth db row = (a.truth db row).and (b.truth db row) ∧
      (a.or b).truth db row = (a.truth db row).or (b.truth db row) ∧
      (Expr.all []).truth db row = some true ∧ (Expr.any []).truth db row = some false) ∧
    ∀ (q : Select) (groups : List Expr.Grouping),
      let joined := (groups.map Expr.Grouping.expr).foldl Select.filter q
      let members := groups.flatMap Expr.Grouping.members
      joined.selection = (members.foldl Select.filter q).selection ∧
      ∀ {V : Type} (db : Interpretation V) (row : RowView V), joined.conditionTruth db row =
        (q.conditionTruth db row).and (.all (members.map (Expr.truth db row))) := by
  refine ⟨a.assoc_and b c, a.assoc_or b c, ?_, ?_⟩
  · intro V db row
    exact ⟨Expr.truth_and a b, Expr.truth_or a b, Expr.truth_all [], Expr.truth_any []⟩
  · intro q groups joined members
    have same : joined.selection = (members.foldl Select.filter q).selection := by
      rw [Select.selection_filters, Select.selection_filters]
      exact Expr.Grouping.conjunction?_map_expr groups q.selection.toList
    refine ⟨same, ?_⟩
    intro V db row
    rw [← Select.conditionTruth_filters]
    unfold Select.conditionTruth
    rw [same]

end Profiling
