import Profiling.Sql.Select

/-!
# Building statements

A statement is built in steps, each of which touches one part of it. What becomes of a part depends on
the steps of that part alone, so steps of different parts can be taken in any order. A sampling clause is
a step of the source: it samples the table that the statement reads then.
-/

namespace Profiling

/-- The item with a sampling clause in place of its own, if there is one and the item is a table. -/
def FromItem.resampled (item : FromItem) (clause : Option TableSample) : FromItem :=
  match item with
  | table ref own => table ref (clause.or own)
  | item => item

theorem FromItem.resampled_none (item : FromItem) : item.resampled none = item := by
  cases item <;> rfl

theorem FromItem.resampled_resampled (item : FromItem) (first later : Option TableSample) :
    (item.resampled first).resampled later = item.resampled (later.or first) := by
  cases item with
  | table ref own => exact congrArg (table ref) (Option.or_assoc).symm
  | _ => rfl

namespace Select

/-- The parts of a statement that steps touch. -/
inductive Part where
  | ctes
  | source
  | selection
  | groupBy
  | orderBy
  | limit
deriving DecidableEq

/-- Whether two statements are the same in a part. -/
def Part.Same : Part → Select → Select → Prop
  | ctes, p, q => p.ctes = q.ctes
  | source, p, q => p.source = q.source
  | selection, p, q => p.selection = q.selection
  | groupBy, p, q => p.groupBy = q.groupBy
  | orderBy, p, q => p.orderBy = q.orderBy
  | limit, p, q => p.limit = q.limit

inductive Step where
  | ctes (ctes : List Cte)
  | source (item : FromItem)
  | tableSample (clause : TableSample)
  | filter (p : Expr)
  | groupBy (es : List Expr)
  | orderBy (os : List OrderBy)
  | limit (n : Nat)

namespace Step

def part : Step → Part
  | ctes _ => .ctes
  | source _ | tableSample _ => .source
  | filter _ => .selection
  | groupBy _ => .groupBy
  | orderBy _ => .orderBy
  | limit _ => .limit

def apply (q : Select) : Step → Select
  | ctes cs => q.withCtes cs
  | source item => q.withSource item
  | tableSample clause => q.withTableSample clause
  | filter p => q.filter p
  | groupBy es => q.withGroupBy es
  | orderBy os => q.withOrderBy os
  | limit n => q.withLimit n

def clause? : Step → Option TableSample
  | tableSample clause => some clause
  | _ => none

end Step

def build (projection : List Expr) (steps : List Step) : Select :=
  steps.foldl Step.apply (ofProjection projection)

variable {p q : Select} {part : Part} {steps others : List Step}

theorem withTableSample_eq (q : Select) (clause : TableSample) :
    q.withTableSample clause = { q with source := q.source.map fun item => item.resampled (some clause) } := by
  obtain ⟨ctes, projection, source, selection, groupBy, orderBy, limit⟩ := q
  cases source with
  | none => rfl
  | some item => cases item <;> rfl

namespace Part.Same

theorem refl (part : Part) (q : Select) : part.Same q q := by
  cases part <;> rfl

theorem symm (same : part.Same p q) : part.Same q p := by
  cases part <;> exact Eq.symm same

theorem trans {r : Select} (first : part.Same p q) (second : part.Same q r) : part.Same p r := by
  cases part <;> exact Eq.trans first second

end Part.Same

/-! ### What a step touches -/

theorem projection_apply (q : Select) (step : Step) : (step.apply q).projection = q.projection := by
  cases step with
  | tableSample clause => rw [Step.apply, withTableSample_eq]
  | _ => rfl

/-- A step leaves the parts of other steps as they are. -/
theorem same_apply_of_ne (q : Select) {step : Step} (other : step.part ≠ part) : part.Same (step.apply q) q := by
  cases step with
  | tableSample clause =>
    rw [Step.apply, withTableSample_eq]
    cases part <;> first | rfl | exact absurd rfl other
  | _ => cases part <;> first | rfl | exact absurd rfl other

/-- What a step makes of its part depends on that part alone. -/
theorem same_apply_own (step : Step) (same : step.part.Same p q) : step.part.Same (step.apply p) (step.apply q) := by
  cases step with
  | ctes cs => exact congrArg (· ++ cs) same
  | source item => rfl
  | tableSample clause =>
    rw [Step.apply, Step.apply, withTableSample_eq, withTableSample_eq]
    exact congrArg (Option.map fun item => FromItem.resampled item (some clause)) same
  | filter e =>
    have selections : p.selection = q.selection := same
    show (p.filter e).selection = (q.filter e).selection
    unfold Select.filter
    rw [selections]
  | groupBy es => exact congrArg (· ++ es) same
  | orderBy os => exact congrArg (· ++ os) same
  | limit n => rfl

theorem same_apply (step : Step) (same : part.Same p q) : part.Same (step.apply p) (step.apply q) := by
  by_cases own : step.part = part
  · subst own
    exact same_apply_own step same
  · have left := same_apply_of_ne p own
    have right := same_apply_of_ne q own
    exact (left.trans same).trans right.symm

/-! ### What steps make of a part -/

theorem projection_foldl (q : Select) (steps : List Step) : (steps.foldl Step.apply q).projection = q.projection := by
  induction steps generalizing q with
  | nil => rfl
  | cons step steps ih => rw [List.foldl_cons, ih, projection_apply]

theorem same_foldl (steps : List Step) (same : part.Same p q) :
    part.Same (steps.foldl Step.apply p) (steps.foldl Step.apply q) := by
  induction steps generalizing p q with
  | nil => exact same
  | cons step steps ih => exact ih (same_apply step same)

/-- The steps of other parts can be left out. -/
theorem same_foldl_filter (part : Part) (q : Select) (steps : List Step) :
    part.Same (steps.foldl Step.apply q) ((steps.filter (·.part = part)).foldl Step.apply q) := by
  induction steps generalizing q with
  | nil => exact .refl part q
  | cons step steps ih =>
    by_cases own : step.part = part
    · rw [List.filter_cons_of_pos (by simpa using own)]
      exact ih (step.apply q)
    · rw [List.filter_cons_of_neg (by simpa using own)]
      exact (ih (step.apply q)).trans (same_foldl _ (same_apply_of_ne q own))

theorem eq_of_same (projection : p.projection = q.projection) (same : ∀ part : Part, part.Same p q) : p = q := by
  cases p
  cases q
  rw [Select.mk.injEq]
  exact ⟨same .ctes, projection, same .source, same .selection, same .groupBy, same .orderBy, same .limit⟩

theorem build_congr (projection : List Expr)
    (same : ∀ part, steps.filter (·.part = part) = others.filter (·.part = part)) :
    build projection steps = build projection others := by
  apply eq_of_same
  · exact (projection_foldl _ steps).trans (projection_foldl _ others).symm
  · intro part
    have left := same_foldl_filter part (ofProjection projection) steps
    have right := same_foldl_filter part (ofProjection projection) others
    rw [same part] at left
    exact left.trans right.symm

/-! ### The source -/

/-- Without a new source, the last clause samples the one that is there. -/
theorem source_foldl (q : Select) {steps : List Step} (kept : ∀ item, .source item ∉ steps) :
    (steps.foldl Step.apply q).source =
      q.source.map fun item => item.resampled (steps.filterMap Step.clause?).getLast? := by
  induction steps generalizing q with
  | nil =>
    show q.source = q.source.map fun item => item.resampled none
    simp only [FromItem.resampled_none, Option.map_id']
  | cons step steps ih =>
    have rest : ∀ item, .source item ∉ steps := fun item member => kept item (List.mem_cons_of_mem step member)
    rw [List.foldl_cons, ih (step.apply q) rest]
    cases step with
    | source item => exact absurd List.mem_cons_self (kept item)
    | tableSample clause =>
      have last : ((Step.tableSample clause :: steps).filterMap Step.clause?).getLast? =
          (steps.filterMap Step.clause?).getLast?.or (some clause) := by
        show (clause :: steps.filterMap Step.clause?).getLast? = _
        rw [List.getLast?_cons]
        cases (steps.filterMap Step.clause?).getLast? <;> rfl
      rw [last, Step.apply, withTableSample_eq]
      simp only [Option.map_map, Function.comp_def, FromItem.resampled_resampled]
    | _ => rfl

/-- Steps can be taken in any order that keeps those of each part in theirs. The source is the last one
that was given, sampled by the last clause behind it or else by its own, if it is a table. -/
theorem steps_commute (projection : List Expr) (steps : List Step) :
    (∀ others, (∀ part, steps.filter (·.part = part) = others.filter (·.part = part)) →
      build projection steps = build projection others ∧
      ∀ d, (build projection steps).toSql d = (build projection others).toSql d) ∧
    ((∀ item, .source item ∉ steps) → (build projection steps).source = none) ∧
    ∀ before item behind, steps = before ++ .source item :: behind → (∀ later, .source later ∉ behind) →
      (build projection steps).source = some (item.resampled (behind.filterMap Step.clause?).getLast?) := by
  refine ⟨?_, ?_, ?_⟩
  · intro others same
    have equal := build_congr projection same
    exact ⟨equal, fun d => congrArg (toSql d) equal⟩
  · intro none
    exact source_foldl (ofProjection projection) none
  · rintro before item behind rfl last
    unfold build
    rw [List.foldl_append, List.foldl_cons]
    exact source_foldl _ last

/-- A clause in front of the source is lost, and the last one behind it takes the place of its own. -/
theorem sampled_orders_commute :
    let orders := TableRef.mk (some "sales") "orders"
    let given := Step.source (.table orders (some (.systemPercent 20)))
    let steps := [.tableSample (.systemPercent 5), .filter (.column "paid"), given, .limit 9,
      .tableSample (.systemPercent 10), .filter (.column "open"), .limit 3]
    let others := [.limit 9, .limit 3, .tableSample (.systemPercent 5), given, .filter (.column "paid"),
      .tableSample (.systemPercent 10), .filter (.column "open")]
    (∀ part, steps.filter (·.part = part) = others.filter (·.part = part)) ∧
      build [] steps = build [] others ∧
      (build [] steps).source = some (.table orders (some (.systemPercent 10))) := by
  intro orders given steps others
  have same : ∀ part, steps.filter (·.part = part) = others.filter (·.part = part) := by
    intro part
    cases part <;> rfl
  obtain ⟨commute, -, source⟩ := steps_commute [] steps
  refine ⟨same, (commute others same).1, ?_⟩
  apply source [_, _] (.table orders (some (.systemPercent 20))) [_, _, _, _] rfl
  intro later
  simp

end Select

end Profiling
