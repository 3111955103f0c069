import Profiling.Proofs.Results
import Profiling.Proofs.Sql.Meaning
import Profiling.Runner

/-!
# Which rows a fetch takes

The condition of a statement that a runner builds: the conditions of the filter, joined as the
filter says, and besides them the condition of the partition.
-/

namespace Profiling

open Profiling.Frame (Truth)

variable {V : Type} (db : Interpretation V) (row : RowView V)

def FilterCondition.truth (c : FilterCondition) : Truth :=
  let cell := row.cell c.column
  let value := db.literal (.ofJson c.value)
  let listed := match c.value with
    | .arr values => values.map fun v => db.literal (.ofJson v)
    | _ => [value]
  match c.op with
  | .eq => db.compare .eq cell value
  | .ne => db.compare .notEq cell value
  | .gt => db.compare .gt cell value
  | .ge => db.compare .gtEq cell value
  | .lt => db.compare .lt cell value
  | .le => db.compare .ltEq cell value
  | .isIn => db.oneOf cell listed
  | .notIn => (db.oneOf cell listed).not
  | .like => db.compare .like cell value
  | .isNull => some (db.isNull cell)
  | .isNotNull => some (!db.isNull cell)

/-- Whether a row meets a filter: no condition, or all of them, or one at least. -/
def Filter.Admits (f : Filter) : Prop :=
  f.conditions = [] ∨
    if f.anyOf then ∃ c ∈ f.conditions, c.truth db row = some true
    else ∀ c ∈ f.conditions, c.truth db row = some true

def QueryArgs.Admits (args : QueryArgs) : Prop := ∀ f, args.filter = some f → f.Admits db row

/-- Whether a row meets the condition of the partition, if the policy keeps to one. -/
def Runner.Admits (r : Runner) (policy : FetchPolicy) (now : Instant) : Prop :=
  policy.applyPartition = false ∨ r.partition = none ∨
    ∃ p e, r.partition = some p ∧ p.predicateAt (r.target policy.source).columns now = .ok e ∧ e.Holds db row

variable {db row}

/-! ### Filters -/

theorem FilterCondition.value_items (v : Json) :
    Expr.values db row (items v) = match v with
      | .arr values => values.map fun v => db.literal (.ofJson v)
      | _ => [db.literal (.ofJson v)] := by
  cases v <;> simp [items, Expr.values_eq_map, Expr.value]

theorem FilterCondition.truth_expr (c : FilterCondition) : c.expr.truth db row = c.truth db row := by
  unfold expr truth Expr.truth
  cases c.op <;>
    simp [Expr.eq, Expr.notEq, Expr.gt, Expr.gtEq, Expr.lt, Expr.ltEq, Expr.like, Expr.value,
      db.truth_ofTruth, value_items, Interpretation.compare]

theorem Filter.expr?_eq_none {f : Filter} : f.expr? = none ↔ f.conditions = [] := by
  unfold expr?
  split <;> simp_all

/-- The expression of a filter joins the truths of its conditions. -/
theorem Filter.truth_expr {f : Filter} {e : Expr} (h : f.expr? = some e) :
    e.truth db row =
      (if f.anyOf then Truth.any else Truth.all) (f.conditions.map (FilterCondition.truth db row)) := by
  unfold expr? at h
  split at h
  · cases h
  · next c cs shape =>
    obtain rfl := Option.some.inj h
    cases mode : f.anyOf with
    | true =>
      simp only [if_true, Expr.truth_foldl_or, FilterCondition.truth_expr, shape, List.map_cons]
    | false =>
      simp only [Bool.false_eq_true, if_false, Expr.truth_foldl_and, FilterCondition.truth_expr, shape,
        List.map_cons]

theorem Filter.holds_expr {f : Filter} {e : Expr} (h : f.expr? = some e) :
    e.Holds db row ↔ f.Admits db row := by
  have some : f.conditions ≠ [] := fun none => by simp [expr?_eq_none.mpr none] at h
  unfold Expr.Holds Admits
  rw [truth_expr h]
  cases f.anyOf with
  | true => simp [Truth.any_eq_true, some]
  | false => simp [Truth.all_eq_true, some]

theorem QueryArgs.admits_iff (args : QueryArgs) :
    args.Admits db row ↔ ∀ e, args.condition? = some e → e.Holds db row := by
  unfold Admits condition?
  cases args.filter with
  | none => simp
  | some f =>
    cases shape : f.expr? with
    | none => simp [shape, Filter.Admits, Filter.expr?_eq_none.mp shape]
    | some e => simp [shape, Filter.holds_expr shape]

/-! ### Statements -/

theorem QueryTarget.selection_select (target : QueryTarget) (entities : List Expr) :
    (target.select entities).selection = none := by
  cases target <;> rfl

namespace Runner

/-- What the partition adds to a statement. -/
theorem narrow_cases {r : Runner} {policy : FetchPolicy} {now : Instant} {q narrowed : Select}
    (h : r.narrow policy now q = .ok narrowed) :
    narrowed = q ∧ (policy.applyPartition = false ∨ r.partition = none) ∨
      ∃ p e, policy.applyPartition = true ∧ r.partition = some p ∧
        p.predicateAt (r.target policy.source).columns now = .ok e ∧ narrowed = q.filter e := by
  unfold narrow at h
  split at h
  · next p applies bound =>
    obtain ⟨e, predicate, same⟩ := ok_of_bind h
    exact .inr ⟨p, e, applies, bound, predicate, (Except.ok.inj same).symm⟩
  · next other =>
    refine .inl ⟨(Except.ok.inj h).symm, ?_⟩
    cases applies : policy.applyPartition with
    | false => exact .inl rfl
    | true =>
      cases bound : r.partition with
      | none => exact .inr rfl
      | some p => exact absurd bound (other p applies)

theorem selects_narrow {r : Runner} {policy : FetchPolicy} {now : Instant} {q narrowed : Select}
    (h : r.narrow policy now q = .ok narrowed) :
    narrowed.Selects db row ↔ q.Selects db row ∧ r.Admits db row policy now := by
  rcases narrow_cases h with ⟨rfl, none⟩ | ⟨p, e, applies, bound, predicate, rfl⟩
  · have admits : r.Admits db row policy now := none.imp_right .inl
    exact (and_iff_left admits).symm
  · rw [Select.selects_filter]
    simp [Admits, applies, bound, predicate]

/-- The statement of a fetch narrows the select with the condition of the filter, and has the
condition that comes of that. -/
theorem statement_selection {r : Runner} {policy : FetchPolicy} {entities : List Expr} {args : QueryArgs}
    {now : Instant} {q : Select} (h : r.statement policy entities args now = .ok q) :
    ∃ narrowed, r.narrow policy now
        (match args.condition? with
          | some e => ((r.target policy.source).select entities).filter e
          | none => (r.target policy.source).select entities) = .ok narrowed ∧
      q.selection = narrowed.selection := by
  obtain ⟨narrowed, found, same⟩ := ok_of_bind h
  refine ⟨narrowed, found, ?_⟩
  obtain rfl := Except.ok.inj same
  split <;> rfl

/-- A fetch takes the rows that meet its filter and, if it keeps to the partition, the condition of
that. No filter lets a row pass that does not meet it. -/
theorem statement_selects_iff {r : Runner} {policy : FetchPolicy} {entities : List Expr} {args : QueryArgs}
    {now : Instant} {q : Select} (h : r.statement policy entities args now = .ok q)
    (db : Interpretation V) (row : RowView V) :
    (q.Selects db row ↔ args.Admits db row ∧ r.Admits db row policy now) ∧
      ∀ p e, policy.applyPartition = true → r.partition = some p →
        p.predicateAt (r.target policy.source).columns now = .ok e → ¬e.Holds db row → ¬q.Selects db row := by
  have selects : q.Selects db row ↔ args.Admits db row ∧ r.Admits db row policy now := by
    obtain ⟨narrowed, found, same⟩ := statement_selection h
    -- The condition of the filter stands first and the partition is added to it as a whole.
    rw [Select.selects_congr same, selects_narrow found, QueryArgs.admits_iff]
    refine and_congr_left fun _ => ?_
    have bare : ((r.target policy.source).select entities).Selects db row :=
      Select.selects_of_none (QueryTarget.selection_select (r.target policy.source) entities)
    cases args.condition? with
    | none => simp [bare]
    | some e => simp [Select.selects_filter, bare]
  refine ⟨selects, fun p e applies bound predicate fails taken => fails ?_⟩
  obtain off | none | ⟨p', e', bound', predicate', holds⟩ := (selects.mp taken).2
  · rw [applies] at off
    contradiction
  · rw [bound] at none
    contradiction
  · obtain rfl := Option.some.inj (bound.symm.trans bound')
    obtain rfl := Except.ok.inj (predicate.symm.trans predicate')
    exact holds

def ofDays (first last : Int) : Runner where
  table := { name := "events", columns := [⟨"day", .integer⟩, ⟨"kind", .integer⟩] }
  partition := some ⟨"day", .integerRange first last⟩

def ofKinds (kind other : Int) : QueryArgs where
  filter := some ⟨[⟨"kind", .eq, .int kind⟩, ⟨"kind", .eq, .int other⟩], true⟩

def event (day kind : Int) : RowView Frame.Cell where
  cell name := if name = "day" then .int day else .int kind
  whole := .null
  random := .null

/-- One of two kinds is enough within the days, and neither is outside. -/
theorem kind_within_days :
    ∃ q, (ofDays 1 5).statement ⟨.sample, .all, true⟩ [] (ofKinds 1 2) (.ofSeconds 0 0 (by decide)) = .ok q ∧
      q.Selects .cells (event 3 2) ∧ ¬q.Selects .cells (event 9 1) := by
  obtain ⟨q, built⟩ : ∃ q, (ofDays 1 5).statement ⟨.sample, .all, true⟩ [] (ofKinds 1 2)
    (.ofSeconds 0 0 (by decide)) = .ok q := ⟨_, rfl⟩
  refine ⟨q, built, (statement_selects_iff built .cells (event 3 2)).1.mpr ⟨?_, ?_⟩, ?_⟩
  · rintro f ⟨⟩
    exact .inr ⟨_, List.mem_cons_of_mem _ List.mem_cons_self, by decide⟩
  · exact .inr (.inr ⟨_, _, rfl, rfl, by decide⟩)
  · exact (statement_selects_iff built .cells (event 9 1)).2 _ _ rfl rfl rfl (by decide)

end Runner

end Profiling
