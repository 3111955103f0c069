import Profiling.Proofs.Partition.Predicate
import Profiling.Proofs.Runner.Resolution
import Profiling.Proofs.Runner.Selection
import Profiling.Proofs.Sql.Lexeme
import Profiling.Proofs.Sql.Parts

/-!
# Lists in statements

A statement has a list without items exactly if a condition of its filter asks for one: a partition
without values is refused, and samples have no other lists.
-/

namespace Profiling

theorem Literal.sql_ne_nil (d : Dialect) (v : Literal) : v.sql d ≠ [] := by
  cases v with
  | null =>
    show "NULL".toList ≠ []
    decide
  | bool b =>
    cases b
    · show "FALSE".toList ≠ []
      decide
    · show "TRUE".toList ≠ []
      decide
  | int n => exact intText_ne_nil n
  | float x => exact Literal.floatText_ne_nil x
  | string s => cases d <;> exact List.cons_ne_nil _ _
  | date day => exact List.append_ne_nil_of_right_ne_nil _ (List.cons_ne_nil _ _)
  | timestamp t => exact List.append_ne_nil_of_right_ne_nil _ (List.cons_ne_nil _ _)

/-! ### Lists of expressions -/

namespace Expr

def ownItems? : Expr → Option (List Expr)
  | inList _ items _ => some items
  | _ => none

def lists (e : Expr) : List (List Expr) := e.parts.filterMap ownItems?

theorem lists_eq (e : Expr) : e.lists = e.ownItems?.toList ++ e.children.flatMap lists := by
  have inside : e.children.flatMap lists = (e.children.flatMap parts).filterMap ownItems? := List.filterMap_flatMap.symm
  rw [inside, lists, parts_eq, List.filterMap_cons]
  cases e.ownItems? <;> rfl

theorem lists_conjuncts (e : Expr) : e.conjuncts.flatMap lists = e.lists := by
  cases e with
  | all terms => exact (lists_eq (all terms)).symm
  | _ => exact List.append_nil _

theorem lists_disjuncts (e : Expr) : e.disjuncts.flatMap lists = e.lists := by
  cases e with
  | any terms => exact (lists_eq (any terms)).symm
  | _ => exact List.append_nil _

theorem lists_and (a b : Expr) : (a.and b).lists = a.lists ++ b.lists := by
  have joined : (a.and b).lists = (a.conjuncts ++ b.conjuncts).flatMap lists := lists_eq (a.and b)
  rw [joined, List.flatMap_append, lists_conjuncts, lists_conjuncts]

theorem lists_or (a b : Expr) : (a.or b).lists = a.lists ++ b.lists := by
  have joined : (a.or b).lists = (a.disjuncts ++ b.disjuncts).flatMap lists := lists_eq (a.or b)
  rw [joined, List.flatMap_append, lists_disjuncts, lists_disjuncts]

/-- Joined one after the other by AND or by OR, expressions keep their lists. -/
theorem lists_foldl {α : Type} (join : Expr → Expr → Expr) (keeps : ∀ a b, (join a b).lists = a.lists ++ b.lists)
    (f : α → Expr) (items : List α) (e : Expr) :
    (items.foldl (fun e a => join e (f a)) e).lists = e.lists ++ items.flatMap fun a => (f a).lists := by
  induction items generalizing e with
  | nil => exact (List.append_nil _).symm
  | cons a items ih => rw [List.foldl_cons, ih, keeps, List.append_assoc, List.flatMap_cons]

/-! ### Texts of lists -/

theorem commaSep_eq_nil {texts : List (List Char)} (filled : ∀ t ∈ texts, t ≠ []) :
    commaSep texts = [] ↔ texts = [] := by
  cases texts with
  | nil => exact iff_of_true rfl rfl
  | cons t texts =>
    have first : t ≠ [] := filled t List.mem_cons_self
    refine iff_of_false ?_ (List.cons_ne_nil _ _)
    unfold commaSep
    cases texts with
    | nil => rwa [List.intercalate_singleton]
    | cons t' texts =>
      rw [List.intercalate_cons_cons, List.append_assoc]
      exact List.append_ne_nil_of_left_ne_nil first _

theorem joinTerms_ne_nil {word empty : String} {texts : List (List Char)} (filled : ∀ t ∈ texts, t ≠ [])
    (named : empty.toList ≠ []) : joinTerms word empty texts ≠ [] := by
  unfold joinTerms
  split
  · exact named
  · exact filled _ List.mem_cons_self
  · exact List.cons_ne_nil _ _

theorem sql_ne_nil (d : Dialect) (e : Expr) : e.sql d ≠ [] := by
  induction e using Expr.induct with
  | column name => exact List.cons_ne_nil _ _
  | wildcard => exact List.cons_ne_nil _ _
  | literal value => exact value.sql_ne_nil d
  | random => cases d <;> decide
  | call name args => exact List.append_ne_nil_of_right_ne_nil _ (List.cons_ne_nil _ _)
  | binary => exact List.cons_ne_nil _ _
  | all terms ih =>
    show joinTerms " AND " "TRUE" (sqls d terms) ≠ []
    rw [sqls_eq_map]
    exact joinTerms_ne_nil (List.forall_mem_map.mpr ih) (by decide)
  | any terms ih =>
    show joinTerms " OR " "FALSE" (sqls d terms) ≠ []
    rw [sqls_eq_map]
    exact joinTerms_ne_nil (List.forall_mem_map.mpr ih) (by decide)
  | not e => exact List.append_ne_nil_of_right_ne_nil _ (List.cons_ne_nil _ _)
  | inList => exact List.cons_ne_nil _ _
  | between => exact List.cons_ne_nil _ _
  | isNull => exact List.cons_ne_nil _ _
  | named e name => exact List.append_ne_nil_of_right_ne_nil _ (List.cons_ne_nil _ _)

/-- Between the parentheses of a list there is a text exactly if there are items. -/
theorem commaSep_sqls_eq_nil (d : Dialect) (items : List Expr) : commaSep (sqls d items) = [] ↔ items = [] := by
  rw [sqls_eq_map, commaSep_eq_nil (List.forall_mem_map.mpr fun e _ => e.sql_ne_nil d), List.map_eq_nil_iff]

end Expr

/-! ### Lists of conditions -/

def FilterCondition.AsksEmptyList (c : FilterCondition) : Prop :=
  (c.op = .isIn ∨ c.op = .notIn) ∧ c.value = .arr []

theorem lists_map_literal (values : List Json) :
    (values.map fun v => Expr.literal (.ofJson v)).flatMap Expr.lists = [] := by
  rw [List.flatMap_map]
  exact List.flatMap_eq_nil_iff.mpr fun _ _ => rfl

theorem FilterCondition.items_eq_nil {v : Json} : items v = [] ↔ v = .arr [] := by
  cases v <;> simp [items]

theorem FilterCondition.lists_items (v : Json) : (items v).flatMap Expr.lists = [] := by
  cases v with
  | arr values => exact lists_map_literal values
  | _ => rfl

theorem FilterCondition.lists_expr (c : FilterCondition) :
    c.expr.lists = if c.op = .isIn ∨ c.op = .notIn then [items c.value] else [] := by
  have listed (negated : Bool) : (Expr.inList (.column c.column) (items c.value) negated).lists = [items c.value] := by
    have inside : (items c.value).flatMap Expr.lists = [] := lists_items c.value
    rw [Expr.lists_eq, Expr.children, List.flatMap_cons, inside]
    rfl
  unfold expr
  cases c.op with
  | isIn => exact listed false
  | notIn => exact listed true
  | _ => rfl

theorem FilterCondition.nil_mem_lists_expr {c : FilterCondition} : [] ∈ c.expr.lists ↔ c.AsksEmptyList := by
  rw [lists_expr, AsksEmptyList, ← items_eq_nil]
  split
  · next listed =>
    rw [List.mem_singleton, and_iff_right listed]
    exact eq_comm
  · next others => exact iff_of_false List.not_mem_nil fun asks => others asks.1

theorem Filter.lists_expr {f : Filter} {e : Expr} (some : f.expr? = some e) :
    e.lists = f.conditions.flatMap fun c => c.expr.lists := by
  unfold expr? at some
  split at some
  · cases some
  · next c cs shape =>
    obtain rfl := Option.some.inj some
    rw [shape, List.flatMap_cons]
    cases f.anyOf with
    | true => exact Expr.lists_foldl .or Expr.lists_or FilterCondition.expr cs c.expr
    | false => exact Expr.lists_foldl .and Expr.lists_and FilterCondition.expr cs c.expr

/-- Whether the filter has a condition that asks for one of no values. -/
def QueryArgs.AsksEmptyList (args : QueryArgs) : Prop :=
  ∃ f, args.filter = some f ∧ ∃ c ∈ f.conditions, c.AsksEmptyList

theorem QueryArgs.nil_mem_lists_condition {args : QueryArgs} :
    [] ∈ args.condition?.toList.flatMap Expr.lists ↔ args.AsksEmptyList := by
  unfold condition? AsksEmptyList
  cases args.filter with
  | none => simp
  | some f =>
    cases shape : f.expr? with
    | none => simp [shape, Filter.expr?_eq_none.mp shape]
    | some e => simp [shape, Filter.lists_expr shape, FilterCondition.nil_mem_lists_expr]

/-- The condition of a partition has a list only for its values, and then there is a value. -/
theorem Partition.nil_not_mem_lists {p : Partition} {columns : List Column} {now : Instant} {e : Expr}
    (built : p.predicateAt columns now = .ok e) : [] ∉ e.lists := by
  obtain ⟨c, found, condition⟩ := column_of_predicateAt built
  have filled : ¬ p.kind.Empty := fun empty => by
    obtain ⟨cause, invalid⟩ := validate_eq_error_iff.mpr empty
    rw [predicateAt_eq found, invalid] at built
    cases built
  obtain ⟨name, kind⟩ := p
  cases kind with
  | timeUnit interval unit | ingestionTime interval unit =>
    obtain ⟨start, -, rfl⟩ := window_eq_ok.mp condition
    exact List.not_mem_nil
  | integerRange start stop =>
    obtain rfl := Except.ok.inj condition
    exact List.not_mem_nil
  | columnValues values =>
    obtain rfl := Except.ok.inj condition
    have lists : (Expr.inList (.column c.name) (values.map fun v => .literal (.ofJson v)) false).lists =
        [values.map fun v => .literal (.ofJson v)] := by
      rw [Expr.lists_eq, Expr.children, List.flatMap_cons, lists_map_literal]
      rfl
    rw [lists, List.mem_singleton]
    intro none
    exact filled (List.map_eq_nil_iff.mp none.symm)

theorem Partition.nil_not_mem_lists_conditionOf {p : Option Partition} {columns : List Column} {now : Instant}
    {condition : Option Expr} (built : conditionOf p columns now = .ok condition) :
    [] ∉ condition.toList.flatMap Expr.lists := by
  cases p with
  | none =>
    obtain rfl := Except.ok.inj built
    exact List.not_mem_nil
  | some p =>
    obtain ⟨e, predicate, rfl⟩ := conditionOf_some built
    rw [Option.toList_some, List.flatMap_singleton]
    exact nil_not_mem_lists predicate

/-! ### Lists of selects -/

namespace Select

/-- The items of all list conditions in a select and in those that it is made of. -/
def lists (q : Select) : List (List Expr) := q.parts.flatMap fun p => p.ownExprs.flatMap Expr.lists

theorem lists_eq (q : Select) : q.lists = q.ownExprs.flatMap Expr.lists ++ q.ctes.flatMap fun c => c.query.lists := by
  rw [lists, parts_eq, List.flatMap_cons, List.flatMap_assoc]
  rfl

theorem lists_of_no_ctes {q : Select} (bare : q.ctes = []) : q.lists = q.ownExprs.flatMap Expr.lists := by
  rw [lists_eq, bare]
  exact List.append_nil _

theorem lists_filterBy (q : Select) (e : Option Expr) : (q.filterBy e).selection.toList.flatMap Expr.lists =
    q.selection.toList.flatMap Expr.lists ++ e.toList.flatMap Expr.lists := by
  cases e with
  | none => exact (List.append_nil _).symm
  | some e =>
    unfold filterBy filter
    cases q.selection with
    | none => rfl
    | some first =>
      rw [Option.toList_some, Option.toList_some, Option.toList_some, List.flatMap_singleton, List.flatMap_singleton,
        List.flatMap_singleton]
      exact Expr.lists_and first e

end Select

namespace QueryTarget

/-- The lists of a fetch are those of its arguments, of its filter, of the partition and of the sample. -/
theorem lists_fetch (target : QueryTarget) (entities : List Expr) (args : QueryArgs) (condition : Option Expr)
    (cardinality : Cardinality) : (target.fetch entities args condition cardinality).lists =
      entities.flatMap Expr.lists ++ (args.condition?.toList.flatMap Expr.lists ++ condition.toList.flatMap Expr.lists) ++
        args.groupBy.flatMap Expr.lists ++ (args.orderBy.map OrderBy.expr).flatMap Expr.lists ++
        (target.select entities).ctes.flatMap fun c => c.query.lists := by
  let narrowed := ((target.select entities).filterBy args.condition?).filterBy condition
  have selection : narrowed.selection.toList.flatMap Expr.lists =
      args.condition?.toList.flatMap Expr.lists ++ condition.toList.flatMap Expr.lists := by
    rw [Select.lists_filterBy, Select.lists_filterBy, target.selection_select]
    rfl
  have written : (target.fetch entities args condition cardinality).ownExprs =
      entities ++ narrowed.selection.toList ++ args.groupBy ++ args.orderBy.map OrderBy.expr := by
    have kept : narrowed.projection = entities ∧ narrowed.groupBy = [] ∧ narrowed.orderBy = [] := by
      have bare : (target.select entities).projection = entities ∧ (target.select entities).groupBy = [] ∧
          (target.select entities).orderBy = [] := by cases target <;> exact ⟨rfl, rfl, rfl⟩
      have filtered (q : Select) (e : Option Expr) : (q.filterBy e).projection = q.projection ∧
          (q.filterBy e).groupBy = q.groupBy ∧ (q.filterBy e).orderBy = q.orderBy := by
        cases e <;> exact ⟨rfl, rfl, rfl⟩
      simp only [narrowed, filtered, bare, and_self]
    obtain ⟨projection, groupBy, orderBy⟩ := kept
    have fetched : (target.fetch entities args condition cardinality).ownExprs =
        narrowed.projection ++ narrowed.selection.toList ++ (narrowed.groupBy ++ args.groupBy) ++
          (narrowed.orderBy ++ args.orderBy).map OrderBy.expr := by cases cardinality <;> rfl
    rw [fetched, projection, groupBy, orderBy, List.nil_append, List.nil_append]
  rw [Select.lists_eq, written, ctes_fetch, List.flatMap_append, List.flatMap_append, List.flatMap_append, selection]

end QueryTarget

namespace Sampler

/-- The lists of a sample are those of its partition. -/
theorem lists_source (s : Sampler) (config : SampleConfig) (column : Option Column) (condition : Option Expr) :
    ((s.source config column condition).ctes.flatMap fun c => c.query.lists) = condition.toList.flatMap Expr.lists := by
  have base (ordered : List OrderBy) (plain : (ordered.map OrderBy.expr).flatMap Expr.lists = []) :
      ((s.base column (s.tag? config) condition).withOrderBy ordered).ownExprs.flatMap Expr.lists =
        condition.toList.flatMap Expr.lists :=
    flatMap_ownExprs_base (fun _ => rfl) rfl rfl rfl s config column condition ordered plain
  cases config with
  | rows count =>
    have ordered : (Sampler.firstRows count (s.base column (s.tag? (.rows count)) condition)).lists =
        condition.toList.flatMap Expr.lists :=
      (Select.lists_of_no_ctes rfl).trans (base [⟨.column randomLabel, true⟩] rfl)
    exact (List.flatMap_singleton _ _).trans ordered
  | percentage percent =>
    unfold source
    cases tags : s.drawsTags (.percentage percent) with
    | true =>
      have within : (s.withinPercent percent).lists = [] := Select.lists_of_no_ctes rfl
      rw [sampleCtes_of_tags tags, List.flatMap_cons, List.flatMap_singleton, within, List.append_nil]
      exact (Select.lists_of_no_ctes rfl).trans (base [] rfl)
    | false =>
      rw [sampleCtes_of_no_tags tags, List.flatMap_singleton]
      exact (Select.lists_of_no_ctes rfl).trans (base [] rfl)

end Sampler

namespace Runner

variable {r : Runner} {policy : FetchPolicy} {entities : List Expr} {args : QueryArgs} {now : Instant} {q : Select}

/-- Where the expressions of the caller have no list without items, and the sample is one that a sampler built, a
statement has such a list, and an empty text in its parentheses, exactly if a condition of the filter asks for it. -/
theorem statement_lists_filled
    (sampled : ∀ source, r.sample = .sampled source →
      ∃ (s : Sampler) (column : Option String) (drawn : Instant), s.getSampleQuery column drawn = .ok source)
    (own : ∀ e ∈ entities ++ args.groupBy ++ args.orderBy.map OrderBy.expr, [] ∉ e.lists)
    (built : r.statement policy entities args now = .ok q) :
    ([] ∈ q.lists ↔ args.AsksEmptyList) ∧
      ∀ d : Dialect, (∃ items ∈ q.lists, Expr.commaSep (Expr.sqls d items) = []) ↔ args.AsksEmptyList := by
  have asks : [] ∈ q.lists ↔ args.AsksEmptyList := by
    rw [statement_eq] at built
    obtain ⟨condition, narrowed, rfl⟩ := ok_of_map built
    have partition := Partition.nil_not_mem_lists_conditionOf narrowed
    have sample : [] ∉ ((r.target policy.source).select entities).ctes.flatMap fun c => c.query.lists := by
      -- of the targets only a sample has selects of its own
      cases target : r.target policy.source with
      | table | customQuery => exact List.not_mem_nil
      | sample source =>
        obtain ⟨s, column, drawn, drawing⟩ := sampled source (sample_of_target target)
        obtain ⟨config, requested, condition, -, -, narrowed, rfl⟩ := Sampler.source_of_getSampleQuery drawing
        show [] ∉ (s.source config requested condition).ctes.flatMap fun c => c.query.lists
        rw [Sampler.lists_source]
        exact Partition.nil_not_mem_lists_conditionOf narrowed
    have given {es : List Expr} (mine : ∀ e ∈ es, e ∈ entities ++ args.groupBy ++ args.orderBy.map OrderBy.expr) :
        [] ∉ es.flatMap Expr.lists := by
      intro member
      obtain ⟨e, inside, list⟩ := List.mem_flatMap.mp member
      exact own e (mine e inside) list
    rw [QueryTarget.lists_fetch, ← QueryArgs.nil_mem_lists_condition]
    simp only [List.mem_append, given fun e member => List.mem_append_left _ (List.mem_append_left _ member),
      given fun e member => List.mem_append_left _ (List.mem_append_right _ member),
      given fun e member => List.mem_append_right _ member, partition, sample, or_false, false_or]
  refine ⟨asks, fun d => ?_⟩
  rw [← asks]
  constructor
  · rintro ⟨items, member, none⟩
    obtain rfl := (Expr.commaSep_sqls_eq_nil d items).mp none
    exact member
  · intro member
    exact ⟨[], member, rfl⟩

/-- A sample of two days, and a filter on two kinds. -/
theorem two_lists_filled :
    let table : Table := { name := "events", columns := [⟨"day", .integer⟩, ⟨"kind", .integer⟩] }
    let options : SamplerOptions :=
      { sampleConfig := some (.rows 10), partition := some ⟨"day", .columnValues [.int 1, .int 2]⟩ }
    let args : QueryArgs := { filter := some ⟨[⟨"kind", .notIn, .arr [.int 3, .int 4]⟩], false⟩ }
    let now := Instant.ofSeconds 0 0 (by decide)
    ∃ s source q, Sampler.create .postgres table options = .ok s ∧ s.getSampleQuery none now = .ok source ∧
      ({ table, sample := .sampled source } : Runner).statement ⟨.sample, .all, true⟩ [] args now = .ok q ∧
      q.lists.length = 2 ∧ [] ∉ q.lists := by
  intro table options args now
  obtain ⟨s, source, q, accepted, drawn, built, two⟩ :
      ∃ s source q, Sampler.create .postgres table options = .ok s ∧ s.getSampleQuery none now = .ok source ∧
        ({ table, sample := .sampled source } : Runner).statement ⟨.sample, .all, true⟩ [] args now = .ok q ∧
        q.lists.length = 2 :=
    ⟨_, _, _, rfl, rfl, rfl, rfl⟩
  have sampled (bound : SampleSource) (same : SampleHandle.sampled source = .sampled bound) :
      ∃ (s : Sampler) (column : Option String) (drawn : Instant), s.getSampleQuery column drawn = .ok bound := by
    obtain rfl := SampleHandle.sampled.inj same
    exact ⟨s, none, now, drawn⟩
  obtain ⟨asks, -⟩ := statement_lists_filled sampled (fun _ none => absurd none List.not_mem_nil) built
  refine ⟨s, source, q, accepted, drawn, built, two, fun empty => ?_⟩
  obtain ⟨f, same, c, member, -, value⟩ := asks.mp empty
  obtain rfl := Option.some.inj same
  obtain rfl := List.mem_singleton.mp member
  cases value

/-- A filter on no kinds is accepted. -/
theorem no_kinds_listed :
    let table : Table := { name := "events", columns := [⟨"kind", .integer⟩] }
    let args : QueryArgs := { filter := some ⟨[⟨"kind", .isIn, .arr []⟩], false⟩ }
    ∃ q, ({ table } : Runner).statement ⟨.table, .all, true⟩ [] args (.ofSeconds 0 0 (by decide)) = .ok q ∧
      [] ∈ q.lists ∧ q.sql .postgres = "SELECT * FROM \"events\" WHERE (\"kind\" IN ())".toList :=
  ⟨_, rfl, List.mem_cons_self, by decide⟩

end Runner

end Profiling
