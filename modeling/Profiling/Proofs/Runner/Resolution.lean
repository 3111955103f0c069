import Profiling.Proofs.Sample.Sources
import Profiling.Runner

/-!
# What fetches read

The statement of a fetch is the select of its target with clauses added behind the source. So it
depends on the runner through the target and the partition alone, and each part of it that is about
sources is the target's own.
-/

namespace Profiling

variable {σ κ : Type} {now : Instant}

/-! ### Statements from their targets -/

def Select.filterBy (q : Select) : Option Expr → Select
  | some e => q.filter e
  | none => q

/-- The select of a target under the arguments of a fetch and the condition of a partition. -/
def QueryTarget.fetch (target : QueryTarget) (entities : List Expr) (args : QueryArgs) (condition : Option Expr)
    (cardinality : Cardinality) : Select :=
  let q := ((target.select entities).filterBy args.condition?).filterBy condition
  let q := (q.withGroupBy args.groupBy).withOrderBy args.orderBy
  match cardinality with
  | .first => q.withLimit 1
  | .all => q

theorem Select.source_filterBy (q : Select) (e : Option Expr) : (q.filterBy e).source = q.source := by
  cases e <;> rfl

theorem Select.ctes_filterBy (q : Select) (e : Option Expr) : (q.filterBy e).ctes = q.ctes := by
  cases e <;> rfl

theorem Select.limit_filterBy (q : Select) (e : Option Expr) : (q.filterBy e).limit = q.limit := by
  cases e <;> rfl

theorem Select.toSql_withLimit {q : Select} (unlimited : q.limit = none) (d : Dialect) (n : Nat) :
    (q.withLimit n).toSql d = q.toSql d ++ (" LIMIT " ++ String.ofList (natText n)) := by
  have none : q.limitClause = [] := by rw [Select.limitClause, unlimited]
  have before : q.sql d = Select.withClause (q.ctes.map (Cte.sql d)) ++ (q.projectionClause d ++ q.fromClause d ++
      q.whereClause d ++ q.groupByClause d ++ q.orderByClause d) := by
    rw [Select.sql_eq, Select.body, none, List.append_nil]
  have behind : (q.withLimit n).sql d = q.sql d ++ (" LIMIT ".toList ++ natText n) := by
    rw [Select.sql_eq, before, List.append_assoc]
    rfl
  rw [Select.toSql, Select.toSql, behind, String.ofList_append, String.ofList_append, String.ofList_toList]

structure Select.ReadsQuery (q : Select) (sql : String) : Prop where
  source : q.source = some (.subquery sql customQueryAlias)
  ctes : q.ctes = []
  text : ∀ d, q.fromClause d = " FROM (".toList ++ sql.toList ++ ") AS subquery".toList

theorem Select.readsQuery {q : Select} {sql : String} (source : q.source = some (.subquery sql customQueryAlias))
    (ctes : q.ctes = []) : q.ReadsQuery sql where
  source := source
  ctes := ctes
  text d := by
    have opening : " FROM (".toList = " FROM ".toList ++ ['('] := rfl
    have closing : ") AS subquery".toList = ") AS ".toList ++ customQueryAlias.toList := rfl
    rw [Select.fromClause, source, opening, closing]
    simp only [FromItem.sql, List.append_assoc, List.cons_append, List.nil_append]

namespace QueryTarget

variable (target : QueryTarget) (entities : List Expr) (args : QueryArgs) (condition : Option Expr)

theorem source_fetch (cardinality : Cardinality) :
    (target.fetch entities args condition cardinality).source = (target.select entities).source := by
  cases cardinality <;>
    simp [fetch, Select.withLimit, Select.withOrderBy, Select.withGroupBy, Select.source_filterBy]

theorem ctes_fetch (cardinality : Cardinality) :
    (target.fetch entities args condition cardinality).ctes = (target.select entities).ctes := by
  cases cardinality <;>
    simp [fetch, Select.withLimit, Select.withOrderBy, Select.withGroupBy, Select.ctes_filterBy]

theorem limit_fetch_all : (target.fetch entities args condition .all).limit = none := by
  have bare : (target.select entities).limit = none := by cases target <;> rfl
  simp [fetch, Select.withOrderBy, Select.withGroupBy, Select.limit_filterBy, bare]

theorem toSql_fetch_first (d : Dialect) :
    (target.fetch entities args condition .first).toSql d =
      (target.fetch entities args condition .all).toSql d ++ " LIMIT 1" := by
  exact Select.toSql_withLimit (target.limit_fetch_all entities args condition) d 1

end QueryTarget

namespace Runner

variable {r : Runner} {policy : FetchPolicy} {entities : List Expr} {args : QueryArgs} {q : Select}

def keptPartition (r : Runner) (policy : FetchPolicy) : Option Partition :=
  if policy.applyPartition then r.partition else none

theorem statement_eq (r : Runner) (policy : FetchPolicy) (entities : List Expr) (args : QueryArgs) (now : Instant) :
    r.statement policy entities args now =
      (Partition.conditionOf (r.keptPartition policy) (r.target policy.source).columns now).map fun condition =>
        (r.target policy.source).fetch entities args condition policy.cardinality := by
  unfold statement narrow keptPartition Partition.conditionOf QueryTarget.fetch
  cases policy.applyPartition with
  | false => cases r.partition <;> rfl
  | true =>
    cases r.partition with
    | none => rfl
    | some p =>
      simp only [if_true]
      cases p.predicateAt (r.target policy.source).columns now <;> rfl

/-- Two runners on one target with one partition to keep to have the same statements. -/
theorem statement_congr {r r' : Runner} {policy policy' : FetchPolicy} (entities : List Expr) (args : QueryArgs)
    (now : Instant) (target : r.target policy.source = r'.target policy'.source)
    (partition : r.keptPartition policy = r'.keptPartition policy')
    (cardinality : policy.cardinality = policy'.cardinality) :
    r.statement policy entities args now = r'.statement policy' entities args now := by
  rw [statement_eq, statement_eq, target, partition, cardinality]

theorem sources_of_statement (built : r.statement policy entities args now = .ok q) :
    q.source = ((r.target policy.source).select entities).source ∧
      q.ctes = ((r.target policy.source).select entities).ctes := by
  rw [statement_eq] at built
  obtain ⟨condition, -, rfl⟩ := ok_of_map built
  exact ⟨QueryTarget.source_fetch _ _ _ _ _, QueryTarget.ctes_fetch _ _ _ _ _⟩

/-! ### Targets -/

theorem target_of_customQuery {sql : String} (custom : r.customQuery = some sql) (source : SourceKind) :
    r.target source = .customQuery sql r.table := by
  cases source <;> simp [target, QueryTarget.resolve, custom]

theorem target_of_sampled {source : SampleSource} (custom : r.customQuery = none) (bound : r.sample = .sampled source) :
    r.target .sample = .sample source := by
  simp [target, QueryTarget.resolve, SampleHandle.source?, custom, bound]

theorem target_of_noSample (bound : r.sample = .noSample) : r.target .sample = r.target .table := by
  simp [target, SampleHandle.source?, bound]

theorem sample_of_target {source : SampleSource} (read : r.target policy.source = .sample source) :
    r.sample = .sampled source := by
  unfold target QueryTarget.resolve at read
  cases custom : r.customQuery <;> cases bound : r.sample <;> cases kind : policy.source <;>
    simp_all [SampleHandle.source?]

/-- Dispatching on the sample comes to what resolving the target does. -/
theorem statement_dispatchPolicy (r : Runner) (entities : List Expr) (args : QueryArgs) (now : Instant) :
    r.statement r.dispatchPolicy entities args now = r.statement ⟨.sample, .first, true⟩ entities args now := by
  cases bound : r.sample with
  | sampled source => simp [dispatchPolicy, bound, SampleHandle.isSampled, SampleHandle.source?]
  | noSample =>
    refine statement_congr entities args now ?_ rfl rfl
    simp [dispatchPolicy, bound, SampleHandle.isSampled, SampleHandle.source?, target_of_noSample bound]

structure ResolvesSources (r : Runner) (entities : List Expr) (args : QueryArgs) (now : Instant) : Prop where
  /-- A custom query is read in place of everything else, whatever sample is bound. -/
  custom : ∀ sql, r.customQuery = some sql →
    (r.buildQuery entities).ReadsQuery sql ∧
      (∀ policy q, r.statement policy entities args now = .ok q → q.ReadsQuery sql) ∧
      ∀ sample, ({ r with sample } : Runner).buildQuery entities = r.buildQuery entities ∧
        ∀ policy, ({ r with sample } : Runner).statement policy entities args now =
          r.statement policy entities args now
  /-- A bound sample is read under its name, with all that it declares. -/
  sampled : r.customQuery = none → ∀ source, r.sample = .sampled source →
    ∀ cardinality applies q, r.statement ⟨.sample, cardinality, applies⟩ entities args now = .ok q →
      q.source = some (.cte source.name) ∧ q.ctes = source.ctes
  unsampled : r.customQuery = none → r.sample = .noSample → ∀ cardinality applies,
    r.statement ⟨.sample, cardinality, applies⟩ entities args now =
      r.statement ⟨.table, cardinality, applies⟩ entities args now
  /-- Fetches from the table do not see the sample. -/
  table : ∀ sample cardinality applies,
    ({ r with sample } : Runner).statement ⟨.table, cardinality, applies⟩ entities args now =
      r.statement ⟨.table, cardinality, applies⟩ entities args now
  dispatch : r.statement r.dispatchPolicy entities args now = r.statement ⟨.sample, .first, true⟩ entities args now ∧
    ∀ {σ κ : Type} (h : Handle σ κ) (st : σ),
      r.dispatchSelectFirst h entities args now st = r.selectFirstFromSample h entities args now st
  /-- The first row of a fetch is asked for by a limit behind the statement for all rows. -/
  first : ∀ source applies,
    match r.statement ⟨source, .first, applies⟩ entities args now,
      r.statement ⟨source, .all, applies⟩ entities args now with
    | .error cause, .error cause' => cause = cause'
    | .ok one, .ok all => ∀ d, one.toSql d = all.toSql d ++ " LIMIT 1"
    | _, _ => False

theorem statements_first_all (r : Runner) (entities : List Expr) (args : QueryArgs) (now : Instant)
    (source : SourceKind) (applies : Bool) :
    match r.statement ⟨source, .first, applies⟩ entities args now,
      r.statement ⟨source, .all, applies⟩ entities args now with
    | .error cause, .error cause' => cause = cause'
    | .ok one, .ok all => ∀ d, one.toSql d = all.toSql d ++ " LIMIT 1"
    | _, _ => False := by
  have same : r.keptPartition ⟨source, .first, applies⟩ = r.keptPartition ⟨source, .all, applies⟩ := rfl
  rw [statement_eq, statement_eq, same]
  cases Partition.conditionOf (r.keptPartition ⟨source, .all, applies⟩) (r.target source).columns now with
  | error cause => rfl
  | ok condition => exact (r.target source).toSql_fetch_first entities args condition

/-- Every runner reads a custom query if there is one, else the bound sample where it is asked for,
else the table. -/
theorem resolves_sources (r : Runner) (entities : List Expr) (args : QueryArgs) (now : Instant) :
    r.ResolvesSources entities args now where
  custom sql custom := by
    refine ⟨?_, fun policy q built => ?_, fun sample => ?_⟩
    · rw [buildQuery, target_of_customQuery custom]
      exact Select.readsQuery rfl rfl
    · obtain ⟨source, ctes⟩ := sources_of_statement built
      rw [target_of_customQuery custom] at source ctes
      exact Select.readsQuery source ctes
    · have blind (source : SourceKind) : ({ r with sample } : Runner).target source = r.target source := by
        rw [target_of_customQuery custom, target_of_customQuery (r := { r with sample }) custom]
      exact ⟨congrArg (QueryTarget.select · entities) (blind .table), fun policy =>
        statement_congr entities args now (blind policy.source) rfl rfl⟩
  sampled custom source bound cardinality applies q built := by
    have own := sources_of_statement built
    rwa [target_of_sampled custom bound] at own
  unsampled _ bound cardinality applies := statement_congr entities args now (target_of_noSample bound) rfl rfl
  table sample cardinality applies := statement_congr entities args now rfl rfl rfl
  dispatch := by
    have same := r.statement_dispatchPolicy entities args now
    refine ⟨same, fun h st => ?_⟩
    rw [dispatchSelectFirst, selectFirstFromSample, run, run, same]
  first := r.statements_first_all entities args now

end Runner

end Profiling
