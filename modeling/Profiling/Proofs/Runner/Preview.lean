import Profiling.Proofs.Handle.Recorded
import Profiling.Proofs.Sample.Sources
import Profiling.Runner

/-!
# Previews against fetches

A preview and a fetch of all of the sample read the same source. They keep to the partition in
different places where that is a sample, whose rows lie in the partition already.
-/

namespace Profiling

variable {σ κ : Type} {now : Instant}

/-! ### Without a filter -/

theorem Runner.statement_of_noArgs (r : Runner) (entities : List Expr) (now : Instant) :
    r.statement ⟨.sample, .all, true⟩ entities {} now =
      (Partition.conditionOf r.partition (r.target .sample).columns now).map
        ((r.target .sample).select entities).under := by
  unfold statement narrow Partition.conditionOf
  cases bound : r.partition with
  | none => cases r.target .sample <;> rfl
  | some p =>
    cases predicate : p.predicateAt (r.target .sample).columns now with
    | error cause =>
      simp only [predicate]
      rfl
    | ok e =>
      simp only [predicate]
      cases r.target .sample <;> rfl

namespace QueryTarget

theorem eq_sample_of_kind {target : QueryTarget} (kind : target.kind = .sample) :
    ∃ source, target = .sample source := by
  cases target with
  | sample source => exact ⟨source, rfl⟩
  | _ => cases kind

theorem columns_resolve {table : Table} {custom : Option String} {sample : Option SampleSource}
    (kind : (resolve table custom sample).kind ≠ .sample) : (resolve table custom sample).columns = table.columns := by
  cases custom with
  | some sql => rfl
  | none =>
    cases sample with
    | some source => exact absurd rfl kind
    | none => rfl

end QueryTarget

namespace Sampler

variable {s : Sampler}

def target (s : Sampler) (sample : SampleHandle) : QueryTarget :=
  .resolve s.table s.sampleQuery sample.source?

theorem previewQuery_eq {sample : SampleHandle} (drawn : s.randomSample now = .ok sample) (columns : List String) :
    s.previewQuery columns now =
      (if (s.target sample).kind = .sample then .ok none
        else Partition.conditionOf s.partition (s.target sample).columns now).map fun condition =>
          (((s.target sample).select (columns.map .column)).under condition).withLimit s.sampleDataCount := by
  have resolved : QueryTarget.resolve s.table s.sampleQuery sample.source? = s.target sample := rfl
  unfold previewQuery Partition.conditionOf
  simp only [drawn, bind, Except.bind, resolved]
  cases s.target sample with
  | sample source => rfl
  | table t =>
    cases s.partition with
    | none => rfl
    | some p =>
      dsimp only [QueryTarget.kind]
      cases p.predicateAt (QueryTarget.table t).columns now <;> rfl
  | customQuery sql t =>
    cases s.partition with
    | none => rfl
    | some p =>
      dsimp only [QueryTarget.kind]
      cases p.predicateAt (QueryTarget.customQuery sql t).columns now <;> rfl

/-- What is read as a sample is the one that the sampler draws. -/
theorem getSampleQuery_of_target {sample : SampleHandle} {source : SampleSource}
    (drawn : s.randomSample now = .ok sample) (target : s.target sample = .sample source) :
    s.getSampleQuery none now = .ok source := by
  unfold Sampler.target QueryTarget.resolve at target
  unfold randomSample at drawn
  cases custom : s.sampleQuery with
  | some sql =>
    rw [custom] at target
    cases target
  | none =>
    cases configured : s.sampleConfig with
    | none =>
      rw [custom, configured] at drawn
      obtain rfl := Except.ok.inj drawn
      rw [custom] at target
      cases target
    | some config =>
      simp only [custom, configured] at drawn
      split at drawn
      · obtain rfl := Except.ok.inj drawn
        rw [custom] at target
        cases target
      · obtain ⟨own, built, rfl⟩ := ok_of_map drawn
        rw [custom] at target
        rw [built, QueryTarget.sample.inj target]

/-- The select that reads the table stands first among those of a sample. -/
theorem head?_sampleCtes (s : Sampler) (config : SampleConfig) (column : Option Column) (label condition : Option Expr) :
    ∃ base clause, (s.sampleCtes config (s.base column label condition)).head? = some base ∧
      base.query.source = some (.table (.ofTable s.table) clause) ∧ base.query.selection = condition := by
  cases config with
  | rows count => exact ⟨_, none, rfl, rfl, rfl⟩
  | percentage percent =>
    unfold sampleCtes
    cases s.drawsTags (.percentage percent) with
    | true => exact ⟨_, none, rfl, rfl, rfl⟩
    | false => exact ⟨_, some (.systemPercent percent), rfl, rfl, rfl⟩

theorem fields_of_create {dialect : Dialect} {table : Table} {options : SamplerOptions}
    (accepted : create dialect table options = .ok s) :
    s.table = table ∧ s.partition = options.partition ∧
      s.sampleQuery = options.sampleQuery.bind normalizeCustomQuery ∧
      s.sampleDataCount = options.sampleDataCount := by
  obtain ⟨-, -, rfl⟩ := eq_of_create accepted
  exact ⟨rfl, rfl, rfl, rfl⟩

/-- An error of the configuration shows before the handle is called. -/
theorem fetchSampleData_of_error {columns : List String} {cause : ConfigurationError}
    (failed : s.previewQuery columns now = .error cause) (h : Handle σ κ) (st : σ) :
    s.fetchSampleData h columns now st = (.error (.configuration cause), st) := by
  unfold fetchSampleData
  rw [failed]

theorem calls_fetchSampleData {columns : List String} {q : Select}
    (built : s.previewQuery columns now = .ok q) (h : Handle σ κ) (st : Recorded σ) :
    (s.fetchSampleData h.recorded columns now st).2.calls = st.calls ++ [.execute (q.toSql h.dialect)] := by
  unfold fetchSampleData
  rw [built]
  rfl

end Sampler

namespace Runner

variable {r : Runner} {policy : FetchPolicy} {entities : List Expr} {args : QueryArgs}

theorem run_of_error {cause : ConfigurationError} (failed : r.statement policy entities args now = .error cause)
    (h : Handle σ κ) (st : σ) : r.run h policy entities args now st = (.error (.configuration cause), st) := by
  unfold run
  rw [failed]

theorem calls_execute (r : Runner) (h : Handle σ κ) (q : Select) (st : Recorded σ) :
    (r.execute h.recorded q st).2.calls = st.calls ++ [.execute (q.toSql h.dialect)] :=
  congrArg (fun result => result.2.calls) (Call.within_mapState (st.add (.execute (q.toSql h.dialect))) r.timeout
    (h.execute (q.toSql h.dialect) st.state))

theorem calls_run {q : Select} (built : r.statement policy entities args now = .ok q) (h : Handle σ κ)
    (st : Recorded σ) :
    (r.run h.recorded policy entities args now st).2.calls = st.calls ++ [.execute (q.toSql h.dialect)] := by
  unfold run
  rw [built]
  exact r.calls_execute h q st

end Runner

/-! ### A profile's sampler and runner -/

/-- The runner of a profile, on the table, its sample, and the partition and custom query of the
options. -/
def SamplerOptions.runner (o : SamplerOptions) (table : Table) (sample : SampleHandle)
    (timeout : Option Duration) (size : Nat) : Runner :=
  (Runner.withCustomQuery { table, sample, partition := o.partition, timeout } o.sampleQuery).withBatchSize size

structure SameSource (table : Table) (condition : Option Expr) (target : QueryTarget) (count : Nat)
    (preview fetch : Select) : Prop where
  ctes : preview.ctes = fetch.ctes
  source : preview.source = fetch.source
  projection : preview.projection = fetch.projection
  groupBy : preview.groupBy = fetch.groupBy
  orderBy : preview.orderBy = fetch.orderBy
  previewLimit : preview.limit = some count
  fetchLimit : fetch.limit = none
  fetchSelection : fetch.selection = condition
  selection : match target with
    | .table _ | .customQuery .. => preview.selection = fetch.selection
    | .sample source => preview.selection = none ∧
      ∃ base clause, source.ctes.head? = some base ∧
        base.query.source = some (.table (.ofTable table) clause) ∧ fetch.selection = base.query.selection

/-- A preview and a fetch of all of the sample have statements in the same cases and fail alike
otherwise, and their statements read the same source. -/
theorem SamplerOptions.preview_alike {dialect : Dialect} {table : Table} {options : SamplerOptions} {s : Sampler}
    {sample : SampleHandle} (accepted : Sampler.create dialect table options = .ok s)
    (drawn : s.randomSample now = .ok sample) (columns : List String) (timeout : Option Duration) (size : Nat)
    (h : Handle σ κ) (st : σ) :
    let r := options.runner table sample timeout size
    let entities := columns.map Expr.column
    match s.previewQuery columns now, r.statement ⟨.sample, .all, true⟩ entities {} now with
    | .error cause, .error cause' => cause = cause' ∧
        s.fetchSampleData h columns now st = (.error (.configuration cause), st) ∧
        r.selectAllFromSample h entities {} now st = (.error (.configuration cause), st)
    | .ok preview, .ok fetch =>
        (∃ condition, Partition.conditionOf options.partition table.columns now = .ok condition ∧
          SameSource table condition (r.target .sample) options.sampleDataCount preview fetch) ∧
        (s.fetchSampleData h.recorded columns now ⟨[], st⟩).2.calls = [.execute (preview.toSql h.dialect)] ∧
        (r.selectAllFromSample h.recorded entities {} now ⟨[], st⟩).2.calls = [.execute (fetch.toSql h.dialect)]
    | _, _ => False := by
  intro r entities
  obtain ⟨tableEq, partition, query, count⟩ := Sampler.fields_of_create accepted
  have target : s.target sample = r.target .sample := by
    unfold Sampler.target
    rw [tableEq, query]
    rfl
  have previewed := Sampler.previewQuery_eq drawn columns
  have fetched := r.statement_of_noArgs entities now
  rw [target, partition, count] at previewed
  by_cases sampled : (r.target .sample).kind = .sample
  · obtain ⟨source, read⟩ := QueryTarget.eq_sample_of_kind sampled
    obtain ⟨config, requested, condition, -, found, narrowed, rfl⟩ :=
      Sampler.source_of_getSampleQuery (Sampler.getSampleQuery_of_target drawn (target.trans read))
    have again := Sampler.conditionOf_source config found narrowed
    obtain ⟨base, clause, first, reads, selects⟩ :=
      s.head?_sampleCtes config requested (s.tag? config) condition
    rw [if_pos sampled, Except.map] at previewed
    have bound : Partition.conditionOf r.partition (r.target .sample).columns now = .ok condition := by
      rw [read, ← again, partition]
      rfl
    rw [bound, Except.map] at fetched
    rw [previewed, fetched]
    rw [partition, tableEq] at narrowed
    rw [tableEq] at reads
    refine ⟨⟨condition, narrowed, ⟨rfl, rfl, rfl, rfl, rfl, rfl, ?_, rfl, ?_⟩⟩,
      Sampler.calls_fetchSampleData previewed h ⟨[], st⟩, r.calls_run fetched h ⟨[], st⟩⟩
    · cases r.target .sample <;> rfl
    · rw [read]
      exact ⟨rfl, base, clause, first, reads, selects.symm⟩
  · have columnsEq : (r.target .sample).columns = table.columns := QueryTarget.columns_resolve sampled
    rw [if_neg sampled, columnsEq] at previewed
    rw [show r.partition = options.partition from rfl, columnsEq] at fetched
    cases narrowed : Partition.conditionOf options.partition table.columns now with
    | error cause =>
      rw [narrowed, Except.map] at previewed fetched
      rw [previewed, fetched]
      exact ⟨rfl, Sampler.fetchSampleData_of_error previewed h st, r.run_of_error fetched h st⟩
    | ok condition =>
      rw [narrowed, Except.map] at previewed fetched
      rw [previewed, fetched]
      refine ⟨⟨condition, rfl, ⟨rfl, rfl, rfl, rfl, rfl, rfl, ?_, rfl, ?_⟩⟩,
        Sampler.calls_fetchSampleData previewed h ⟨[], st⟩, r.calls_run fetched h ⟨[], st⟩⟩
      · cases r.target .sample <;> rfl
      · cases read : r.target .sample with
        | sample source =>
          rw [read] at sampled
          exact absurd rfl sampled
        | _ => rfl

def quarter : SamplerOptions where
  sampleConfig := some (.percentage 25)
  partition := some ⟨"day", .integerRange 1 5⟩

theorem SamplerOptions.quarter_preview_alike :
    let days : Table := { name := "days", columns := [⟨"day", .integer⟩] }
    let now := Instant.ofSeconds 0 0 (by decide)
    let range := Expr.between (.column "day") (.int 1) (.int 5)
    ∃ s sample preview fetch, Sampler.create .postgres days quarter = .ok s ∧ s.randomSample now = .ok sample ∧
      s.previewQuery ["day"] now = .ok preview ∧
      (quarter.runner days sample none 0).statement ⟨.sample, .all, true⟩ [.column "day"] {} now = .ok fetch ∧
      preview.ctes = fetch.ctes ∧ preview.selection = none ∧ fetch.selection = some range := by
  intro days now range
  obtain ⟨s, sample, source, preview, fetch, accepted, drawn, read, previewed, fetched⟩ :
      ∃ s sample source preview fetch, Sampler.create .postgres days quarter = .ok s ∧
        s.randomSample now = .ok sample ∧ (quarter.runner days sample none 0).target .sample = .sample source ∧
        s.previewQuery ["day"] now = .ok preview ∧
        (quarter.runner days sample none 0).statement ⟨.sample, .all, true⟩ [.column "day"] {} now = .ok fetch :=
    ⟨_, _, _, _, _, rfl, rfl, rfl, rfl, rfl⟩
  have alike := preview_alike accepted drawn ["day"] none 0 (Engine.ofRows .postgres []).toHandle ()
  simp only [List.map_cons, List.map_nil, previewed, fetched] at alike
  obtain ⟨⟨condition, narrowed, same⟩, -, -⟩ := alike
  obtain rfl : condition = some range := Except.ok.inj (narrowed.symm.trans rfl)
  have selection := same.selection
  rw [read] at selection
  exact ⟨s, sample, preview, fetch, accepted, drawn, previewed, fetched, same.ctes, selection.1, same.fetchSelection⟩

end Profiling
