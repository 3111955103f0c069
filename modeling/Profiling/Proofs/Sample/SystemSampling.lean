import Profiling.Proofs.Runner.Resolution
import Profiling.Proofs.Sql.Parts
import Profiling.Settings

/-!
# Statements that sample by a clause

Only BigQuery knows the clause that samples a table. Where the settings are checked against the
dialect of the handle, a sample and the statements over it have the clause exactly if both are
BigQuery's and the sample is a percentage of a table that is no view; it then stands once, at the
table.
-/

namespace Profiling

/-- The table that a select samples by a clause of its own, and the clause. -/
def Select.sampling? (q : Select) : Option (TableRef × TableSample) :=
  match q.source with
  | some (.table ref (some clause)) => some (ref, clause)
  | _ => none

def Cte.samplings (ctes : List Cte) : List (TableRef × TableSample) :=
  (ctes.flatMap fun c => c.query.parts).filterMap Select.sampling?

/-- The sampling clauses of a statement and of all selects in it. -/
def Select.samplings (q : Select) : List (TableRef × TableSample) := q.parts.filterMap Select.sampling?

theorem Select.samplings_eq (q : Select) : q.samplings = q.sampling?.toList ++ Cte.samplings q.ctes := by
  rw [samplings, parts_eq, List.filterMap_cons]
  cases q.sampling? <;> rfl

theorem Settings.eq_of_checkBackend {settings : Settings} {actual : Dialect}
    (checked : settings.checkBackend actual = .ok ()) : settings.backend = actual ∨ settings.backend = .generic := by
  unfold checkBackend at checked
  split at checked
  · next allowed => simpa using allowed
  · cases checked

structure SamplesBySystem (backend actual : Dialect) (table : Table) (config : Option SampleConfig)
    (samplings : List (TableRef × TableSample)) : Prop where
  carried_iff : samplings ≠ [] ↔ actual = .bigQuery ∧ backend = .bigQuery ∧
    (∃ percent, config = some (.percentage percent)) ∧ table.isView = false
  once : samplings ≠ [] → ∃ percent, config = some (.percentage percent) ∧
    samplings = [(.ofTable table, .systemPercent percent)]

theorem SamplingStrategy.forDialect_eq_bigQuery {dialect : Dialect} :
    forDialect dialect = .bigQuery ↔ dialect = .bigQuery := by
  cases dialect <;> simp [forDialect]

namespace Sampler

variable {s : Sampler}

/-- The clause by which a sample is drawn, unless it is drawn by tags. -/
def clause? (s : Sampler) (config : SampleConfig) : Option TableSample :=
  match config with
  | .percentage percent => if s.drawsTags config then none else some (.systemPercent percent)
  | .rows _ => none

theorem samplings_sampleCtes (s : Sampler) (config : SampleConfig) (column : Option Column)
    (label condition : Option Expr) :
    Cte.samplings (s.sampleCtes config (s.base column label condition)) =
      ((s.clause? config).map fun clause => (TableRef.ofTable s.table, clause)).toList := by
  cases config with
  | rows count => rfl
  | percentage percent =>
    cases tags : s.drawsTags (.percentage percent) with
    | true =>
      rw [sampleCtes_of_tags tags, clause?, if_pos tags]
      rfl
    | false =>
      rw [sampleCtes_of_no_tags tags, clause?, if_neg (ne_true_of_eq_false tags)]
      rfl

theorem clause?_eq_some_iff {config : SampleConfig} {clause : TableSample} :
    s.clause? config = some clause ↔ s.strategy = .bigQuery ∧ s.table.isView = false ∧
      ∃ percent, config = .percentage percent ∧ clause = .systemPercent percent := by
  cases config with
  | rows count => simp [clause?]
  | percentage percent =>
    cases tags : s.drawsTags (.percentage percent) with
    | true =>
      have drawn : s.strategy = .generic ∨ s.table.isView = true := by simpa [drawsTags] using tags
      rw [clause?, if_pos tags]
      rcases drawn with generic | view
      · simp [generic]
      · simp [view]
    | false =>
      obtain ⟨strategy, view⟩ := drawsTags_eq_false tags
      rw [clause?, if_neg (ne_true_of_eq_false tags)]
      simp [strategy, view, eq_comm]

/-- A sampler for settings that the handle agrees with draws by the clause only where that knows it. -/
theorem samplesBySystem_sampleCtes {settings : Settings} {actual : Dialect} {table : Table}
    {options : SamplerOptions} {config : SampleConfig} (checked : settings.checkBackend actual = .ok ())
    (accepted : create settings.backend table options = .ok s) (required : s.requireSampleConfig = .ok config)
    (column : Option Column) (label condition : Option Expr) :
    SamplesBySystem settings.backend actual table options.sampleConfig
      (Cte.samplings (s.sampleCtes config (s.base column label condition))) := by
  obtain ⟨-, -, built⟩ := eq_of_create accepted
  have strategy : s.strategy = .forDialect settings.backend := by rw [built]
  have tableEq : s.table = table := by rw [built]
  have configured : options.sampleConfig = some config := by
    rw [← (bound_of_requireSampleConfig required).1, built]
  rw [samplings_sampleCtes, configured, tableEq]
  cases drawn : s.clause? config with
  | some clause =>
    obtain ⟨bigQuery, view, percent, rfl, rfl⟩ := clause?_eq_some_iff.mp drawn
    have backend := SamplingStrategy.forDialect_eq_bigQuery.mp (strategy.symm.trans bigQuery)
    have same : actual = .bigQuery := by
      rcases Settings.eq_of_checkBackend checked with agrees | generic
      · rw [← agrees, backend]
      · rw [backend] at generic
        cases generic
    rw [tableEq] at view
    exact ⟨by simp [same, backend, view], fun _ => ⟨percent, rfl, rfl⟩⟩
  | none =>
    refine ⟨iff_of_false (by simp) ?_, fun carried => absurd rfl carried⟩
    rintro ⟨-, backend, ⟨percent, percentage⟩, view⟩
    have bigQuery := strategy.trans (SamplingStrategy.forDialect_eq_bigQuery.mpr backend)
    have clause := clause?_eq_some_iff.mpr
      ⟨bigQuery, (congrArg Table.isView tableEq).trans view, percent, Option.some.inj percentage, rfl⟩
    rw [drawn] at clause
    cases clause

end Sampler

namespace Runner

variable {r : Runner} {policy : FetchPolicy} {entities : List Expr} {args : QueryArgs} {now : Instant} {q : Select}

/-- Whether a fetch reads the bound sample. -/
def ReadsSample (r : Runner) (policy : FetchPolicy) : Prop := r.customQuery = none ∧ policy.source = .sample

theorem samplings_of_statement {source : SampleSource} (bound : r.sample = .sampled source)
    (built : r.statement policy entities args now = .ok q) :
    (r.ReadsSample policy → q.samplings = Cte.samplings source.ctes) ∧
      (¬ r.ReadsSample policy → q.samplings = []) := by
  obtain ⟨from_target, ctes⟩ := sources_of_statement built
  have own : q.sampling? = none := by
    unfold Select.sampling?
    rw [from_target]
    cases r.target policy.source <;> rfl
  rw [Select.samplings_eq, own]
  constructor
  · rintro ⟨custom, sample⟩
    rw [sample, target_of_sampled custom bound] at ctes
    rw [ctes]
    rfl
  · intro others
    suffices none : q.ctes = [] by rw [none]; rfl
    rw [ctes]
    cases custom : r.customQuery with
    | some sql =>
      rw [target_of_customQuery custom]
      rfl
    | none =>
      cases source : policy.source with
      | sample => exact absurd ⟨custom, source⟩ others
      | table =>
        rw [target, custom]
        rfl

end Runner

/-- Where the handle's dialect is the one that the settings allow, the clause that samples a table is
in a sample, and in the statements over it, exactly if BigQuery draws a percentage of a table. -/
theorem samples_by_system {settings : Settings} {actual : Dialect} {table : Table} {options : SamplerOptions}
    {s : Sampler} {column : Option String} {now : Instant} {source : SampleSource}
    (checked : settings.checkBackend actual = .ok ())
    (accepted : Sampler.create settings.backend table options = .ok s)
    (built : s.getSampleQuery column now = .ok source) :
    SamplesBySystem settings.backend actual table options.sampleConfig (Cte.samplings source.ctes) ∧
    ∀ (r : Runner), r.sample = .sampled source → ∀ policy entities args (later : Instant) q,
      r.statement policy entities args later = .ok q →
        (r.ReadsSample policy →
          SamplesBySystem settings.backend actual table options.sampleConfig q.samplings) ∧
        (¬ r.ReadsSample policy → q.samplings = []) := by
  obtain ⟨config, requested, condition, required, -, -, rfl⟩ := Sampler.source_of_getSampleQuery built
  have own := Sampler.samplesBySystem_sampleCtes checked accepted required requested (s.tag? config) condition
  refine ⟨own, fun r bound policy entities args later q statement => ?_⟩
  obtain ⟨reads, others⟩ := Runner.samplings_of_statement bound statement
  refine ⟨fun sample => ?_, others⟩
  rw [reads sample]
  exact own

theorem tenth_sampled_by_system :
    let table : Table := { schema := some "crm", name := "customers", columns := [⟨"id", .integer⟩] }
    let settings : Settings := { backend := .bigQuery }
    let options : SamplerOptions := { sampleConfig := some (.percentage 10) }
    let now := Instant.ofSeconds 0 0 (by decide)
    ∃ s source q, settings.checkBackend .bigQuery = .ok () ∧ Sampler.create settings.backend table options = .ok s ∧
      s.getSampleQuery none now = .ok source ∧
      ({ table, sample := .sampled source } : Runner).statement ⟨.sample, .all, true⟩ [] {} now = .ok q ∧
      q.samplings = [(⟨some "crm", "customers"⟩, .systemPercent 10)] := by
  intro table settings options now
  obtain ⟨s, source, q, accepted, built, statement⟩ :
      ∃ s source q, Sampler.create settings.backend table options = .ok s ∧ s.getSampleQuery none now = .ok source ∧
        ({ table, sample := .sampled source } : Runner).statement ⟨.sample, .all, true⟩ [] {} now = .ok q :=
    ⟨_, _, _, rfl, rfl, rfl⟩
  have checked : settings.checkBackend .bigQuery = .ok () := rfl
  obtain ⟨-, statements⟩ := samples_by_system checked accepted built
  obtain ⟨reads, -⟩ := statements { table, sample := .sampled source } rfl _ _ _ _ _ statement
  have sampled := reads ⟨rfl, rfl⟩
  have carried := sampled.carried_iff.mpr ⟨rfl, rfl, ⟨10, rfl⟩, rfl⟩
  obtain ⟨percent, configured, once⟩ := sampled.once carried
  obtain rfl : 10 = percent := SampleConfig.percentage.inj (Option.some.inj configured)
  exact ⟨s, source, q, checked, accepted, built, statement, once⟩

end Profiling
