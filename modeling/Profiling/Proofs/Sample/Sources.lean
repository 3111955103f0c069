import Profiling.Proofs.Partition.Refusals
import Profiling.Proofs.Sql.Parts
import Profiling.Sample.Sampler

/-!
# The source of a sample

What a sampler builds, apart from what it checks first: the configuration, the requested column and
the partition. The columns of a source keep the one that the partition is on.
-/

namespace Profiling

namespace Partition

def conditionOf (partition : Option Partition) (columns : List Column) (now : Instant) :
    Except ConfigurationError (Option Expr) :=
  match partition with
  | none => .ok none
  | some p => (p.predicateAt columns now).map some

theorem conditionOf_some {p : Partition} {columns : List Column} {now : Instant} {condition : Option Expr}
    (built : conditionOf (some p) columns now = .ok condition) :
    ∃ e, p.predicateAt columns now = .ok e ∧ condition = some e := by
  obtain ⟨e, predicate, same⟩ := ok_of_map built
  exact ⟨e, predicate, same.symm⟩

end Partition

/-- A statement with a condition, or with none, in place of its own. -/
def Select.under (q : Select) (condition : Option Expr) : Select := { q with selection := condition }

namespace Sampler

theorem eq_of_withStrategy {strategy : SamplingStrategy} {dialect : Dialect} {table : Table}
    {options : SamplerOptions} {s : Sampler} (accepted : withStrategy strategy dialect table options = .ok s) :
    validateEach SampleConfig.validate options.sampleConfig = .ok () ∧
      validateEach Partition.validate options.partition = .ok () ∧
      s = { table, dialect, strategy
            sampleConfig := options.sampleConfig
            partition := options.partition
            sampleQuery := options.sampleQuery.bind normalizeCustomQuery
            storageConfig := options.storageConfig
            sampleDataCount := options.sampleDataCount } := by
  obtain ⟨_, config, accepted⟩ := ok_of_bind accepted
  obtain ⟨_, partition, accepted⟩ := ok_of_bind accepted
  exact ⟨config, partition, (Except.ok.inj accepted).symm⟩

theorem eq_of_create {dialect : Dialect} {table : Table} {options : SamplerOptions} {s : Sampler}
    (accepted : create dialect table options = .ok s) :
    validateEach SampleConfig.validate options.sampleConfig = .ok () ∧
      validateEach Partition.validate options.partition = .ok () ∧
      s = { table, dialect,
            strategy := .forDialect dialect
            sampleConfig := options.sampleConfig
            partition := options.partition
            sampleQuery := options.sampleQuery.bind normalizeCustomQuery
            storageConfig := options.storageConfig
            sampleDataCount := options.sampleDataCount } := eq_of_withStrategy accepted

/-- What is accepted for one table is accepted for every other, whatever the strategy. -/
theorem withStrategy_of_accepted {strategy : SamplingStrategy} {dialect : Dialect} {table : Table}
    {options : SamplerOptions} {s : Sampler} (accepted : withStrategy strategy dialect table options = .ok s)
    (strategy' : SamplingStrategy) (dialect' : Dialect) (table' : Table) :
    withStrategy strategy' dialect' table' options =
      .ok { s with table := table', dialect := dialect', strategy := strategy' } := by
  obtain ⟨config, partition, rfl⟩ := eq_of_withStrategy accepted
  unfold withStrategy
  rw [config, partition]
  rfl

theorem bound_of_requireSampleConfig {s : Sampler} {config : SampleConfig}
    (required : s.requireSampleConfig = .ok config) :
    s.sampleConfig = some config ∧ config.validate = .ok () := by
  unfold requireSampleConfig at required
  split at required
  · cases required
  · next own bound =>
    obtain ⟨_, valid, same⟩ := ok_of_bind required
    obtain rfl := Except.ok.inj same
    exact ⟨bound, valid⟩

/-! ### Parts -/

/-- The column that a request for a name, or for all columns, comes to. -/
def requestedColumn (s : Sampler) : Option String → Except ConfigurationError (Option Column)
  | none => .ok none
  | some name => (sampledColumn s.strategy s.table name).map some

/-- The columns of a sample behind those of the table. -/
def labelColumns (label : Option Expr) : List Column := label.toList.map fun _ => ⟨randomLabel, .float⟩

def base (s : Sampler) (column : Option Column) (label condition : Option Expr) : Select :=
  ((Select.ofProjection (s.baseProjection column ++ label.toList.map fun e => Expr.named e randomLabel)).withSource
    (.ofTable s.table)).under condition

def drawsTags (s : Sampler) : SampleConfig → Bool
  | .percentage _ => s.strategy == .generic || s.table.isView
  | .rows _ => true

def tag? (s : Sampler) (config : SampleConfig) : Option Expr :=
  if s.drawsTags config then
    match config with
    | .percentage _ => some (Expr.random.multiply (.int 100))
    | .rows _ => some .random
  else none

def withinPercent (s : Sampler) (percent : Float) : Select :=
  ((Select.ofProjection []).withSource (.cte (taggedName s.table))).under
    (some ((Expr.column randomLabel).ltEq (.literal (.float percent))))

def firstRows (count : Nat) (base : Select) : Select :=
  (base.withOrderBy [⟨.column randomLabel, true⟩]).withLimit count

def sampleCtes (s : Sampler) (config : SampleConfig) (base : Select) : List Cte :=
  match config with
  | .percentage percent =>
    if s.drawsTags config then
      [⟨taggedName s.table, base⟩, ⟨sampleName s.table, s.withinPercent percent⟩]
    else [⟨sampleName s.table, base.withTableSample (.systemPercent percent)⟩]
  | .rows count => [⟨sampleName s.table, firstRows count base⟩]

theorem sampleCtes_of_tags {s : Sampler} {percent : Float} (tags : s.drawsTags (.percentage percent) = true)
    (base : Select) :
    s.sampleCtes (.percentage percent) base =
      [⟨taggedName s.table, base⟩, ⟨sampleName s.table, s.withinPercent percent⟩] := if_pos tags

theorem sampleCtes_of_no_tags {s : Sampler} {percent : Float} (tags : s.drawsTags (.percentage percent) = false)
    (base : Select) :
    s.sampleCtes (.percentage percent) base =
      [⟨sampleName s.table, base.withTableSample (.systemPercent percent)⟩] :=
  if_neg (ne_true_of_eq_false tags)

def source (s : Sampler) (config : SampleConfig) (column : Option Column) (condition : Option Expr) :
    SampleSource where
  name := sampleName s.table
  ctes := s.sampleCtes config (s.base column (s.tag? config) condition)
  columns := s.baseColumns column ++ labelColumns (s.tag? config)

/-- Beside its condition, the select that a sample is drawn from is written with columns and a tag. -/
theorem flatMap_ownExprs_base {α : Type} {f : Expr → List α} (columns : ∀ name, f (.column name) = [])
    (wildcard : f .wildcard = []) (percent : f (.named (Expr.random.multiply (.int 100)) randomLabel) = [])
    (number : f (.named .random randomLabel) = []) (s : Sampler) (config : SampleConfig) (column : Option Column)
    (condition : Option Expr) (ordered : List OrderBy) (plain : (ordered.map OrderBy.expr).flatMap f = []) :
    ((s.base column (s.tag? config) condition).withOrderBy ordered).ownExprs.flatMap f =
      condition.toList.flatMap f := by
  have projected : (s.baseProjection column).flatMap f = [] := by
    cases column with
    | none => exact (List.flatMap_singleton _ _).trans wildcard
    | some column =>
      unfold baseProjection
      rw [List.flatMap_map]
      exact List.flatMap_eq_nil_iff.mpr fun c _ => columns c.name
  have tagged : ((s.tag? config).toList.map fun e => Expr.named e randomLabel).flatMap f = [] := by
    unfold tag?
    split
    · cases config with
      | percentage => exact (List.flatMap_singleton _ _).trans percent
      | rows => exact (List.flatMap_singleton _ _).trans number
    · rfl
  have own : ((s.base column (s.tag? config) condition).withOrderBy ordered).ownExprs = s.baseProjection column ++
      ((s.tag? config).toList.map fun e => Expr.named e randomLabel) ++ condition.toList ++ [] ++
        ordered.map OrderBy.expr := rfl
  rw [own]
  simp only [List.flatMap_append, projected, tagged, plain, List.append_nil, List.nil_append]

/-! ### What is built -/

variable {s : Sampler} {now : Instant}

theorem baseQuery_eq (s : Sampler) (column : Option Column) (label : Option Expr) (now : Instant) :
    s.baseQuery column label now =
      (Partition.conditionOf s.partition s.table.columns now).map fun condition =>
        ⟨s.base column label condition, s.baseColumns column ++ labelColumns label⟩ := by
  have labels : (label.toList.map fun e => Expr.named e randomLabel).map
      (fun _ => (⟨randomLabel, .float⟩ : Column)) = labelColumns label := by
    rw [List.map_map]
    rfl
  unfold baseQuery Partition.conditionOf
  simp only [labels]
  cases s.partition with
  | none => rfl
  | some p =>
    cases predicate : p.predicateAt s.table.columns now with
    | error cause =>
      simp only [predicate]
      rfl
    | ok e =>
      simp only [predicate]
      rfl

theorem buildSampleQuery_eq (s : Sampler) (column : Option String) (label : Option Expr) (now : Instant) :
    s.buildSampleQuery column label now = (s.requestedColumn column).bind fun column =>
      s.baseQuery column label now := by
  cases column with
  | none => rfl
  | some name =>
    unfold buildSampleQuery requestedColumn
    cases sampledColumn s.strategy s.table name <;> rfl

theorem taggedSample_eq {config : SampleConfig} (tags : s.drawsTags config = true) (column : Option String)
    (now : Instant) :
    s.taggedSample config column now = (s.requestedColumn column).bind fun column =>
      (Partition.conditionOf s.partition s.table.columns now).map (s.source config column) := by
  unfold taggedSample source sampleCtes tag?
  simp only [tags, if_true]
  cases config with
  | percentage percent =>
    simp only [buildSampleQuery_eq, baseQuery_eq]
    cases s.requestedColumn column with
    | error cause => rfl
    | ok column => cases Partition.conditionOf s.partition s.table.columns now <;> rfl
  | rows count =>
    simp only [buildSampleQuery_eq, baseQuery_eq]
    cases s.requestedColumn column with
    | error cause => rfl
    | ok column => cases Partition.conditionOf s.partition s.table.columns now <;> rfl

theorem drawsTags_eq_false {percent : Float} (tags : s.drawsTags (.percentage percent) = false) :
    s.strategy = .bigQuery ∧ s.table.isView = false := by
  obtain ⟨strategy, view⟩ := Bool.or_eq_false_iff.mp tags
  refine ⟨?_, view⟩
  cases shape : s.strategy with
  | generic =>
    rw [shape] at strategy
    cases strategy
  | bigQuery => rfl

/-- A sampler checks its configuration, the column and the partition, and builds the source. -/
theorem getSampleQuery_eq (s : Sampler) (column : Option String) (now : Instant) :
    s.getSampleQuery column now = s.requireSampleConfig.bind fun config =>
      (s.requestedColumn column).bind fun column =>
        (Partition.conditionOf s.partition s.table.columns now).map (s.source config column) := by
  unfold getSampleQuery
  cases s.requireSampleConfig with
  | error cause => rfl
  | ok config =>
    cases tags : s.drawsTags config with
    | true =>
      refine Eq.trans ?_ (taggedSample_eq tags column now)
      cases config with
      | rows count => cases s.strategy <;> rfl
      | percentage percent =>
        cases strategy : s.strategy with
        | generic => rfl
        | bigQuery =>
          have view : s.table.isView = true := by simpa [drawsTags, strategy] using tags
          exact if_pos view
    | false =>
      -- Only a percentage of a table that is no view does without tags.
      cases config with
      | rows count => cases tags
      | percentage percent =>
        obtain ⟨strategy, view⟩ := drawsTags_eq_false tags
        have system : s.source (.percentage percent) = fun column condition =>
            ⟨sampleName s.table,
              [⟨sampleName s.table, (s.base column none condition).withTableSample (.systemPercent percent)⟩],
              s.baseColumns column ++ labelColumns none⟩ := by
          unfold source sampleCtes tag?
          simp [tags]
        simp only [bind, Except.bind, strategy, view, buildSampleQuery_eq, baseQuery_eq, system]
        cases s.requestedColumn column with
        | error cause => rfl
        | ok column => cases Partition.conditionOf s.partition s.table.columns now <;> rfl

theorem source_of_getSampleQuery {column : Option String} {source : SampleSource}
    (built : s.getSampleQuery column now = .ok source) :
    ∃ config requested condition, s.requireSampleConfig = .ok config ∧
      s.requestedColumn column = .ok requested ∧
      Partition.conditionOf s.partition s.table.columns now = .ok condition ∧
      source = s.source config requested condition := by
  rw [getSampleQuery_eq] at built
  obtain ⟨config, configured, built⟩ := ok_of_bind built
  obtain ⟨requested, resolved, built⟩ := ok_of_bind built
  obtain ⟨condition, narrowed, same⟩ := ok_of_map built
  exact ⟨config, requested, condition, configured, resolved, narrowed, same.symm⟩

/-! ### Keeping the partition's column -/

/-- A column that is requested is the first of its name in the table, if the table knows the name. -/
theorem eq_of_requestedColumn {name : Option String} {column c : Column}
    (requested : s.requestedColumn name = .ok (some column)) (known : s.table.column? column.name = some c) :
    c = column := by
  have resolved {name : String} (found : resolveColumn s.table name = .ok column) : c = column := by
    unfold resolveColumn at found
    split at found
    · next first here =>
      obtain rfl := Except.ok.inj found
      rw [findColumn_name here, here] at known
      exact (Option.some.inj known).symm
    · cases found
  cases name with
  | none => cases requested
  | some name =>
    obtain ⟨first, sampled, same⟩ := ok_of_map requested
    obtain rfl := Option.some.inj same
    unfold sampledColumn at sampled
    split at sampled
    · next parent _ _ =>
      have parentColumn := Except.ok.inj sampled
      -- A parent that the table does not know is not looked up under its own name either.
      cases here : s.table.column? parent with
      | none =>
        rw [here] at parentColumn
        subst parentColumn
        rw [Option.getD_none] at known
        rw [here] at known
        cases known
      | some first =>
        rw [here] at parentColumn
        obtain rfl := parentColumn
        rw [Option.getD_some] at known ⊢
        rw [findColumn_name here, here] at known
        exact (Option.some.inj known).symm
    · exact resolved sampled

theorem findColumn_baseColumns {name : Option String} {column : Option Column} {p : Partition} {c : Column}
    (requested : s.requestedColumn name = .ok column) (bound : s.partition = some p)
    (found : findColumn s.table.columns p.column = some c) :
    findColumn (s.baseColumns column) p.column = some c := by
  cases column with
  | none => exact found
  | some column =>
    have beside : s.partition.bind (fun p => s.table.column? p.column) = some c := by
      rw [bound]
      exact found
    have named := findColumn_name found
    unfold baseColumns columnsBeside
    simp only [beside]
    by_cases same : column.name = c.name
    · have known : s.table.column? column.name = some c := by
        rw [same, named]
        exact found
      obtain rfl := eq_of_requestedColumn requested known
      simp [findColumn, named]
    · have other : column.name ≠ p.column := fun equal => same (equal.trans named.symm)
      simp [findColumn, other, named]

/-- On the columns of the source the partition puts the condition that it puts on the table. -/
theorem conditionOf_source {name : Option String} {column : Option Column} {condition : Option Expr}
    (config : SampleConfig) (requested : s.requestedColumn name = .ok column)
    (narrowed : Partition.conditionOf s.partition s.table.columns now = .ok condition) :
    Partition.conditionOf s.partition (s.source config column condition).columns now = .ok condition := by
  cases bound : s.partition with
  | none =>
    rw [bound] at narrowed
    exact narrowed
  | some p =>
    rw [bound] at narrowed
    obtain ⟨e, built, rfl⟩ := Partition.conditionOf_some narrowed
    obtain ⟨c, found, -⟩ := Partition.column_of_predicateAt built
    have kept : findColumn (s.source config column (some e)).columns p.column = some c :=
      findColumn_append (findColumn_baseColumns requested bound found) _
    rw [← narrowed]
    exact congrArg (Except.map some) (p.predicateAt_congr (kept.trans found.symm) now)

end Sampler

end Profiling
