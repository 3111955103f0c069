import Profiling.Partition
import Profiling.Sample.Config
import Profiling.Target

/-!
# Samplers

A sampler turns the sample configuration of a table into a source of queries. The generic strategy
works with any random function: a percentage keeps the rows whose random tag is within it, and a
number of rows takes the first ones in the order of their tags. BigQuery has a clause for
percentages of tables, though not of views, and samples a nested field by its outermost parent.
-/

namespace Profiling

inductive SamplingStrategy where
  | generic
  | bigQuery
deriving DecidableEq, Repr

namespace SamplingStrategy

def name : SamplingStrategy → String
  | generic => "generic"
  | bigQuery => "bigquery"

def forDialect : Dialect → SamplingStrategy
  | .bigQuery => bigQuery
  | _ => generic

end SamplingStrategy

def defaultSampleDataCount : Nat := 50

structure SamplerOptions where
  sampleConfig : Option SampleConfig := none
  partition : Option Partition := none
  sampleQuery : Option String := none
  storageConfig : Option StorageConfig := none
  sampleDataCount : Nat := defaultSampleDataCount

structure Sampler where
  table : Table
  dialect : Dialect
  sampleConfig : Option SampleConfig
  partition : Option Partition
  sampleQuery : Option String
  storageConfig : Option StorageConfig
  sampleDataCount : Nat
  strategy : SamplingStrategy

def randomLabel : String := "random"

def validateEach (validate : α → Except ConfigurationError Unit) :
    Option α → Except ConfigurationError Unit
  | none => .ok ()
  | some a => validate a

namespace Sampler

/-- A sampler with a strategy of the caller's choice, if its configuration is valid. -/
def withStrategy (strategy : SamplingStrategy) (dialect : Dialect) (table : Table)
    (options : SamplerOptions) : Except ConfigurationError Sampler := do
  validateEach SampleConfig.validate options.sampleConfig
  validateEach Partition.validate options.partition
  return {
    table, dialect, strategy
    sampleConfig := options.sampleConfig
    partition := options.partition
    sampleQuery := options.sampleQuery.bind normalizeCustomQuery
    storageConfig := options.storageConfig
    sampleDataCount := options.sampleDataCount }

def create (dialect : Dialect) (table : Table) (options : SamplerOptions) :
    Except ConfigurationError Sampler :=
  withStrategy (.forDialect dialect) dialect table options

def requireSampleConfig (s : Sampler) : Except ConfigurationError SampleConfig :=
  match s.sampleConfig with
  | none => .error (.noSample s.table.label)
  | some config => do
    config.validate
    return config

/-! ### The base of a sample -/

def resolveColumn (table : Table) (name : String) : Except ConfigurationError Column :=
  match table.column? name with
  | some column => .ok column
  | none => .error (.columnMissing name table.label)

/-- The name in front of the first dot, if there is a dot. -/
def parentName? (name : String) : Option String :=
  if name.toList.contains '.' then some (String.ofList (name.toList.takeWhile (· != '.')))
  else none

/-- The column that is sampled for a name: of a nested field its parent, which is a struct if the
table does not know it. -/
def sampledColumn (strategy : SamplingStrategy) (table : Table) (name : String) :
    Except ConfigurationError Column :=
  match strategy, parentName? name with
  | .bigQuery, some parent => .ok ((table.column? parent).getD ⟨parent, .struct⟩)
  | _, _ => resolveColumn table name

/-- The columns of a sample of one column: the partition's column stays with it. -/
def columnsBeside (s : Sampler) (column : Column) : List Column :=
  match s.partition.bind fun p => s.table.column? p.column with
  | some c => if column.name = c.name then [column] else [column, c]
  | none => [column]

def baseColumns (s : Sampler) : Option Column → List Column
  | some column => s.columnsBeside column
  | none => s.table.columns

def baseProjection (s : Sampler) : Option Column → List Expr
  | some column => (s.columnsBeside column).map fun c => .column c.name
  | none => [.wildcard]

/-- The select that a sample is drawn from, narrowed to the partition. A label adds a column. -/
def baseQuery (s : Sampler) (column : Option Column) (label : Option Expr) (now : Instant) :
    Except ConfigurationError SampleFragment := do
  let labels := label.toList.map fun e => Expr.named e randomLabel
  let query := (Select.ofProjection (s.baseProjection column ++ labels)).withSource
    (.ofTable s.table)
  let columns := s.baseColumns column ++ labels.map fun _ => ⟨randomLabel, .float⟩
  match s.partition with
  | none => return ⟨query, columns⟩
  | some p => return ⟨query.filter (← p.predicateAt s.table.columns now), columns⟩

def buildSampleQuery (s : Sampler) (column : Option String) (label : Option Expr)
    (now : Instant) : Except ConfigurationError SampleFragment := do
  let column ← match column with
    | none => pure none
    | some name => some <$> sampledColumn s.strategy s.table name
  s.baseQuery column label now

/-! ### Samples -/

def sampleName (table : Table) : String := table.name ++ "_sample"

def taggedName (table : Table) : String := table.name ++ "_rnd"

def taggedSample (s : Sampler) (config : SampleConfig) (column : Option String) (now : Instant) :
    Except ConfigurationError SampleSource := do
  let name := sampleName s.table
  match config with
  | .percentage percent =>
    let tagged := taggedName s.table
    let fragment ← s.buildSampleQuery column (some (Expr.random.multiply (.int 100))) now
    let kept := ((Select.ofProjection []).withSource (.cte tagged)).filter
      ((Expr.column randomLabel).ltEq (.literal (.float percent)))
    return ⟨name, [⟨tagged, fragment.query⟩, ⟨name, kept⟩], fragment.columns⟩
  | .rows count =>
    let fragment ← s.buildSampleQuery column (some .random) now
    let first := (fragment.query.withOrderBy [⟨.column randomLabel, true⟩]).withLimit count
    return ⟨name, [⟨name, first⟩], fragment.columns⟩

def getSampleQuery (s : Sampler) (column : Option String) (now : Instant) :
    Except ConfigurationError SampleSource := do
  let config ← s.requireSampleConfig
  match s.strategy, config with
  | .bigQuery, .percentage percent =>
    if s.table.isView then s.taggedSample config column now
    else do
      let fragment ← s.buildSampleQuery column none now
      let name := sampleName s.table
      let query := fragment.query.withTableSample (.systemPercent percent)
      return ⟨name, [⟨name, query⟩], fragment.columns⟩
  | _, _ => s.taggedSample config column now

/-- What a runner samples. A custom query, no configuration and the whole table are no sample. -/
def randomSample (s : Sampler) (now : Instant) : Except ConfigurationError SampleHandle :=
  match s.sampleQuery, s.sampleConfig with
  | none, some config =>
    if config.isFullTable then .ok .noSample
    else .sampled <$> s.getSampleQuery none now
  | _, _ => .ok .noSample

/-- The statement of a preview: the first rows of the resolved target, narrowed to the partition
unless the sample already is. -/
def previewQuery (s : Sampler) (columns : List String) (now : Instant) :
    Except ConfigurationError Select := do
  let sample ← s.randomSample now
  let target := QueryTarget.resolve s.table s.sampleQuery sample.source?
  let query := target.select (columns.map .column)
  let query ← match target.kind, s.partition with
    | .sample, _ | _, none => pure query
    | _, some p => query.filter <$> p.predicateAt target.columns now
  return query.withLimit s.sampleDataCount

end Sampler

end Profiling
