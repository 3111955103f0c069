import Profiling.Filter
import Profiling.Runner.Stream
import Profiling.Sample.Sampler

/-!
# Runners

A runner binds a table, and with it a sample, a partition and a custom query if there are any. Its
fetches differ in what they read, in how many rows they take and in whether they keep to the
partition; `Runner.statement` builds the statement for each combination.
-/

namespace Profiling

inductive Cardinality where
  | first
  | all
deriving DecidableEq, Repr

inductive SourceKind where
  /-- The table, or the custom query in its place. -/
  | table
  /-- The bound sample; as for the table if there is none. -/
  | sample
deriving DecidableEq, Repr

structure FetchPolicy where
  source : SourceKind
  cardinality : Cardinality
  applyPartition : Bool := true
deriving DecidableEq, Repr

structure Runner where
  table : Table
  sample : SampleHandle := .noSample
  partition : Option Partition := none
  customQuery : Option String := none
  timeout : Option Duration := none
  batchSize : Nat := defaultBatchSize

namespace Runner

/-- Binds a custom query; a blank text is none. -/
def withCustomQuery (r : Runner) (sql : Option String) : Runner :=
  { r with customQuery := sql.bind normalizeCustomQuery }

/-- Batches have at least one row. -/
def withBatchSize (r : Runner) (n : Nat) : Runner := { r with batchSize := max n 1 }

/-! ### Statements -/

def target (r : Runner) : SourceKind → QueryTarget
  | .table => .resolve r.table r.customQuery none
  | .sample => .resolve r.table r.customQuery r.sample.source?

/-- A select from the table or the custom query, without conditions. -/
def buildQuery (r : Runner) (entities : List Expr) : Select :=
  (r.target .table).select entities

/-- Adds the condition of the partition, if it applies. -/
def narrow (r : Runner) (policy : FetchPolicy) (now : Instant) (q : Select) :
    Except ConfigurationError Select :=
  match policy.applyPartition, r.partition with
  | true, some p => do return q.filter (← p.predicateAt (r.target policy.source).columns now)
  | _, _ => .ok q

def statement (r : Runner) (policy : FetchPolicy) (entities : List Expr) (args : QueryArgs)
    (now : Instant) : Except ConfigurationError Select := do
  let q := (r.target policy.source).select entities
  let q := match args.condition? with
    | some e => q.filter e
    | none => q
  let q ← r.narrow policy now q
  let q := (q.withGroupBy args.groupBy).withOrderBy args.orderBy
  return match policy.cardinality with
    | .first => q.withLimit 1
    | .all => q

/-- The policy of a fetch of one row from the sample if one is bound, and from the table if not. -/
def dispatchPolicy (r : Runner) : FetchPolicy :=
  ⟨if r.sample.isSampled then .sample else .table, .first, true⟩

/-! ### Fetches -/

def execute (r : Runner) (h : Handle σ κ) (q : Select) (st : σ) :
    Except QueryError (List Row) × σ :=
  (h.execute (q.toSql h.dialect) st).within r.timeout

/-- Runs the fetch of a policy. An error of the configuration shows before the handle is called. -/
def run (r : Runner) (h : Handle σ κ) (policy : FetchPolicy) (entities : List Expr)
    (args : QueryArgs) (now : Instant) (st : σ) : Except QueryError (List Row) × σ :=
  match r.statement policy entities args now with
  | .error cause => (.error (.configuration cause), st)
  | .ok q => r.execute h q st

def firstRow (result : Except QueryError (List Row) × σ) : Except QueryError (Option Row) × σ :=
  (result.1.map List.head?, result.2)

def selectFirstFromTable (r : Runner) (h : Handle σ κ) (entities : List Expr) (args : QueryArgs)
    (now : Instant) (st : σ) : Except QueryError (Option Row) × σ :=
  firstRow (r.run h ⟨.table, .first, true⟩ entities args now st)

def selectAllFromTable (r : Runner) (h : Handle σ κ) (entities : List Expr) (args : QueryArgs)
    (now : Instant) (st : σ) : Except QueryError (List Row) × σ :=
  r.run h ⟨.table, .all, true⟩ entities args now st

def selectFirstFromSample (r : Runner) (h : Handle σ κ) (entities : List Expr) (args : QueryArgs)
    (now : Instant) (st : σ) : Except QueryError (Option Row) × σ :=
  firstRow (r.run h ⟨.sample, .first, true⟩ entities args now st)

def selectAllFromSample (r : Runner) (h : Handle σ κ) (entities : List Expr) (args : QueryArgs)
    (now : Instant) (st : σ) : Except QueryError (List Row) × σ :=
  r.run h ⟨.sample, .all, true⟩ entities args now st

def dispatchSelectFirst (r : Runner) (h : Handle σ κ) (entities : List Expr) (args : QueryArgs)
    (now : Instant) (st : σ) : Except QueryError (Option Row) × σ :=
  firstRow (r.run h r.dispatchPolicy entities args now st)

/-- The first row of a statement, whose own limit gives way. -/
def selectFirstFromQuery (r : Runner) (h : Handle σ κ) (q : Select) (st : σ) :
    Except QueryError (Option Row) × σ :=
  firstRow (r.execute h (q.withLimit 1) st)

def selectAllFromQuery (r : Runner) (h : Handle σ κ) (q : Select) (st : σ) :
    Except QueryError (List Row) × σ :=
  r.execute h q st

/-- Opens a stream over the sample. Streams do not share a cursor. -/
def streamFromSample (r : Runner) (h : Handle σ κ) (entities : List Expr) (args : QueryArgs)
    (now : Instant) (st : σ) : Except QueryError (BatchStream κ) × σ :=
  match r.statement ⟨.sample, .all, true⟩ entities args now with
  | .error cause => (.error (.configuration cause), st)
  | .ok q =>
    let (opened, st) := (h.openCursor (q.toSql h.dialect) st).within r.timeout
    (opened.map fun cursor => .start cursor r.batchSize r.timeout, st)

end Runner

namespace Sampler

/-- The first rows of what the sampler resolves to, of some columns or of all. -/
def fetchSampleData (s : Sampler) (h : Handle σ κ) (columns : List String) (now : Instant)
    (st : σ) : Except QueryError TableData × σ :=
  match s.previewQuery columns now with
  | .error cause => (.error (.configuration cause), st)
  | .ok q =>
    let (rows, st) := (h.execute (q.toSql h.dialect) st).within none
    (rows.map (TableData.ofRows columns), st)

end Sampler

end Profiling
