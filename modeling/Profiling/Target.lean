import Profiling.Sample.Source
import Profiling.Text.Blank

/-!
# Query targets

What a query reads: a custom query if there is one, else a sample if one is bound, else the table.
-/

namespace Profiling

inductive TargetKind where
  | table
  | sample
  | customQuery
deriving DecidableEq, Repr

inductive QueryTarget where
  | table (table : Table)
  | sample (source : SampleSource)
  /-- The text of a query, with the columns of the table it stands for. -/
  | customQuery (sql : String) (table : Table)

def customQueryAlias : String := "subquery"

/-- The text of a custom query without blanks around it and semicolons behind it; `none` if
nothing is left. -/
def normalizeCustomQuery (sql : String) : Option String :=
  let s := Text.trim sql.toList
  let s := Text.dropTailWhile Text.isBlank (Text.dropTailWhile (· == ';') s)
  if s.isEmpty then none else some (String.ofList s)

namespace QueryTarget

def resolve (table : Table) (customQuery : Option String) (sample : Option SampleSource) :
    QueryTarget :=
  match customQuery, sample with
  | some sql, _ => .customQuery sql table
  | none, some source => .sample source
  | none, none => .table table

def kind : QueryTarget → TargetKind
  | table _ => .table
  | sample _ => .sample
  | customQuery .. => .customQuery

def columns : QueryTarget → List Column
  | table t => t.columns
  | sample source => source.columns
  | customQuery _ t => t.columns

def select (target : QueryTarget) (entities : List Expr) : Select :=
  let q := Select.ofProjection entities
  match target with
  | table t => q.withSource (.ofTable t)
  | sample source => (q.withCtes source.ctes).withSource (.cte source.name)
  | customQuery sql _ => q.withSource (.subquery sql customQueryAlias)

end QueryTarget

end Profiling
