import Profiling.Sql.Expr
import Profiling.Table

/-!
# Select statements

A statement is built step by step from its projection, and written clause by clause. The query of
a common table expression is a statement itself.
-/

namespace Profiling

structure TableRef where
  schema : Option String
  name : String
deriving DecidableEq, Repr

/-- A sampling clause of a table. -/
inductive TableSample where
  | systemPercent (percent : Float)
deriving DecidableEq

inductive FromItem where
  | table (ref : TableRef) (sample : Option TableSample)
  | cte (name : String)
  | subquery (sql name : String)
deriving DecidableEq

structure OrderBy where
  expr : Expr
  ascending : Bool

mutual

/-- A select statement. No projection stands for all columns. -/
structure Select where
  ctes : List Cte
  projection : List Expr
  source : Option FromItem
  selection : Option Expr
  groupBy : List Expr
  orderBy : List OrderBy
  limit : Option Nat

structure Cte where
  name : String
  query : Select

end

/-! ### Building -/

def TableRef.ofTable (t : Table) : TableRef := ⟨t.schema, t.name⟩

def FromItem.ofTable (t : Table) : FromItem := .table (.ofTable t) none

namespace Select

def ofProjection (projection : List Expr) : Select :=
  ⟨[], projection, none, none, [], [], none⟩

def withSource (q : Select) (source : FromItem) : Select := { q with source := some source }

def withCtes (q : Select) (ctes : List Cte) : Select := { q with ctes := q.ctes ++ ctes }

def filter (q : Select) (p : Expr) : Select :=
  { q with selection := some (match q.selection with | some e => e.and p | none => p) }

def withGroupBy (q : Select) (es : List Expr) : Select := { q with groupBy := q.groupBy ++ es }

def withOrderBy (q : Select) (os : List OrderBy) : Select := { q with orderBy := q.orderBy ++ os }

def withLimit (q : Select) (n : Nat) : Select := { q with limit := some n }

/-- Samples the table that the statement reads. Other sources cannot be sampled. -/
def withTableSample (q : Select) (sample : TableSample) : Select :=
  match q.source with
  | some (.table ref _) => { q with source := some (.table ref (some sample)) }
  | _ => q

end Select

/-! ### Text -/

def TableRef.sql (d : Dialect) (t : TableRef) : List Char :=
  match t.schema with
  | some schema => d.qualified [schema, t.name]
  | none => d.ident t.name

def TableSample.sql : TableSample → List Char
  | systemPercent percent => "TABLESAMPLE SYSTEM (".toList ++ plainText percent ++ " PERCENT)".toList

def FromItem.sql (d : Dialect) : FromItem → List Char
  | table ref none => ref.sql d
  | table ref (some sample) => ref.sql d ++ ' ' :: sample.sql
  | cte name => d.ident name
  | subquery text name => '(' :: text.toList ++ ") AS ".toList ++ name.toList

def OrderBy.sql (d : Dialect) (o : OrderBy) : List Char :=
  o.expr.sql d ++ (if o.ascending then " ASC".toList else " DESC".toList)

namespace Select

def withClause : List (List Char) → List Char
  | [] => []
  | ctes => "WITH ".toList ++ Expr.commaSep ctes ++ [' ']

def projectionClause (d : Dialect) (q : Select) : List Char :=
  "SELECT ".toList ++
    (if q.projection.isEmpty then ['*'] else Expr.commaSep (q.projection.map (Expr.sql d)))

def fromClause (d : Dialect) (q : Select) : List Char :=
  match q.source with
  | some source => " FROM ".toList ++ source.sql d
  | none => []

def whereClause (d : Dialect) (q : Select) : List Char :=
  match q.selection with
  | some e => " WHERE ".toList ++ e.sql d
  | none => []

def groupByClause (d : Dialect) (q : Select) : List Char :=
  if q.groupBy.isEmpty then []
  else " GROUP BY ".toList ++ Expr.commaSep (q.groupBy.map (Expr.sql d))

def orderByClause (d : Dialect) (q : Select) : List Char :=
  if q.orderBy.isEmpty then []
  else " ORDER BY ".toList ++ Expr.commaSep (q.orderBy.map (OrderBy.sql d))

def limitClause (q : Select) : List Char :=
  match q.limit with
  | some n => " LIMIT ".toList ++ natText n
  | none => []

/-- The text of a statement behind its common table expressions. -/
def body (d : Dialect) (q : Select) : List Char :=
  q.projectionClause d ++ q.fromClause d ++ q.whereClause d ++ q.groupByClause d ++
    q.orderByClause d ++ q.limitClause

end Select

mutual

def Select.sql (d : Dialect) : Select → List Char
  | ⟨ctes, projection, source, selection, groupBy, orderBy, limit⟩ =>
    Select.withClause (Cte.sqls d ctes) ++
      Select.body d ⟨[], projection, source, selection, groupBy, orderBy, limit⟩

def Cte.sql (d : Dialect) : Cte → List Char
  | ⟨name, query⟩ => d.ident name ++ " AS (".toList ++ Select.sql d query ++ [')']

def Cte.sqls (d : Dialect) : List Cte → List (List Char)
  | [] => []
  | c :: cs => Cte.sql d c :: Cte.sqls d cs

end

theorem Cte.sqls_eq_map (d : Dialect) (cs : List Cte) : Cte.sqls d cs = cs.map (Cte.sql d) := by
  induction cs with
  | nil => rfl
  | cons c cs ih => simp [Cte.sqls, ih]

theorem Select.sql_eq (d : Dialect) (q : Select) :
    q.sql d = Select.withClause (q.ctes.map (Cte.sql d)) ++ q.body d := by
  cases q
  rw [Select.sql, Cte.sqls_eq_map]
  rfl

def Select.toSql (d : Dialect) (q : Select) : String :=
  String.ofList (q.sql d)

end Profiling
