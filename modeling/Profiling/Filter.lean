import Profiling.Json.Decoder
import Profiling.Sql.Select

/-!
# Filters

Conditions on columns as a caller states them, joined by AND or by OR, and the expression they
stand for.
-/

namespace Profiling

inductive FilterOp where
  | eq
  | ne
  | gt
  | ge
  | lt
  | le
  | isIn
  | notIn
  | like
  | isNull
  | isNotNull
deriving DecidableEq, Repr

namespace FilterOp

def label : FilterOp → String
  | eq => "eq"
  | ne => "ne"
  | gt => "gt"
  | ge => "ge"
  | lt => "lt"
  | le => "le"
  | isIn => "in"
  | notIn => "not_in"
  | like => "like"
  | isNull => "is_null"
  | isNotNull => "is_not_null"

def all : List FilterOp :=
  [eq, ne, gt, ge, lt, le, isIn, notIn, like, isNull, isNotNull]

def decode (origin : Origin) : Document → Except Fault FilterOp :=
  Document.asName origin (all.map fun op => (op.label, op))

end FilterOp

structure FilterCondition where
  column : String
  op : FilterOp
  value : Json

namespace FilterCondition

/-- The values of a list condition; a value that is no list is the only one. -/
def items : Json → List Expr
  | .arr values => values.map fun v => .literal (.ofJson v)
  | v => [.literal (.ofJson v)]

def expr (c : FilterCondition) : Expr :=
  let column := Expr.column c.column
  let scalar := Expr.literal (.ofJson c.value)
  match c.op with
  | .eq => column.eq scalar
  | .ne => column.notEq scalar
  | .gt => column.gt scalar
  | .ge => column.gtEq scalar
  | .lt => column.lt scalar
  | .le => column.ltEq scalar
  | .isIn => .inList column (items c.value) false
  | .notIn => .inList column (items c.value) true
  | .like => column.like scalar
  | .isNull => .isNull column false
  | .isNotNull => .isNull column true

def toJson (c : FilterCondition) : Json :=
  .obj [("column", .str c.column), ("op", .str c.op.label), ("value", c.value)]

def fields (origin : Origin) : List (Field FilterCondition) :=
  [.needed "column" Document.asString fun c column => { c with column },
   .needed "op" (FilterOp.decode origin) fun c op => { c with op },
   .defaulted "value" Document.toJson fun c value => { c with value }]

def decode (origin : Origin) : Document → Except Fault FilterCondition :=
  Document.asRecord origin (fields origin) ⟨"", .eq, .null⟩

end FilterCondition

/-- Conditions of which all must hold, or any one if `anyOf`. -/
structure Filter where
  conditions : List FilterCondition
  anyOf : Bool

namespace Filter

/-- The expression of a filter; `none` if it has no condition. -/
def expr? (f : Filter) : Option Expr :=
  match f.conditions with
  | [] => none
  | c :: cs =>
    some (cs.foldl (fun e c => if f.anyOf then e.or c.expr else e.and c.expr) c.expr)

def toJson (f : Filter) : Json :=
  .obj [("filters", .arr (f.conditions.map FilterCondition.toJson)), ("or_filter", .bool f.anyOf)]

def fields (origin : Origin) : List (Field Filter) :=
  [.defaulted "filters" (Document.asList (FilterCondition.decode origin))
    fun f conditions => { f with conditions },
   .defaulted "or_filter" Document.asBool fun f anyOf => { f with anyOf }]

def decode (origin : Origin) : Document → Except Fault Filter :=
  Document.asRecord origin (fields origin) ⟨[], false⟩

end Filter

structure QueryArgs where
  filter : Option Filter := none
  groupBy : List Expr := []
  orderBy : List OrderBy := []

def QueryArgs.condition? (a : QueryArgs) : Option Expr :=
  a.filter.bind Filter.expr?

end Profiling
