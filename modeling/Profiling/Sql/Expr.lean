import Profiling.Sql.Literal

/-!
# SQL expressions

Expressions and their text. `Expr.and` and `Expr.or` join two expressions into one conjunction or
disjunction without nesting.
-/

namespace Profiling

inductive BinaryOp where
  | eq
  | notEq
  | lt
  | ltEq
  | gt
  | gtEq
  | plus
  | minus
  | multiply
  | divide
  | modulo
  | like
deriving DecidableEq, Repr

def BinaryOp.symbol : BinaryOp → List Char
  | eq => ['=']
  | notEq => ['<', '>']
  | lt => ['<']
  | ltEq => ['<', '=']
  | gt => ['>']
  | gtEq => ['>', '=']
  | plus => ['+']
  | minus => ['-']
  | multiply => ['*']
  | divide => ['/']
  | modulo => ['%']
  | like => ['L', 'I', 'K', 'E']

inductive Expr where
  | column (name : String)
  | wildcard
  | literal (value : Literal)
  /-- A random number between 0 and 1, drawn for each row. -/
  | random
  | call (name : String) (args : List Expr)
  | binary (op : BinaryOp) (left right : Expr)
  | all (terms : List Expr)
  | any (terms : List Expr)
  | not (e : Expr)
  | inList (e : Expr) (items : List Expr) (negated : Bool)
  | between (e low high : Expr)
  | isNull (e : Expr) (negated : Bool)
  | named (e : Expr) (name : String)

namespace Expr

def int (n : Int) : Expr := literal (.int n)

def eq (a b : Expr) : Expr := binary .eq a b

def notEq (a b : Expr) : Expr := binary .notEq a b

def lt (a b : Expr) : Expr := binary .lt a b

def ltEq (a b : Expr) : Expr := binary .ltEq a b

def gt (a b : Expr) : Expr := binary .gt a b

def gtEq (a b : Expr) : Expr := binary .gtEq a b

def multiply (a b : Expr) : Expr := binary .multiply a b

def modulo (a b : Expr) : Expr := binary .modulo a b

def like (a pattern : Expr) : Expr := binary .like a pattern

def countAll : Expr := call "COUNT" [wildcard]

/-- The terms of a conjunction; any other expression is its only term. -/
def conjuncts : Expr → List Expr
  | all terms => terms
  | e => [e]

/-- The terms of a disjunction; any other expression is its only term. -/
def disjuncts : Expr → List Expr
  | any terms => terms
  | e => [e]

/-- The conjunction of two expressions, their own conjunctions taken apart. -/
def and (a b : Expr) : Expr := all (a.conjuncts ++ b.conjuncts)

/-- The disjunction of two expressions, their own disjunctions taken apart. -/
def or (a b : Expr) : Expr := any (a.disjuncts ++ b.disjuncts)

/-! ### Text -/

def commaSep (parts : List (List Char)) : List Char :=
  List.intercalate [',', ' '] parts

/-- Terms with a word between them, in parentheses; no term is `empty`, one stands alone. -/
def joinTerms (word empty : String) : List (List Char) → List Char
  | [] => empty.toList
  | [t] => t
  | ts => '(' :: List.intercalate word.toList ts ++ [')']

def notWord (negated : Bool) : List Char :=
  if negated then "NOT ".toList else []

mutual

def sql (d : Dialect) : Expr → List Char
  | column name => d.ident name
  | wildcard => ['*']
  | literal value => value.sql d
  | random => d.random
  | call name args => name.toList ++ '(' :: commaSep (sqls d args) ++ [')']
  | binary op left right =>
    '(' :: sql d left ++ ' ' :: op.symbol ++ ' ' :: sql d right ++ [')']
  | all terms => joinTerms " AND " "TRUE" (sqls d terms)
  | any terms => joinTerms " OR " "FALSE" (sqls d terms)
  | not e => "(NOT ".toList ++ sql d e ++ [')']
  | inList e items negated =>
    '(' :: sql d e ++ ' ' :: notWord negated ++ "IN (".toList ++ commaSep (sqls d items) ++
      [')', ')']
  | between e low high =>
    '(' :: sql d e ++ " BETWEEN ".toList ++ sql d low ++ " AND ".toList ++ sql d high ++ [')']
  | isNull e negated =>
    '(' :: sql d e ++ " IS ".toList ++ notWord negated ++ "NULL)".toList
  | named e name => sql d e ++ " AS ".toList ++ d.ident name

def sqls (d : Dialect) : List Expr → List (List Char)
  | [] => []
  | e :: es => sql d e :: sqls d es

end

theorem sqls_eq_map (d : Dialect) (es : List Expr) : sqls d es = es.map (sql d) := by
  induction es with
  | nil => rfl
  | cons e es ih => simp [sqls, ih]

end Expr

end Profiling
