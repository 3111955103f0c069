import Profiling.Proofs.Sql.Lexeme
import Profiling.Proofs.Sql.Parts

/-!
# Forms of expressions

The form of an expression is what its text shows of it: a conjunction of one term is that term, a
float is its digits, a random number is what the dialect writes for it. `Form.read` reads a form
from a text and gives what follows it.
-/

namespace Profiling

open Text

inductive Form where
  | name (text : List Char)
  | wildcard
  /-- A number or a constant. -/
  | word (text : List Char)
  | string (text : List Char)
  /-- A text in quotes behind the word that tells how to read it. -/
  | tagged (tag text : List Char)
  | call (name : List Char) (args : List Form)
  | binary (op : BinaryOp) (a b : Form)
  /-- Two or more terms with `AND` or with `OR` between them. -/
  | joined (conjunction : Bool) (terms : List Form)
  | not (f : Form)
  | inList (f : Form) (items : List Form) (negated : Bool)
  | between (f low high : Form)
  | isNull (f : Form) (negated : Bool)
  | named (f : Form) (name : List Char)

def Literal.form : Literal → Form
  | null => .word ['N', 'U', 'L', 'L']
  | bool true => .word ['T', 'R', 'U', 'E']
  | bool false => .word ['F', 'A', 'L', 'S', 'E']
  | int n => .word (intText n)
  | float x => .word (floatText x)
  | string s => .string s.toList
  | date day => .tagged ['D', 'A', 'T', 'E'] day.text
  | timestamp t => .tagged ['T', 'I', 'M', 'E', 'S', 'T', 'A', 'M', 'P'] t.text

/-- The form of a random number: a call, or the column that stands for it. -/
def Dialect.randomForm : Dialect → Form
  | bigQuery => .call ['R', 'A', 'N', 'D'] []
  | generic | postgres => .call ['R', 'A', 'N', 'D', 'O', 'M'] []
  | polars => .name randomColumn.toList

/-- The form of terms that are joined: no term is a constant, and one stands for itself. -/
def Form.ofTerms (conjunction : Bool) : List Form → Form
  | [] => (Literal.bool conjunction).form
  | [f] => f
  | fs => .joined conjunction fs

namespace Expr

mutual

/-- What the text of an expression shows of it. -/
def form (d : Dialect) : Expr → Form
  | column name => .name name.toList
  | wildcard => .wildcard
  | literal value => value.form
  | random => d.randomForm
  | call name args => .call name.toList (forms d args)
  | binary op a b => .binary op (form d a) (form d b)
  | all terms => .ofTerms true (forms d terms)
  | any terms => .ofTerms false (forms d terms)
  | not e => .not (form d e)
  | inList e items negated => .inList (form d e) (forms d items) negated
  | between e low high => .between (form d e) (form d low) (form d high)
  | isNull e negated => .isNull (form d e) negated
  | named e name => .named (form d e) name.toList

def forms (d : Dialect) : List Expr → List Form
  | [] => []
  | e :: es => form d e :: forms d es

end

theorem forms_eq_map (d : Dialect) (es : List Expr) : forms d es = es.map (form d) := by
  induction es with
  | nil => rfl
  | cons e es ih => simp [forms, ih]

end Expr

/-! ### Reading -/

def BinaryOp.list : List BinaryOp :=
  [eq, notEq, lt, ltEq, gt, gtEq, plus, minus, multiply, divide, modulo, like]

/-- What follows `p` at the start of a text. -/
def skip? : (p s : List Char) → Option (List Char)
  | [], s => some s
  | _ :: _, [] => none
  | c :: p, x :: s => if c = x then skip? p s else none

abbrev Reader (α : Type) := List Char → Option (α × List Char)

namespace Form

/-- Reads items with `sep` between them, one at least, up to a closing bracket. -/
def readMore (sub : Reader Form) (sep : List Char) : (fuel : Nat) → Reader (List Form)
  | 0, _ => none
  | n + 1, s => do
    let (f, s) ← sub s
    match skip? [')'] s with
    | some s => return ([f], s)
    | none =>
      let s ← skip? sep s
      let (fs, s) ← readMore sub sep n s
      return (f :: fs, s)

def readItems (sub : Reader Form) (n : Nat) : Reader (List Form) := fun s =>
  match skip? [')'] s with
  | some s => some ([], s)
  | none => readMore sub [',', ' '] n s

/-- Reads the further terms of a conjunction or a disjunction. -/
def readJoined (sub : Reader Form) (n : Nat) (conjunction : Bool) (f : Form) : Reader Form := fun s => do
  let (fs, s) ← readMore sub (if conjunction then " AND ".toList else " OR ".toList) n s
  return (.joined conjunction (f :: fs), s)

def readList (sub : Reader Form) (n : Nat) (negated : Bool) (f : Form) : Reader Form := fun s => do
  let s ← skip? ['('] s
  let (items, s) ← readItems sub n s
  let s ← skip? [')'] s
  return (.inList f items negated, s)

def readBounds (sub : Reader Form) (f : Form) : Reader Form := fun s => do
  let (low, s) ← sub s
  let s ← skip? " AND ".toList s
  let (high, s) ← sub s
  let s ← skip? [')'] s
  return (.between f low high, s)

def readRight (sub : Reader Form) (symbol : List Char) (f : Form) : Reader Form := fun s => do
  let op ← BinaryOp.list.find? (·.symbol == symbol)
  let (g, s) ← sub s
  let s ← skip? [')'] s
  return (.binary op f g, s)

/-- Reads on behind the first form in brackets and the word that follows it. -/
def readWord (sub : Reader Form) (n : Nat) (f : Form) (word : List Char) : Reader Form := fun s =>
  if word = "AND".toList then readJoined sub n true f s
  else if word = "OR".toList then readJoined sub n false f s
  else if word = "IN".toList then readList sub n false f s
  else if word = "BETWEEN".toList then readBounds sub f s
  else if word = "NOT".toList then (skip? "IN ".toList s).bind (readList sub n true f)
  else if word = "IS".toList then
    match skip? "NULL)".toList s with
    | some s => some (.isNull f false, s)
    | none => (skip? "NOT NULL)".toList s).map fun s => (.isNull f true, s)
  else readRight sub word f s

/-- Reads what follows the first form in brackets, up to the closing one. -/
def readTail (sub : Reader Form) (n : Nat) (f : Form) : Reader Form := fun s => do
  let s ← skip? [' '] s
  let word := s.takeWhile (· != ' ')
  readWord sub n f word (s.drop (word.length + 1))

def readGroup (sub : Reader Form) (n : Nat) : Reader Form := fun s =>
  match skip? "NOT ".toList s with
  | some s => do
    let (f, s) ← sub s
    let s ← skip? [')'] s
    return (.not f, s)
  | none => do
    let (f, s) ← sub s
    readTail sub n f s

/-- Reads the arguments or the text that belong to a token. -/
def readBehind (sub : Reader Form) (n : Nat) (token : List Char) : Reader Form := fun s =>
  match skip? ['('] s with
  | some s => (readItems sub n s).map fun (args, s) => (.call token args, s)
  | none =>
    match skip? [' ', '\''] s with
    | some s => (readDoubledBody '\'' s).map fun (text, s) => (.tagged token text, s)
    | none => some (.word token, s)

def readToken (sub : Reader Form) (n : Nat) : Reader Form := fun s =>
  let token := s.takeWhile isTokenChar
  if token = [] then none else readBehind sub n token (s.drop token.length)

def readUnnamed (d : Dialect) (sub : Reader Form) (n : Nat) : Reader Form
  | [] => none
  | c :: s =>
    if c = d.nameQuote then (readDoubledBody c s).map fun (text, s) => (.name text, s)
    else if c = '\'' then (d.readString (c :: s)).map fun (text, s) => (.string text, s)
    else if c = '*' then some (.wildcard, s)
    else if c = '(' then readGroup sub n s
    else readToken sub n (c :: s)

def readNames (d : Dialect) : (fuel : Nat) → Form → List Char → Form × List Char
  | 0, f, s => (f, s)
  | n + 1, f, s =>
    match skip? (" AS ".toList ++ [d.nameQuote]) s with
    | none => (f, s)
    | some t =>
      match readDoubledBody d.nameQuote t with
      | none => (f, s)
      | some (text, t) => readNames d n (.named f text) t

def read (d : Dialect) : (fuel : Nat) → Reader Form
  | 0, _ => none
  | n + 1, s => (readUnnamed d (read d n) n s).map fun (f, s) => readNames d n f s

end Form

end Profiling
