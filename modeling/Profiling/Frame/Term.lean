import Profiling.Frame.Formula
import Profiling.Frame.NamePattern

/-!
# Terms

A term names the columns that it takes its values from. `Term.resolve?` finds them in a header and
gives the formula of the term there, with its type: the cells of two types are converted to the one
in which they meet. What does not fit together has a formula that fails, except where a text is
compared with a date or an instant, and where a list has items of another type: then there is no
formula.
-/

namespace Profiling.Frame

inductive Term where
  | column (name : String)
  | value (cell : Cell) (type : CellType)
  | failure (type : CellType)
  | compare (op : Comparison) (left right : Term)
  | calculate (op : Arithmetic) (left right : Term)
  | and (left right : Term)
  | or (left right : Term)
  | not (t : Term)
  | isNull (t : Term)
  /-- Whether the value is among cells of a type, none of which is a null. -/
  | isIn (t : Term) (type : CellType) (items : List Cell)
  | isLike (t : Term) (pattern : List Char)
  | rowCount
  | aggregate (a : Aggregate) (t : Term)
  | cast (t : Term) (type : CellType)

/-- What a term is over the columns of a header. It has no type if its columns are not there. -/
structure Resolved where
  type : Option CellType
  formula : Formula

namespace Resolved

def typed (type : CellType) (f : Formula) : Resolved := ⟨some type, f⟩

def failing (type : Option CellType) : Resolved := ⟨type, .failure⟩

end Resolved

namespace Formula

/-- A formula of one type as one of another. Where texts are wanted, a truth value that is written
out is `1` or `0`. -/
def asType (source target : CellType) (f : Formula) : Formula :=
  if source = target then f
  else match f, target with
    | .constant (.bool b), .string => .constant (.string (if b then "1" else "0"))
    | f, target => .convert source target f

end Formula

namespace Term

/-- The type of a number that is written out beside a column of another type: that of the column,
if it has the number. -/
def literalMeet? (literal : Cell) (type other : CellType) : Option CellType :=
  match literal with
  | .int n =>
    if other.isFloat || other.fits n then some other
    else if other.isInteger || other = .boolean || other.isTemporal || other = .null then
      some (.int 64)
    else none
  | .float _ =>
    if other.isFloat then some other
    else if other.isInteger || other = .boolean || other.isTemporal || other = .null then
      some .float64
    else none
  | _ => type.join? other

/-- The value of a term that is one, written out. -/
def literal? : Term → Option Cell
  | value c _ => some c
  | _ => none

/-- The type in which the values of two terms of the given types meet. Numbers and texts do not. -/
def meet? (a b : Term) (s t : CellType) : Option CellType :=
  if (s.isNumeric && t = .string) || (s = .string && t.isNumeric) then none
  else match a.literal?, b.literal? with
    | some c, none => literalMeet? c s t
    | none, some c => literalMeet? c t s
    | _, _ => s.join? t

def compareResolved? (op : Comparison) (a b : Term) (x y : Resolved) : Option Resolved :=
  match x.type, y.type with
  | some s, some t =>
    if (s.isTemporal && t = .string) || (s = .string && t.isTemporal) then none
    else match meet? a b s t with
      | some m => some (.typed .boolean (.compare op (x.formula.asType s m) (y.formula.asType t m)))
      | none => some (.failing (some .boolean))
  | some _, none => some (.failing (some .boolean))
  | none, _ => some (.failing none)

def calculateResolved (op : Arithmetic) (a b : Term) (x y : Resolved) : Resolved :=
  match x.type, y.type with
  | some s, some t =>
    match meet? a b s t with
    | some m =>
      if m.isNumeric then .typed m (.calculate op m (x.formula.asType s m) (y.formula.asType t m))
      else .failing (some m)
    | none => .failing (some s)
  | _, _ => .failing none

def isTruth (t : Option CellType) : Bool := t = some .boolean || t = some .null

def join (f : Formula → Formula → Formula) (x y : Resolved) : Resolved :=
  if isTruth x.type && isTruth y.type then .typed .boolean (f x.formula y.formula)
  else .failing (x.type.map fun _ => .boolean)

def isInResolved? (type : CellType) (items : List Cell) (x : Resolved) : Option Resolved :=
  match x.type with
  | none => some (.failing none)
  | some s =>
    if type = .null || s = .null || s = type then some (.typed .boolean (.isIn x.formula items))
    else if s.isNumeric && type.isNumeric then do
      let m ← s.join? type
      return .typed .boolean (.isIn (x.formula.asType s m) (items.map (Cell.convert type m)))
    else none

def aggregateType (a : Aggregate) (t : CellType) : CellType :=
  match a, t with
  | .count, _ => .uint 32
  | .sum, .int bits => .int (if bits < 32 then 64 else bits)
  | .sum, .boolean => .uint 32
  | _, t => t

/-- The formula of a term over the columns of a header. -/
def resolve? (h : Header) : Term → Option Resolved
  | column n => some ⟨h.lookup n, .column n⟩
  | value cell type => some (.typed type (.constant cell))
  | failure type => some (.failing (some type))
  | compare op a b => do compareResolved? op a b (← resolve? h a) (← resolve? h b)
  | calculate op a b => return calculateResolved op a b (← resolve? h a) (← resolve? h b)
  | and a b => return join .and (← resolve? h a) (← resolve? h b)
  | or a b => return join .or (← resolve? h a) (← resolve? h b)
  | not t => do
    let x ← resolve? h t
    return if x.type = some .boolean then .typed .boolean (.not x.formula)
      else .failing (x.type.map fun _ => .boolean)
  | isNull t => do
    let x ← resolve? h t
    return ⟨x.type.map fun _ => .boolean, .isNull x.formula⟩
  | isIn t type items => do isInResolved? type items (← resolve? h t)
  | isLike t pattern => do
    let x ← resolve? h t
    return match x.type with
      | some s => .typed .boolean (.isLike (x.formula.asType s .string) pattern)
      | none => .failing none
  | rowCount => some (.typed (.uint 32) .rowCount)
  | aggregate a t => do
    let x ← resolve? h t
    return match x.type with
      | some s => .typed (aggregateType a s) (.aggregate a s x.formula)
      | none => .failing none
  | cast t type => do
    let x ← resolve? h t
    return match x.type with
      | some s => if Cell.castable s type then .typed type (.cast s type x.formula)
        else .failing (some type)
      | none => .failing none

/-- The name of a column without label: that of its first column, `len` for a number of rows. -/
def name : Term → String
  | column n => n
  | value .. | failure _ => "literal"
  | rowCount => "len"
  | compare _ t _ | calculate _ t _ | and t _ | or t _ | not t | isNull t | isIn t _ _
  | isLike t _ | aggregate _ t | cast t _ => name t

def columns : Term → List String
  | column n => [n]
  | value .. | failure _ | rowCount => []
  | compare _ a b | calculate _ a b | and a b | or a b => columns a ++ columns b
  | not t | isNull t | isIn t _ _ | isLike t _ | aggregate _ t | cast t _ => columns t

def rename (old new : String) : Term → Term
  | column n => column (if n = old then new else n)
  | compare op a b => compare op (rename old new a) (rename old new b)
  | calculate op a b => calculate op (rename old new a) (rename old new b)
  | and a b => and (rename old new a) (rename old new b)
  | or a b => or (rename old new a) (rename old new b)
  | not t => not (rename old new t)
  | isNull t => isNull (rename old new t)
  | isIn t type items => isIn (rename old new t) type items
  | isLike t pattern => isLike (rename old new t) pattern
  | aggregate a t => aggregate a (rename old new t)
  | cast t type => cast (rename old new t) type
  | t => t

/-- The name that stands for all columns. -/
def everyColumn : String := "*"

/-- The terms that a term stands for over columns of the given names, if it names them all at once
or by a pattern. -/
def expand? (names : List String) (t : Term) : Option (List Term) :=
  if t.columns.contains everyColumn then some (names.map fun n => t.rename everyColumn n)
  else match t.columns.filter isNamePattern with
    | [] => some [t]
    | text :: others =>
      if others.all (· == text) then do
        let p ← NamePattern.ofText? text
        return (names.filter p.isIn).map fun n => t.rename text n
      else none

end Term

end Profiling.Frame
