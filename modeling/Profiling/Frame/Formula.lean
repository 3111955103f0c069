import Profiling.Frame.Basic
import Profiling.Frame.FloatSum
import Profiling.Frame.Query

/-!
# Formulas

A formula over a frame is a column of cells (`Formula.cells?`), in the logic of three truth values.
A column of one cell stands for as many cells as are needed beside another. There is no column if
one of its cells cannot be computed, or if the parts do not fit together.
-/

namespace Profiling.Frame

/-- A truth value, or neither. -/
abbrev Truth := Option Bool

namespace Truth

def and : Truth → Truth → Truth
  | some false, _ => some false
  | _, some false => some false
  | some true, some true => some true
  | _, _ => none

def or : Truth → Truth → Truth
  | some true, _ => some true
  | _, some true => some true
  | some false, some false => some false
  | _, _ => none

def not (t : Truth) : Truth := t.map (!·)

end Truth

def Comparison.holds : Comparison → Ordering → Bool
  | eq, o => o == .eq
  | notEq, o => o != .eq
  | lt, o => o == .lt
  | ltEq, o => o != .gt
  | gt, o => o == .gt
  | gtEq, o => o != .lt

namespace Arithmetic

/-- The operation on integers. There is no quotient by zero. -/
def onInts? : Arithmetic → Int → Int → Option Int
  | plus, a, b => some (a + b)
  | minus, a, b => some (a - b)
  | multiply, a, b => some (a * b)
  | divide, a, b => if b = 0 then none else some (a.tdiv b)
  | modulo, a, b => if b = 0 then none else some (a.fmod b)

def onFloats : Arithmetic → Float → Float → Float
  | plus, a, b => a + b
  | minus, a, b => a - b
  | multiply, a, b => a * b
  | divide, a, b => a / b
  | modulo, a, b => a - b * (a / b).floor

end Arithmetic

namespace Cell

def ofTruth : Truth → Cell
  | some b => bool b
  | none => null

def truth : Cell → Truth
  | bool b => some b
  | _ => none

/-- The truth of a comparison, which is neither with a null. -/
def compareBy (op : Comparison) (a b : Cell) : Cell :=
  ofTruth ((a.order? b).map op.holds)

def calculate (op : Arithmetic) (type : CellType) : Cell → Cell → Cell
  | int a, int b => ((op.onInts? a b).map fun n => int (type.wrap n)).getD null
  | float a, float b =>
    let x := op.onFloats a b
    float (if type = .float32 then toSingle x else x)
  | _, _ => null

/-- Whether a cell is among others, which is neither for a null. -/
def isIn (items : List Cell) (c : Cell) : Cell :=
  if c == null then null else bool (items.any c.same)

/-- Whether a text is of the form of a pattern, where `%` stands for any text and `_` for any one
character, within a line. -/
def matchesLike : (pattern text : List Char) → Bool
  | [], text => text.isEmpty
  | '%' :: ps, [] => matchesLike ps []
  | '%' :: ps, c :: cs => matchesLike ps (c :: cs) || (c != '\n' && matchesLike ('%' :: ps) cs)
  | _ :: _, [] => false
  | p :: ps, c :: cs => (if p = '_' then c != '\n' else p = c) && matchesLike ps cs
termination_by pattern text => (text.length, pattern.length)

def like (pattern : List Char) : Cell → Cell
  | string s => bool (matchesLike pattern s.toList)
  | _ => null

/-! ### Aggregates -/

def addUp (add : Float → Float → Float) : List Float → Float
  | [] => 0
  | x :: rest => rest.foldl add x

/-- The sum of cells of a type, if the type has sums. Where all rows are one group, a null counts
as a zero, and the sum of a type without sums fails. -/
def sum? (whole : Bool) (type : CellType) (cells : List Cell) : Option Cell :=
  let total := (cells.filterMap toInt?).foldl (· + ·) 0
  let addFloats (add : Float → Float → Float) : Float :=
    if whole then floatSum add (cells.map fun c => c.toFloat?.getD 0)
    else addUp add (cells.filterMap toFloat?)
  match type with
  | .float64 => some (float (addFloats (· + ·)))
  | .float32 => some (float (addFloats fun a b => toSingle (a + b)))
  | .int bits => some (int (CellType.wrap (.int (if bits < 32 then 64 else bits)) total))
  | .uint bits => some (int (CellType.wrap (.uint bits) total))
  | .boolean => some (int total)
  | .string => some null
  | .date | .dateTime _ | .null => if whole then none else some null

/-- The cell that comes first in an order, among those that are numbers or texts. Of several the
last one counts, which tells the zeros of both signs apart. -/
def extreme (o : Ordering) (cells : List Cell) : Cell :=
  let isNaN : Cell → Bool := fun | float x => x.isNaN | _ => false
  let cells := cells.filter (· != null)
  let numbers := cells.filter fun c => !isNaN c
  match (if numbers.isEmpty then cells else numbers) with
  | [] => null
  | c :: rest => rest.foldl (fun best c => if best.order? c == some o then best else c) c

end Cell

inductive Aggregate where
  | count
  | sum
  | min
  | max
deriving DecidableEq, Repr

/-- The aggregate of cells of a type, over all rows or over a group of them. -/
def Aggregate.ofCells? (f : Aggregate) (whole : Bool) (type : CellType) (cells : List Cell) :
    Option Cell :=
  match f with
  | .count => some (.int (cells.filter (· != .null)).length)
  | .sum => Cell.sum? whole type cells
  | .min => if whole && type = .null then none else some (Cell.extreme .lt cells)
  | .max => if whole && type = .null then none else some (Cell.extreme .gt cells)

inductive Formula where
  | column (name : String)
  | constant (c : Cell)
  | failure
  | convert (source target : CellType) (f : Formula)
  | cast (source target : CellType) (f : Formula)
  | compare (op : Comparison) (left right : Formula)
  | calculate (op : Arithmetic) (type : CellType) (left right : Formula)
  | and (left right : Formula)
  | or (left right : Formula)
  | not (f : Formula)
  | isNull (f : Formula)
  | isIn (f : Formula) (items : List Cell)
  | isLike (f : Formula) (pattern : List Char)
  | rowCount
  | aggregate (a : Aggregate) (type : CellType) (f : Formula)

def pairUp? (g : Cell → Cell → Cell) : List Cell → List Cell → Option (List Cell)
  | [a], bs => some (bs.map (g a))
  | as, [b] => some (as.map (g · b))
  | as, bs => if as.length = bs.length then some (List.zipWith g as bs) else none

namespace Formula

/-- The column of a formula over a frame, whose rows are all rows (`whole`) or a group of them. -/
def cells? (whole : Bool) (f : Frame) : Formula → Option (List Cell)
  | column n => (f.column? n).map (·.cells)
  | constant c => some [c]
  | failure => none
  | convert source target a => return (← cells? whole f a).map (Cell.convert source target)
  | cast source target a => do (← cells? whole f a).mapM (Cell.cast? source target)
  | compare op a b => do pairUp? (Cell.compareBy op) (← cells? whole f a) (← cells? whole f b)
  | calculate op type a b => do
    pairUp? (Cell.calculate op type) (← cells? whole f a) (← cells? whole f b)
  | and a b => do
    pairUp? (fun x y => .ofTruth (Truth.and x.truth y.truth)) (← cells? whole f a)
      (← cells? whole f b)
  | or a b => do
    pairUp? (fun x y => .ofTruth (Truth.or x.truth y.truth)) (← cells? whole f a)
      (← cells? whole f b)
  | not a => return (← cells? whole f a).map fun x => .ofTruth (Truth.not x.truth)
  | isNull a => return (← cells? whole f a).map fun x => .bool (x == .null)
  | isIn a items => return (← cells? whole f a).map (Cell.isIn items)
  | isLike a pattern => return (← cells? whole f a).map (Cell.like pattern)
  | rowCount => some [.int f.height]
  | aggregate a type e => do return [← a.ofCells? whole type (← cells? whole f e)]

/-- Whether a formula has one cell because of what it is. -/
def isScalar : Formula → Bool
  | column _ => false
  | constant _ | failure | rowCount | aggregate .. => true
  | compare _ a b | calculate _ _ a b | and a b | or a b => isScalar a && isScalar b
  | convert _ _ f | cast _ _ f | not f | isNull f | isIn f _ | isLike f _ => isScalar f

/-- Whether each cell of a formula depends on one row at most. -/
def isRowwise : Formula → Bool
  | column _ | constant _ | failure => true
  | rowCount | aggregate .. => false
  | compare _ a b | calculate _ _ a b | and a b | or a b => isRowwise a && isRowwise b
  | convert _ _ f | cast _ _ f | not f | isNull f | isIn f _ | isLike f _ => isRowwise f

def columns : Formula → List String
  | column n => [n]
  | constant _ | failure | rowCount => []
  | compare _ a b | calculate _ _ a b | and a b | or a b => columns a ++ columns b
  | convert _ _ f | cast _ _ f | not f | isNull f | isIn f _ | isLike f _ | aggregate _ _ f =>
    columns f

def rename (g : String → String) : Formula → Formula
  | column n => column (g n)
  | constant c => constant c
  | failure => failure
  | convert source target f => convert source target (rename g f)
  | cast source target f => cast source target (rename g f)
  | compare op a b => compare op (rename g a) (rename g b)
  | calculate op type a b => calculate op type (rename g a) (rename g b)
  | and a b => and (rename g a) (rename g b)
  | or a b => or (rename g a) (rename g b)
  | not f => not (rename g f)
  | isNull f => isNull (rename g f)
  | isIn f items => isIn (rename g f) items
  | isLike f pattern => isLike (rename g f) pattern
  | rowCount => rowCount
  | aggregate a type f => aggregate a type (rename g f)

end Formula

end Profiling.Frame
