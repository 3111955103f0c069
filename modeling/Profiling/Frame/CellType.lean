import Profiling.Decimal.Integer

/-!
# Types of cells

The types of frame columns. Two types meet in a third one if their cells can be compared: the wider
of two numeric types, the finer of a date and an instant, or text.
-/

namespace Profiling.Frame

inductive CellType where
  | int (bits : Nat)
  | uint (bits : Nat)
  | float32
  | float64
  | boolean
  | string
  | date
  /-- Instants in ticks of which a second has so many. -/
  | dateTime (perSecond : Nat)
  | null
deriving DecidableEq, Repr

namespace CellType

def isInteger : CellType → Bool
  | int _ | uint _ => true
  | _ => false

def isFloat : CellType → Bool
  | float32 | float64 => true
  | _ => false

def isNumeric (t : CellType) : Bool := t.isInteger || t.isFloat

def isTemporal : CellType → Bool
  | date | dateTime _ => true
  | _ => false

/-- The integer that arithmetic of the type gives for an exact result. -/
def wrap (t : CellType) (n : Int) : Int :=
  match t with
  | int bits => n.bmod (twoTo bits)
  | uint bits => n % twoTo bits
  | _ => n

def fits (t : CellType) (n : Int) : Bool :=
  match t with
  | int bits => -twoTo (bits - 1) ≤ n && n < twoTo (bits - 1)
  | uint bits => 0 ≤ n && n < twoTo bits
  | _ => false

/-- The type in which a signed and an unsigned integer type meet: one that holds both, but floats
for the widest. -/
def joinSigns (signed unsigned : Nat) : CellType :=
  if unsigned < signed then int signed
  else if unsigned < 64 then int (if unsigned < 32 then 2 * unsigned else 64)
  else float64

/-- The type in which a type meets one of floats. Single precision holds short integers only. -/
def joinFloat : CellType → Option CellType
  | int bits | uint bits => some (if bits ≤ 16 then float32 else float64)
  | boolean | date => some float32
  | dateTime _ => some float64
  | _ => none

/-- The type in which two different types meet, where the first comes before the second. -/
def joinOrdered? : CellType → CellType → Option CellType
  | null, t => some t
  | int a, int b => some (int (max a b))
  | uint a, uint b => some (uint (max a b))
  | int a, uint b => some (joinSigns a b)
  | t, float32 => joinFloat t
  | t, float64 => if t == float32 then some float64 else (joinFloat t).map fun _ => float64
  | boolean, t => if t.isNumeric || t == string then some t else none
  | int _, string | uint _, string | float32, string | float64, string => some string
  | date, int bits => if bits < 32 then none else some (int bits)
  | date, uint bits => if bits < 32 then none else some (int 64)
  | date, dateTime p => some (dateTime p)
  | dateTime _, int bits | dateTime _, uint bits => if bits < 32 then none else some (int 64)
  | dateTime p, dateTime q => some (dateTime (min p q))
  | _, _ => none

/-- The type in which the cells of two types meet, if they do. -/
def join? (a b : CellType) : Option CellType :=
  if a = b then some a else (joinOrdered? a b).or (joinOrdered? b a)

end CellType

end Profiling.Frame
