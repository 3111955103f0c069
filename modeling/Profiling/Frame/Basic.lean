import Profiling.Frame.Cell
import Profiling.Row

/-!
# Frames

A frame is a table in memory: named, typed columns of cells. Registered frames have columns of one
height. A frame on the way to a result may have shorter ones, and then has no more rows than its
first column, some of which cannot be read.
-/

namespace Profiling

structure Frame.Series where
  name : String
  type : Frame.CellType
  cells : List Frame.Cell
deriving DecidableEq

structure Frame where
  columns : List Frame.Series
deriving DecidableEq

namespace Frame

def allDistinct : List String → Bool
  | [] => true
  | n :: rest => !rest.contains n && allDistinct rest

namespace Series

def height (s : Series) : Nat := s.cells.length

def withCells (s : Series) (cells : List Cell) : Series := { s with cells }

/-- The cells at some places. Behind the end there are nulls. -/
def take (places : List Nat) (s : Series) : Series :=
  let cells := s.cells.toArray
  s.withCells (places.map fun i => cells.getD i .null)

def slice (offset : Nat) (count : Option Nat) (s : Series) : Series :=
  let cells := s.cells.drop offset
  s.withCells (match count with | some n => cells.take n | none => cells)

end Series

def height (f : Frame) : Nat := (f.columns.head?.map Series.height).getD 0

/-- The frame of some columns. They have names of their own and the same height. -/
def ofSeries? (columns : List Series) : Option Frame :=
  let f : Frame := ⟨columns⟩
  if allDistinct (columns.map (·.name)) && columns.all (·.height == f.height) then some f else none

abbrev Header := List (String × CellType)

def header (f : Frame) : Header := f.columns.map fun s => (s.name, s.type)

def column? (f : Frame) (name : String) : Option Series := f.columns.find? (·.name == name)

/-- The frame with one more column, in place of a column of its name. -/
def put (f : Frame) (s : Series) : Frame :=
  match f.columns.findIdx? (·.name == s.name) with
  | some i => ⟨f.columns.set i s⟩
  | none => ⟨f.columns ++ [s]⟩

/-- The rows at some places. -/
def take (places : List Nat) (f : Frame) : Frame := ⟨f.columns.map (·.take places)⟩

def slice (offset : Nat) (count : Option Nat) (f : Frame) : Frame :=
  ⟨f.columns.map (·.slice offset count)⟩

/-- The frame with one more column of its height. -/
def withColumn? (f : Frame) (s : Series) : Option Frame :=
  if s.height = f.height then some (f.put s) else none

/-- The rows of a frame without the column of a name, if all of them can be read. -/
def toRows? (f : Frame) (hidden : String) : Option (List Row) :=
  let shown := f.columns.filter (·.name != hidden)
  let names := shown.map (·.name)
  let columns := shown.map (·.cells.toArray)
  (List.range f.height).mapM fun i => do
    return ⟨names, ← columns.mapM fun cells => cells[i]?.map Cell.toJson⟩

/-! ### Tables -/

abbrev Tables (π : Type) := String → Option π

/-- The tables with one under a name, in place of another of that name. -/
def Tables.put (t : Tables π) (name : String) (p : π) : Tables π :=
  fun n => if n = name then some p else t n

end Frame

end Profiling
