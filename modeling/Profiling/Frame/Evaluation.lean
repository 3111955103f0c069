import Profiling.Frame.Narrowing
import Profiling.Frame.Sinking

/-!
# Evaluating plans

`Plan.evaluate?` computes all columns of a plan, and fails if a cell of one cannot be computed.
`Plan.collect?` is the result of a plan: what is left of it when it has been narrowed and its
conditions and slices have sunk. A condition of one cell takes all rows or none; a column of nulls
alone then has as many cells as there are true ones in the condition, which is one for all rows.
-/

namespace Profiling.Frame

namespace Series

def filter? (mask : List Cell) (s : Series) : Option Series :=
  let isTrue (c : Cell) : Bool := c == .bool true
  if s.type = .null then some (s.withCells (List.replicate (mask.countP isTrue) .null))
  else match mask with
    | [c] => some (s.withCells (if isTrue c then s.cells else []))
    | mask =>
      if mask.length = s.height then
        some (s.withCells (((mask.zip s.cells).filter fun p => isTrue p.1).map (·.2)))
      else none

/-- The column in a frame of a height, where one cell is repeated. -/
def fit? (height : Nat) (s : Series) : Option Series :=
  match s.cells with
  | [c] => some (s.withCells (List.replicate height c))
  | cells => if cells.length = height then some s else none

end Series

/-- The frame of columns of which those of one cell are repeated. -/
def align? (columns : List Series) : Option Frame := do
  let heights := columns.map Series.height
  let height := if heights.contains 0 then 0 else heights.foldl max 0
  return ⟨← columns.mapM (Series.fit? height)⟩

def filter? (f : Frame) (mask : List Cell) : Option Frame := do
  return ⟨← f.columns.mapM (Series.filter? mask)⟩

/-- The frame with one more column, in place of a column of its name. -/
def extend? (f : Frame) (s : Series) : Option Frame :=
  if f.columns.isEmpty then some (f.put s) else (s.fit? f.height).map f.put

def keyOrder (ascending : List Bool) (a b : List Cell) : Ordering :=
  (ascending.zip (a.zip b)).foldl (fun o (up, x, y) => o.then (Cell.sortOrder up x y)) .eq

/-- The keys of each row with its place; `none` if there is a row without key. -/
def placed? (height : Nat) (keys : List (List Cell)) : Option (List (List Cell × Nat)) := do
  let keys ← keys.mapM fun cells => if cells.length = height then some cells.toArray else none
  return (List.range height).map fun i => (keys.map fun cells => cells.getD i .null, i)

/-- The places of rows with equal keys together, in the order in which the keys come up. -/
def groups (placed : List (List Cell × Nat)) : List (List Nat) :=
  let equal (a b : List Cell) : Bool := (a.zip b).all fun (x, y) => x.same y
  (placed.foldl (fun groups (key, i) =>
    if groups.any fun g => equal g.1 key then
      groups.map fun g => if equal g.1 key then (g.1, g.2 ++ [i]) else g
    else groups ++ [(key, [i])]) []).map (·.2)

def Projection.series? (f : Frame) (c : Projection) : Option Series := do
  return ⟨c.name, c.type, ← c.formula.cells? true f⟩

/-- The column of a projection that has one value on each of some groups of rows. -/
def Projection.grouped? (f : Frame) (groups : List Frame) (c : Projection) : Option Series := do
  if c.formula.isScalar then
    let _ ← c.formula.cells? false f
    let cells ← groups.mapM fun g => do (← c.formula.cells? false g).head?
    return ⟨c.name, c.type, cells⟩
  else none

namespace Plan

/-- The frame of a plan; `none` if one of its cells cannot be computed. -/
def evaluate? : Plan → Option Frame
  | frame f => some f
  | filter condition p => do
    let f ← evaluate? p
    f.filter? (← condition.cells? true f)
  | select columns p => do
    let f ← evaluate? p
    let series ← columns.mapM (·.series? f)
    if columns.all fun c => !c.isLabelled && c.source?.isSome then return ⟨series⟩
    else align? series
  | extend columns p => do
    let f ← evaluate? p
    (← columns.mapM (·.series? f)).foldlM Frame.extend? f
  | sort keys p => do
    let f ← evaluate? p
    let placed ← placed? f.height (← keys.mapM fun k => k.1.cells? true f)
    let ascending := keys.map (·.2)
    return f.take ((placed.mergeSort fun a b => keyOrder ascending a.1 b.1 != .gt).map (·.2))
  | group keys columns p => do
    let f ← evaluate? p
    let series ← keys.mapM (·.series? f)
    let groups := groups (← placed? f.height (series.map (·.cells)))
    let firsts := groups.filterMap (·.head?)
    let values ← columns.mapM (Projection.grouped? f (groups.map f.take))
    return ⟨series.map (·.take firsts) ++ values⟩
  | slice offset count p => return (← evaluate? p).slice offset count

def collect? (p : Plan) : Option Frame := do
  (((← p.narrow? []).sinkFilters []).sinkSlices none).evaluate?

end Plan

end Profiling.Frame
