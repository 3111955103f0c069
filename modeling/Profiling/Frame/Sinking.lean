import Profiling.Frame.Plan

/-!
# Sinking conditions and slices

Rows are left out as early as they can be, so that nothing is computed for them. A condition sinks
below an operation that takes rows one by one, unless it reads what the operation computes
(`Plan.sinkFilters`), and so does a slice (`Plan.sinkSlices`).
-/

namespace Profiling.Frame

namespace Projection

def areRowwise (columns : List Projection) : Bool := columns.all (·.formula.isRowwise)

/-- Whether a formula reads what some columns compute. -/
def feed (columns : List Projection) (f : Formula) : Bool :=
  f.columns.any fun n => columns.any fun c => c.source?.isNone && c.name == n

/-- A formula over some columns as one over what they are read from. -/
def below (columns : List Projection) (f : Formula) : Formula :=
  f.rename fun n => ((columns.find? (·.name == n)).bind source?).getD n

end Projection

namespace Plan

/-- The rows of a plan that meet all of some conditions. -/
def meeting : (conditions : List Formula) → Plan → Plan
  | [], p => p
  | c :: rest, p => filter (rest.foldl .and c) p

/-- The plan whose rows meet some conditions, with its own conditions as deep as they sink. -/
def sinkFilters (conditions : List Formula) : Plan → Plan
  | frame f => meeting conditions (frame f)
  | filter c p =>
    let conditions := conditions ++ [c]
    if conditions.all (·.isRowwise) then sinkFilters conditions p
    else meeting conditions (sinkFilters [] p)
  | select columns p =>
    if Projection.areRowwise columns then
      let (staying, sinking) := conditions.partition (Projection.feed columns)
      meeting staying (select columns (sinkFilters (sinking.map (Projection.below columns)) p))
    else meeting conditions (select columns (sinkFilters [] p))
  | extend columns p =>
    if Projection.areRowwise columns then
      let (staying, sinking) := conditions.partition (Projection.feed columns)
      meeting staying (extend columns (sinkFilters (sinking.map (Projection.below columns)) p))
    else meeting conditions (extend columns (sinkFilters [] p))
  | sort keys p => sort keys (sinkFilters conditions p)
  | group keys columns p => meeting conditions (group keys columns (sinkFilters [] p))
  | slice offset count p => meeting conditions (slice offset count (sinkFilters [] p))

def cut : (range : Option (Nat × Option Nat)) → Plan → Plan
  | none, p => p
  | some (offset, count), p => slice offset count p

/-- The given range of the rows of a plan, with its own slices as deep as they sink. At least one
column has to be there below them. -/
def sinkSlices (range : Option (Nat × Option Nat)) : Plan → Plan
  | frame f => cut range (frame f)
  | filter c p => cut range (filter c (sinkSlices none p))
  | select columns p =>
    if Projection.areRowwise columns && columns.any (!·.formula.columns.isEmpty) then
      select columns (sinkSlices range p)
    else cut range (select columns (sinkSlices none p))
  | extend columns p =>
    if Projection.areRowwise columns && (columns.any (!·.formula.columns.isEmpty) ||
        columns.length < (extend columns p).names.length) then
      extend columns (sinkSlices range p)
    else cut range (extend columns (sinkSlices none p))
  | sort keys p => cut range (sort keys (sinkSlices none p))
  | group keys columns p => cut range (group keys columns (sinkSlices none p))
  | slice offset count p => cut range (sinkSlices (some (offset, count)) p)

end Plan

end Profiling.Frame
