import Profiling.Frame.Plan

/-!
# Narrowing plans

Before a plan is evaluated it is rid of the columns on which nothing depends: a column that nobody
reads is not computed, and frames are cut down to what is read of them. What a plan has to have is
a list of names, of which the empty one stands for all columns. A name that no operation of the plan
makes is looked for in its frames. This holds also of the names that the plan itself gives to
numbers of rows and to values that are written out, unless the query labels them, so that plans that
read such columns cannot be evaluated.
-/

namespace Profiling.Frame

def Formula.addColumns (names : List String) (f : Formula) : List String :=
  f.columns.foldl (fun ns n => if ns.contains n then ns else ns ++ [n]) names

namespace Projection

def wanted (names : List String) (columns : List Projection) : List Projection :=
  if names.isEmpty then columns else columns.filter fun c => names.contains c.name

def addSources (names : List String) (columns : List Projection) : List String :=
  columns.foldl (fun ns c => c.formula.addColumns ns) names

/-- What a selection lets through of the names that are wanted of it. -/
def passed (names : List String) (columns : List Projection) : List String :=
  names.filter fun n => !columns.any fun c => c.isLabelled && c.name == n

/-- What a selection of the given columns needs, where `names` are wanted of it. A number of rows
is that of the first column. -/
def needed (names : List String) (columns : List Projection) (input : List String) :
    Option (List String) :=
  match columns with
  | [⟨_, _, _, .rowCount⟩] => do
    return Formula.addColumns (passed names columns) (.column (← input.head?))
  | columns => some (addSources (passed names columns) columns)

end Projection

namespace Plan

/-- The plan with no more columns than some names ask for; `none` if one of them is nowhere. -/
def narrow? (names : List String) : Plan → Option Plan
  | frame f => if names.isEmpty then some (frame f) else return frame ⟨← names.mapM f.column?⟩
  | filter c p => return filter c (← narrow? (if names.isEmpty then [] else c.addColumns names) p)
  | select columns p => do
    let columns := Projection.wanted names columns
    return select columns (← narrow? (← Projection.needed names columns p.names) p)
  | extend columns p => do
    let columns := Projection.wanted names columns
    if columns.isEmpty then narrow? names p
    else
      let needed := if names.isEmpty then [] else Projection.addSources names columns
      return extend columns (← narrow? (needed.filter p.names.contains) p)
  | sort keys p => do
    let needed := if names.isEmpty then [] else keys.foldl (fun ns k => k.1.addColumns ns) names
    return sort keys (← narrow? needed p)
  | group keys columns p => do
    let columns := Projection.wanted names columns
    let passed := if names.length = p.names.length then [] else names.filter p.names.contains
    return group keys columns (← narrow? (Projection.addSources passed (columns ++ keys)) p)
  | slice offset count p => return slice offset count (← narrow? names p)

end Plan

end Profiling.Frame
