import Profiling.Sql.Select

/-!
# Samples as sources of queries

A sample is a list of common table expressions, of which the named one holds its rows, with the
columns that it has.
-/

namespace Profiling

structure SampleSource where
  name : String
  ctes : List Cte
  columns : List Column

/-- What a runner samples: nothing, or the rows of a source. -/
inductive SampleHandle where
  | noSample
  | sampled (source : SampleSource)

namespace SampleHandle

def source? : SampleHandle → Option SampleSource
  | noSample => none
  | sampled source => some source

def isSampled (h : SampleHandle) : Bool := h.source?.isSome

end SampleHandle

structure SampleFragment where
  query : Select
  columns : List Column

end Profiling
