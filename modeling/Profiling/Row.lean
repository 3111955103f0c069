import Profiling.Json.Basic

/-!
# Rows

A row of a result: its column names and as many values.
-/

namespace Profiling

structure Row where
  columns : List String
  values : List Json

namespace Row

/-- The value of the first column of a name. -/
def get? (r : Row) (column : String) : Option Json :=
  (r.columns.idxOf? column).bind (r.values[·]?)

/-- The row as an object, where the last column of each name counts. -/
def toJson (r : Row) : Json :=
  .ofMembers (r.columns.zip r.values)

end Row

structure TableData where
  columns : List String
  rows : List (List Json)

namespace TableData

/-- The rows of a fetch of `columns`; all of the first row's columns if none are named. -/
def ofRows (columns : List String) (rows : List Row) : TableData where
  columns := if columns.isEmpty then (rows.head?.map Row.columns).getD [] else columns
  rows := rows.map Row.values

def toJson (t : TableData) : Json :=
  .obj [("columns", .arr (t.columns.map .str)), ("rows", .arr (t.rows.map .arr))]

end TableData

end Profiling
