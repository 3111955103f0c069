import Profiling.Json.Decoder
import Profiling.Text.Blank
import Profiling.Text.Case

/-!
# Column types

The kinds of columns that a profile tells apart, and the kind of a type name of some backend.
-/

namespace Profiling

inductive ColumnType where
  | integer
  | float
  | decimal
  | string
  | boolean
  | date
  | timestamp
  | struct
  | array
  | other (name : String)
deriving DecidableEq, Repr

namespace ColumnType

/-- Type names, in capitals and without parameters. -/
def sqlNames : List (String × ColumnType) :=
  [("SMALLINT", integer), ("INT", integer), ("INT2", integer), ("INT4", integer),
   ("INT8", integer), ("INTEGER", integer), ("BIGINT", integer), ("INT64", integer),
   ("REAL", float), ("FLOAT", float), ("FLOAT4", float), ("FLOAT8", float), ("FLOAT64", float),
   ("DOUBLE", float), ("DOUBLE PRECISION", float),
   ("NUMERIC", decimal), ("DECIMAL", decimal), ("BIGNUMERIC", decimal),
   ("TEXT", string), ("VARCHAR", string), ("CHARACTER VARYING", string), ("CHAR", string),
   ("CHARACTER", string), ("BPCHAR", string), ("STRING", string), ("NAME", string),
   ("UUID", string),
   ("BOOL", boolean), ("BOOLEAN", boolean),
   ("DATE", date),
   ("TIMESTAMP", timestamp), ("TIMESTAMPTZ", timestamp), ("DATETIME", timestamp),
   ("TIMESTAMP WITH TIME ZONE", timestamp), ("TIMESTAMP WITHOUT TIME ZONE", timestamp),
   ("STRUCT", struct), ("RECORD", struct), ("JSON", struct), ("JSONB", struct),
   ("ARRAY", array)]

def baseName (upper : List Char) : List Char :=
  Text.trim (upper.takeWhile fun c => c != '(' && c != '<')

/-- The kind of a type name. A name that is not known is an array if it ends in brackets. -/
def ofSqlName (name : String) : ColumnType :=
  let upper := Text.asciiUpper (Text.trim name.toList)
  match sqlNames.lookup (String.ofList (baseName upper)) with
  | some t => t
  | none => if ['[', ']'].isSuffixOf upper then array else other name

/-- The kinds without a name of their own. -/
def labels : List (String × ColumnType) :=
  [("integer", integer), ("float", float), ("decimal", decimal), ("string", string),
   ("boolean", boolean), ("date", date), ("timestamp", timestamp), ("struct", struct),
   ("array", array)]

def toJson : ColumnType → Json
  | integer => .str "integer"
  | float => .str "float"
  | decimal => .str "decimal"
  | string => .str "string"
  | boolean => .str "boolean"
  | date => .str "date"
  | timestamp => .str "timestamp"
  | struct => .str "struct"
  | array => .str "array"
  | other name => .obj [("other", .str name)]

def decode (origin : Origin) : Document → Except Fault ColumnType :=
  Document.asChoice origin
    (("other", fun d => d.asString.map other) ::
      labels.map fun (n, t) => (n, fun d => d.asNothing.map fun _ => t))
    labels

end ColumnType

end Profiling
