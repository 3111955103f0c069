import Profiling.Calendar.Instant
import Profiling.Json.Basic
import Profiling.Sql.Dialect

/-!
# SQL literals

A JSON value is a literal of its own kind; a list or an object is the string of its JSON text.
-/

namespace Profiling

inductive Literal where
  | null
  | bool (b : Bool)
  | int (n : Int)
  | float (x : Float)
  | string (s : String)
  | date (d : Date)
  | timestamp (t : Instant)
deriving DecidableEq

namespace Literal

/-- The literal of a JSON value. An integer past the signed 64-bit ones is a float. -/
def ofJson : Json → Literal
  | .null => .null
  | .bool b => .bool b
  | .int n => if -twoTo 63 ≤ n ∧ n < twoTo 63 then .int n else .float (Float.ofInt n)
  | .float x => .float x
  | .str s => .string s
  | v => .string v.text

/-- A float with its shortest digits and a point; a number without digits is null. -/
def floatText (x : Float) : List Char :=
  if x.isFinite then
    let digits := plainText x
    if digits.contains '.' then digits else digits ++ ['.', '0']
  else "NULL".toList

def sql (d : Dialect) : Literal → List Char
  | null => "NULL".toList
  | bool true => "TRUE".toList
  | bool false => "FALSE".toList
  | int n => intText n
  | float x => floatText x
  | string s => d.string s
  | date day => "DATE '".toList ++ day.text ++ ['\'']
  | timestamp t => "TIMESTAMP '".toList ++ t.text ++ ['\'']

end Literal

end Profiling
