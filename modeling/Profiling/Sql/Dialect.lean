import Profiling.Text.Blank
import Profiling.Text.Case
import Profiling.Text.Quoted

/-!
# SQL dialects

The dialects differ in the quotes of identifiers, in the escapes of strings and in the random
function. A dialect without a random function names a column that its tables have instead.
-/

namespace Profiling

inductive Dialect where
  | generic
  | postgres
  | bigQuery
  | polars
deriving DecidableEq, Repr

/-- The column of random numbers in tables that are read for a statement that names it. -/
def randomColumn : String := "__profiler_random"

namespace Dialect

def name : Dialect → String
  | generic => "generic"
  | postgres => "postgres"
  | bigQuery => "bigquery"
  | polars => "polars"

def nameQuote : Dialect → Char
  | bigQuery => Char.ofNat 0x60
  | _ => '"'

def ident (d : Dialect) (name : String) : List Char :=
  Text.quoteName d.nameQuote name.toList

def qualified (d : Dialect) (parts : List String) : List Char :=
  List.intercalate ['.'] (parts.map d.ident)

def string (d : Dialect) (s : String) : List Char :=
  match d with
  | bigQuery => Text.quoteEscaped '\'' s.toList
  | _ => Text.quoteDoubled '\'' s.toList

def readString (d : Dialect) (s : List Char) : Option (List Char × List Char) :=
  match d with
  | bigQuery => Text.readEscaped '\'' s
  | _ => Text.readDoubled '\'' s

/-- A random number between 0 and 1, drawn for each row. -/
def random : Dialect → List Char
  | bigQuery => "RAND()".toList
  | generic | postgres => "RANDOM()".toList
  | polars => polars.ident randomColumn

def named : List (String × Dialect) :=
  [("generic", generic), ("ansi", generic), ("postgres", postgres), ("postgresql", postgres),
   ("bigquery", bigQuery), ("polars", polars)]

/-- A name as it is looked up: without blanks around it, in small letters. -/
def lookupName (s : String) : String :=
  String.ofList (Text.lower (Text.trim s.toList))

/-- The dialect with a name, in whatever case. -/
def ofName? (s : String) : Option Dialect :=
  named.lookup (lookupName s)

end Dialect

end Profiling
