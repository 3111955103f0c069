import Profiling.Calendar.Duration
import Profiling.Calendar.Window
import Profiling.Json.Document
import Profiling.Sql.Dialect

/-!
# Errors

What can go wrong, by cause. `QueryError.message` is the one place that words it.
-/

namespace Profiling

/-- A setup that no query can run with. -/
inductive ConfigurationError where
  | unknownDialect (name : String)
  | emptyInterval (column : String)
  | emptyRange (column : String) (start stop : Int)
  | noValues (column : String)
  | partitionColumnMissing (column : String)
  | windowOutOfRange (interval : Nat) (unit : IntervalUnit)
  | percentageOutOfRange (percent : Float)
  | noRows
  | columnMissing (column table : String)
  | noSample (table : String)
  | notANumber (key raw : String)
  | emptyBatch
  | backendMismatch (configured actual : Dialect)
  | noDatabaseUrl

inductive QueryError where
  | configuration (cause : ConfigurationError)
  | timeout (budget : Duration)
  | execution (reason : String)
  | document (fault : Fault)
  | engine
  | unreadableFile

def ConfigurationError.message : ConfigurationError → String
  | unknownDialect name => "Unknown backend dialect: " ++ name
  | emptyInterval column =>
    "Partition interval for column '" ++ column ++ "' must be greater than 0"
  | emptyRange column start stop =>
    "Partition range for column '" ++ column ++ "' is empty: " ++ String.ofList (intText start) ++
      " > " ++ String.ofList (intText stop)
  | noValues column => "Partition values for column '" ++ column ++ "' must not be empty"
  | partitionColumnMissing column =>
    "Partition column '" ++ column ++ "' not found in table columns"
  | windowOutOfRange interval unit =>
    "Partition interval of " ++ String.ofList (natText interval) ++ " " ++ unit.label ++ " is out of range"
  | percentageOutOfRange percent =>
    "Sample percentage must be in (0, 100], got " ++ String.ofList (plainText percent)
  | noRows => "Sample row count must be greater than 0"
  | columnMissing column table => "Column '" ++ column ++ "' not found in " ++ table
  | noSample table => "No sample configured for " ++ table
  | notANumber key raw => key ++ " must be a non-negative integer, got '" ++ raw ++ "'"
  | emptyBatch => "PROFILER_BATCH_SIZE must be greater than 0"
  | backendMismatch configured actual =>
    "PROFILER_BACKEND is " ++ configured.name ++ " but queries run on a " ++ actual.name ++
      " handle"
  | noDatabaseUrl => "PROFILER_DATABASE_URL (or DATABASE_URL) is not set"

def QueryError.message : QueryError → String
  | configuration cause => "Configuration error: " ++ cause.message
  | timeout budget => "Query timed out after " ++ String.ofList budget.text
  | execution reason => "Execution error: " ++ reason
  | document _ => "JSON error"
  | engine => "Engine error"
  | unreadableFile => "IO error"

def QueryError.isTimeout : QueryError → Bool
  | timeout _ => true
  | _ => false

def Dialect.parse (s : String) : Except ConfigurationError Dialect :=
  match ofName? s with
  | some d => .ok d
  | none => .error (.unknownDialect (lookupName s))

end Profiling
