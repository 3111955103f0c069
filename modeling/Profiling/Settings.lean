import Profiling.Error
import Profiling.Runner.Stream
import Profiling.Sample.Sampler

/-!
# Settings

The settings of a process, read from named variables. A variable with nothing but blanks counts as
not set.
-/

namespace Profiling

def defaultMaxConnections : Nat := 10

structure Settings where
  databaseUrl : Option String := none
  backend : Dialect := .postgres
  queryTimeout : Option Duration := none
  batchSize : Nat := defaultBatchSize
  sampleDataCount : Nat := defaultSampleDataCount
  maxConnections : Nat := defaultMaxConnections
deriving DecidableEq

namespace Settings

/-- The number that digits stand for; a plus may stand in front of them. -/
def number? (s : List Char) : Option Nat :=
  let digits := match s with
    | '+' :: rest => rest
    | s => s
  if digits.isEmpty || !digits.all Char.isDigit then none
  else some (digitsValue digits)

/-- The number in a text, blanks around it left out, if it has at most the given bits. -/
def parseNumber (bits : Nat) (key raw : String) : Except ConfigurationError Nat :=
  match number? (Text.trim raw.toList) with
  | some n => if n < twoTo bits then .ok n else .error (.notANumber key raw)
  | none => .error (.notANumber key raw)

def valueOf? (lookup : String → Option String) (key : String) : Option String :=
  (lookup key).filter fun v => !Text.isAllBlank v

def readNumber (lookup : String → Option String) (key : String) (bits default : Nat) :
    Except ConfigurationError Nat :=
  match valueOf? lookup key with
  | some raw => parseNumber bits key raw
  | none => .ok default

def readBackend (lookup : String → Option String) : Except ConfigurationError Dialect :=
  match valueOf? lookup "PROFILER_BACKEND" with
  | some raw => Dialect.parse raw
  | none => .ok .postgres

/-- A timeout in seconds, of which zero is none. -/
def timeoutOf (seconds : Nat) : Option Duration :=
  if seconds = 0 then none else some (.ofSeconds seconds)

/-- The settings in the variables that `lookup` finds. -/
def ofLookup (lookup : String → Option String) : Except ConfigurationError Settings := do
  let seconds ← readNumber lookup "PROFILER_QUERY_TIMEOUT_SECS" 64 0
  let batchSize ← readNumber lookup "PROFILER_BATCH_SIZE" 64 defaultBatchSize
  if batchSize = 0 then throw .emptyBatch
  let backend ← readBackend lookup
  let sampleDataCount ← readNumber lookup "PROFILER_SAMPLE_DATA_COUNT" 64 defaultSampleDataCount
  let maxConnections ← readNumber lookup "PROFILER_MAX_CONNECTIONS" 32 defaultMaxConnections
  return {
    databaseUrl := (valueOf? lookup "PROFILER_DATABASE_URL").or (valueOf? lookup "DATABASE_URL")
    queryTimeout := timeoutOf seconds
    backend, batchSize, sampleDataCount, maxConnections }

/-- Samples follow the dialect of the settings, so that must be the one that queries run in. -/
def checkBackend (s : Settings) (actual : Dialect) : Except ConfigurationError Unit :=
  if s.backend = actual || s.backend = .generic then .ok ()
  else .error (.backendMismatch s.backend actual)

def requireDatabaseUrl (s : Settings) : Except ConfigurationError String :=
  match s.databaseUrl with
  | some url => .ok url
  | none => .error .noDatabaseUrl

end Settings

end Profiling
