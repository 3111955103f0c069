import Profiling.Error
import Profiling.Json.Decoder
import Profiling.Sql.Select

/-!
# Partitions

A partition narrows a table to a window of time, a range of integers or a set of values of one
column. `Partition.predicateAt` is the condition it puts on rows, or the reason why there is none.
-/

namespace Profiling

inductive PartitionKind where
  /-- Rows of the last units up to now. -/
  | timeUnit (interval : Nat) (unit : IntervalUnit)
  /-- The same window on the time of loading. -/
  | ingestionTime (interval : Nat) (unit : IntervalUnit)
  | integerRange (start stop : Int)
  | columnValues (values : List Json)

structure Partition where
  column : String
  kind : PartitionKind

namespace Partition

/-- Checks what can be checked without the columns of a table. -/
def validate (p : Partition) : Except ConfigurationError Unit :=
  match p.kind with
  | .timeUnit interval _ | .ingestionTime interval _ =>
    if interval = 0 then .error (.emptyInterval p.column) else .ok ()
  | .integerRange start stop =>
    if stop < start then .error (.emptyRange p.column start stop) else .ok ()
  | .columnValues values =>
    if values.isEmpty then .error (.noValues p.column) else .ok ()

/-- The earliest instant of a window, as a literal of the column's type. -/
def bound (type : ColumnType) (start : Instant) : Literal :=
  if type = .date then .date start.date else .timestamp start

def window (column : Column) (interval : Nat) (unit : IntervalUnit) (now : Instant) :
    Except ConfigurationError Expr :=
  match now.windowStart? interval unit with
  | some start => .ok ((Expr.column column.name).gtEq (.literal (bound column.type start)))
  | none => .error (.windowOutOfRange interval unit)

/-- The condition that a row lies in the partition at the instant `now`. -/
def predicateAt (p : Partition) (columns : List Column) (now : Instant) :
    Except ConfigurationError Expr :=
  match findColumn columns p.column with
  | none => .error (.partitionColumnMissing p.column)
  | some column => do
    p.validate
    match p.kind with
    | .timeUnit interval unit | .ingestionTime interval unit => window column interval unit now
    | .integerRange start stop =>
      return .between (.column column.name) (.int start) (.int stop)
    | .columnValues values =>
      return .inList (.column column.name) (values.map fun v => .literal (.ofJson v)) false

/-! ### JSON -/

def windowMembers (interval : Nat) (unit : IntervalUnit) : List (String × Json) :=
  [("interval", .int interval), ("unit", .str unit.code)]

def kindMembers : PartitionKind → List (String × Json)
  | .timeUnit interval unit => ("type", .str "time_unit") :: windowMembers interval unit
  | .ingestionTime interval unit => ("type", .str "ingestion_time") :: windowMembers interval unit
  | .integerRange start stop =>
    [("type", .str "integer_range"), ("start", .int start), ("end", .int stop)]
  | .columnValues values => [("type", .str "column_values"), ("values", .arr values)]

/-- One object holds the column and the fields of the kind, which `type` tells. -/
def toJson (p : Partition) : Json :=
  .obj (("column", .str p.column) :: kindMembers p.kind)

/-- Nothing, written as null or as an empty object. -/
def asEmpty : Document → Except Fault Unit
  | .obj [] none => .ok ()
  | d => d.asNothing

def decodeUnit : Document → Except Fault IntervalUnit :=
  let units := IntervalUnit.all.map fun u => (u.code, u)
  Document.asChoice .value (units.map fun (n, u) => (n, fun d => (asEmpty d).map fun _ => u)) units

def windowFields : List (Field (Nat × IntervalUnit)) :=
  [.needed "interval" (Document.asNat 32) fun w interval => (interval, w.2),
   .needed "unit" decodeUnit fun w unit => (w.1, unit)]

def rangeFields : List (Field (Int × Int)) :=
  [.needed "start" Document.asInt64 fun r start => (start, r.2),
   .needed "end" Document.asInt64 fun r stop => (r.1, stop)]

def valuesFields : List (Field (List Json)) :=
  [.needed "values" (Document.asList Document.toJson) fun _ values => values]

/-- The kinds by name, with the readers of their fields. -/
def kindReaders : List (String × (Document → Except Fault PartitionKind)) :=
  let window := Document.asRecord .value windowFields (0, .hour)
  [("time_unit", fun d => (window d).map fun w => .timeUnit w.1 w.2),
   ("ingestion_time", fun d => (window d).map fun w => .ingestionTime w.1 w.2),
   ("integer_range", fun d =>
      (Document.asRecord .value rangeFields (0, 0) d).map fun r => .integerRange r.1 r.2),
   ("column_values", fun d =>
      (Document.asRecord .value valuesFields [] d).map .columnValues)]

/-- The reader of a kind, given by its name or its place in the list. -/
def kindReader : Document → Except Fault (Document → Except Fault PartitionKind)
  | .str name => Document.pick name kindReaders
  | .int n =>
    match kindReaders[n.toNat]? with
    | some (_, read) => if n < 0 then .error .mismatch else .ok read
    | none => .error .mismatch
  | _ => .error .mismatch

/-- Reads the kind from the members of a partition other than its column. -/
def decodeKind (members : List (String × Document)) : Except Fault PartitionKind := do
  match members.filter fun m => m.1 == "type" with
  | [(_, type)] => do
    let read ← kindReader type
    let fields := members.filter fun m => m.1 != "type"
    read (.obj (fields.map fun (n, d) => (.ok n, d)) none)
  | _ => .error .mismatch

/-- Splits the members of a partition into its column and the others, which must be readable. -/
def splitMembers : (column : Option String) → List (Except Fault String × Document) →
    Except Fault (Option String × List (String × Document))
  | column, [] => .ok (column, [])
  | _, (.error f, _) :: _ => .error f
  | column, (.ok n, d) :: rest =>
    if n = "column" then
      if column.isSome then .error .mismatch
      else do
        let name ← d.asString
        splitMembers (some name) rest
    else do
      let _ ← d.toJson
      let (column, others) ← splitMembers column rest
      return (column, (n, d) :: others)

def decode : Document → Except Fault Partition
  | .obj members fault => do
    let (column, others) ← splitMembers none members
    Document.stopAt fault
    match column with
    | none => .error .mismatch
    | some column => return ⟨column, ← decodeKind others⟩
  | d => .error d.unfit

end Partition

end Profiling
