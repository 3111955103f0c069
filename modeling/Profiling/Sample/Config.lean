import Profiling.Error
import Profiling.Json.Decoder

/-!
# Sample configuration

How much of a table is sampled, and where samples are stored.
-/

namespace Profiling

inductive SampleConfig where
  | percentage (percent : Float)
  | rows (count : Nat)
deriving DecidableEq

namespace SampleConfig

/-- A percentage lies above 0 and not above 100, and a number of rows is not 0. -/
def validate : SampleConfig → Except ConfigurationError Unit
  | percentage p =>
    if 0 < p && p ≤ 100 then .ok () else .error (.percentageOutOfRange p)
  | rows n => if n = 0 then .error .noRows else .ok ()

/-- All of the table, which is no sample. -/
def isFullTable : SampleConfig → Bool
  | percentage p => 100 ≤ p
  | rows _ => false

def toJson : SampleConfig → Json
  | percentage p => .obj [("type", .str "PERCENTAGE"), ("value", .ofFloat p)]
  | rows n => .obj [("type", .str "ROWS"), ("value", .int n)]

def kinds : List (String × (Document → Except Fault SampleConfig)) :=
  [("PERCENTAGE", fun d => d.asFloat.map percentage),
   ("ROWS", fun d => (d.asNat 64).map rows)]

def decodeKind (origin : Origin) : Document → Except Fault (Document → Except Fault SampleConfig) :=
  Document.asName origin kinds

/-- The reader of a kind that a list starts with, where only a string names it. -/
def listedKind (d : Document) : Except Fault (Document → Except Fault SampleConfig) := do
  Document.pick (← d.asString) kinds

/-- Where the reader of an object's members stands. -/
inductive Progress where
  | start
  | typed (read : Document → Except Fault SampleConfig)
  | valued (value : Document)
  | done (config : SampleConfig)

/-- Takes one member of an object: the kind and the amount once each, in either order. An amount
in front of its kind is kept until the kind is known. -/
def step (origin : Origin) : Progress → String → Document → Except Fault Progress
  | .start, "type", d => return .typed (← decodeKind origin d)
  | .start, "value", d => do
    let _ ← d.toJson
    return .valued d
  | .typed read, "value", d => return .done (← read d)
  | .valued value, "type", d => do
    let read ← decodeKind origin d
    return .done (← read value)
  | p, n, d =>
    if n = "type" || n = "value" then .error .mismatch
    else do
      d.skip
      return p

def steps (origin : Origin) : Progress → List (Except Fault String × Document) → Except Fault Progress
  | p, [] => .ok p
  | _, (.error f, _) :: _ => .error f
  | p, (.ok n, d) :: rest => do steps origin (← step origin p n d) rest

def decode (origin : Origin) : Document → Except Fault SampleConfig
  | .obj members fault => do
    let p ← steps origin .start members
    Document.stopAt fault
    match p with
    | .done config => return config
    | _ => .error .mismatch
  | .arr (type :: value :: surplus) fault => do
    let read ← listedKind type
    let config ← read value
    if surplus.isEmpty then
      Document.stopAt fault
      return config
    else .error origin.misfit
  | .arr [type] fault => do
    let _ ← listedKind type
    Document.stopAt fault
    .error .mismatch
  | .arr [] fault => do
    Document.stopAt fault
    .error .mismatch
  | d => .error d.unfit

end SampleConfig

structure StorageConfig where
  bucketName : String
  path : Option String := none
  overwriteData : Bool := false
deriving DecidableEq, Repr

namespace StorageConfig

def toJson (c : StorageConfig) : Json :=
  .obj [("bucket_name", .str c.bucketName), ("prefix", .ofOption .str c.path),
    ("overwrite_data", .bool c.overwriteData)]

def fields : List (Field StorageConfig) :=
  [.needed "bucket_name" Document.asString fun c bucketName => { c with bucketName },
   .defaulted "prefix" (Document.asOption Document.asString) fun c path => { c with path },
   .defaulted "overwrite_data" Document.asBool
    fun c overwriteData => { c with overwriteData }]

def decode (origin : Origin) : Document → Except Fault StorageConfig :=
  Document.asRecord origin fields ⟨"", none, false⟩

end StorageConfig

end Profiling
