import Profiling.Settings

/-!
# Table profiles

How one table is profiled, read from a JSON text.
-/

namespace Profiling

structure TableProfile where
  sampleConfig : Option SampleConfig := none
  partition : Option Partition := none
  customQuery : Option String := none
  storageConfig : Option StorageConfig := none
  sampleDataCount : Option Nat := none

namespace TableProfile

def toJson (p : TableProfile) : Json :=
  .obj [("sampleConfig", .ofOption SampleConfig.toJson p.sampleConfig),
    ("partition", .ofOption Partition.toJson p.partition),
    ("customQuery", .ofOption .str p.customQuery),
    ("storageConfig", .ofOption StorageConfig.toJson p.storageConfig),
    ("sampleDataCount", .ofOption (fun n => .int n) p.sampleDataCount)]

def fields (origin : Origin) : List (Field TableProfile) :=
  [.defaulted "sampleConfig" (Document.asOption (SampleConfig.decode origin))
    fun p sampleConfig => { p with sampleConfig },
   .defaulted "partition" (Document.asOption Partition.decode)
    fun p partition => { p with partition },
   .defaulted "customQuery" (Document.asOption Document.asString)
    fun p customQuery => { p with customQuery },
   .defaulted "storageConfig" (Document.asOption (StorageConfig.decode origin))
    fun p storageConfig => { p with storageConfig },
   .defaulted "sampleDataCount" (Document.asOption (Document.asNat 64))
    fun p sampleDataCount => { p with sampleDataCount }]

def decode (origin : Origin) : Document → Except Fault TableProfile :=
  Document.asRecord origin (fields origin) {}

def validate (p : TableProfile) : Except ConfigurationError Unit := do
  validateEach SampleConfig.validate p.sampleConfig
  validateEach Partition.validate p.partition

def ofText (text : String) : Except QueryError TableProfile := do
  let p ← (Document.decodeText (decode .text) text).mapError .document
  p.validate.mapError .configuration
  return p

/-- The profile in a file with the given contents, `none` for a file that cannot be read. -/
def ofContents : Option String → Except QueryError TableProfile
  | some text => ofText text
  | none => .error .unreadableFile

/-- The options of a sampler, for which the settings supply the number of preview rows. -/
def samplerOptions (p : TableProfile) (settings : Settings) : SamplerOptions where
  sampleConfig := p.sampleConfig
  partition := p.partition
  sampleQuery := p.customQuery
  storageConfig := p.storageConfig
  sampleDataCount := p.sampleDataCount.getD settings.sampleDataCount

end TableProfile

end Profiling
