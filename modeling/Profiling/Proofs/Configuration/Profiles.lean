import Profiling.Profile
import Profiling.Proofs.Configuration.Partitions
import Profiling.Proofs.Configuration.Tables

/-!
# Profiles read back

Samples, storage and the profiles that hold them. `configuration_survives` says of everything that
is configured in JSON that it is read as it was written.
-/

namespace Profiling

open Document (ofJson)

/-! ### Samples -/

theorem perm_pair {α : Type} {l : List α} {a b : α} (perm : l.Perm [a, b]) : l = [a, b] ∨ l = [b, a] := by
  obtain ⟨front, back, rfl, rest⟩ := exists_middle perm
  rcases List.append_eq_singleton_iff.mp (List.perm_singleton.mp rest) with ⟨rfl, rfl⟩ | ⟨rfl, rfl⟩
  · exact .inl rfl
  · exact .inr rfl

namespace SampleConfig

/-- A percentage that JSON can write, and a number of rows that fits its type. -/
def Representable : SampleConfig → Prop
  | percentage p => p.isFinite = true
  | rows n => n < twoTo 64

def members : SampleConfig → List (String × Json)
  | percentage p => [("type", .str "PERCENTAGE"), ("value", .ofFloat p)]
  | rows n => [("type", .str "ROWS"), ("value", .int n)]

def WrittenAs (c : SampleConfig) (v : Json) : Prop := v.Abridges c.members []

theorem writtenAs_toJson (c : SampleConfig) : c.WrittenAs c.toJson := by
  cases c <;> exact Json.abridges_of_perm (.refl _)

theorem decode_of_steps {origin : Origin} {a b : String × Json} {p : Progress} {c : SampleConfig}
    (first : step origin .start a.1 (ofJson a.2) = .ok p)
    (second : step origin p b.1 (ofJson b.2) = .ok (.done c)) :
    decode origin (ofJson (.obj [a, b])) = .ok c := by
  have all : steps origin .start (Document.ofMembers [a, b]) = .ok (.done c) := by
    rw [Document.ofMembers_eq_map, List.map_cons, steps, first]
    show steps origin p _ = _
    rw [List.map_cons, steps, second]
    rfl
  rw [ofJson, decode, all]
  rfl

/-- The kind and the amount are taken in either order. -/
theorem decode_of_perm {origin : Origin} {kind : String} {amount : Json} {c : SampleConfig}
    {read : Document → Except Fault SampleConfig} {members : List (String × Json)}
    (known : decodeKind origin (.str kind) = .ok read) (reads : read (ofJson amount) = .ok c)
    (readable : (ofJson amount).toJson = .ok amount)
    (perm : members.Perm [("type", .str kind), ("value", amount)]) :
    decode origin (ofJson (.obj members)) = .ok c := by
  rcases perm_pair perm with rfl | rfl
  · refine decode_of_steps (p := .typed read) ?_ ?_
    · show (do return Progress.typed (← decodeKind origin (.str kind)) : Except Fault Progress) = _
      rw [known]
      rfl
    · show (do return Progress.done (← read (ofJson amount)) : Except Fault Progress) = _
      rw [reads]
      rfl
  · -- An amount in front of its kind is kept until the kind is known.
    have kept : step origin .start "value" (ofJson amount) = .ok (.valued (ofJson amount)) := by
      rw [step, readable]
      rfl
    refine decode_of_steps kept ?_
    show step origin _ "type" (.str kind) = _
    rw [step, known]
    show (do return Progress.done (← read (ofJson amount)) : Except Fault Progress) = _
    rw [reads]
    rfl

theorem decode_writtenAs (origin : Origin) {c : SampleConfig} {v : Json} (fits : c.Representable)
    (h : c.WrittenAs v) : decode origin (ofJson v) = .ok c := by
  obtain ⟨members, rfl, perm⟩ := Json.perm_of_abridges h
  cases c with
  | percentage p =>
    have finite : Json.ofFloat p = .float p := if_pos fits
    rw [SampleConfig.members, finite] at perm
    exact decode_of_perm rfl rfl rfl perm
  | rows n =>
    have count : (Document.asNat 64 (.int n)).map rows = .ok (rows n) := by
      rw [Document.asNat_int fits]
      rfl
    exact decode_of_perm rfl count rfl perm

end SampleConfig

namespace StorageConfig

def WrittenAs (c : StorageConfig) (v : Json) : Prop :=
  v.Abridges
    [("bucket_name", .str c.bucketName), ("prefix", .ofOption .str c.path),
      ("overwrite_data", .bool c.overwriteData)]
    [("prefix", .null), ("overwrite_data", .bool false)]

theorem writtenAs_toJson (c : StorageConfig) : c.WrittenAs c.toJson :=
  Json.abridges_of_perm (.refl _)

def partly (c : StorageConfig) (seen : List String) : StorageConfig where
  bucketName := if "bucket_name" ∈ seen then c.bucketName else ""
  path := if "prefix" ∈ seen then c.path else none
  overwriteData := if "overwrite_data" ∈ seen then c.overwriteData else false

theorem decode_writtenAs (origin : Origin) {c : StorageConfig} {v : Json} (h : c.WrittenAs v) :
    decode origin (ofJson v) = .ok c := by
  refine Field.asRecord_of_abridges c.partly ?_ h
  constructor
  case takes =>
    intro m member
    simp only [List.mem_cons, List.not_mem_nil, or_false] at member
    rcases member with rfl | rfl | rfl
    · exact Field.takes_of_read rfl rfl fun seen => by simp [partly]
    · exact Field.takes_of_read rfl (Document.asOption_string _) fun seen => by simp [partly]
    · exact Field.takes_of_read rfl rfl fun seen => by simp [partly]
  case distinct => simp
  case needed => simp [fields, Field.needed, Field.defaulted]
  case whole =>
    intro seen given
    simp only [List.forall_mem_cons] at given
    obtain ⟨bucketName, path, overwriteData, -⟩ := given
    have path : "prefix" ∈ seen ∨ c.path = none :=
      path.imp_right fun dropped => eq_none_of_ofOption_str (by simpa using dropped)
    have overwriteData : "overwrite_data" ∈ seen ∨ c.overwriteData = false :=
      overwriteData.imp_right fun dropped => by simpa using dropped
    rw [partly, if_pos (bucketName.resolve_right (by simp)), ite_of_default path,
      ite_of_default overwriteData]

end StorageConfig

/-! ### Profiles -/

namespace TableProfile

structure Representable (p : TableProfile) : Prop where
  sampleConfig : ∀ c, p.sampleConfig = some c → c.Representable
  partition : ∀ q, p.partition = some q → q.kind.Representable
  sampleDataCount : ∀ n, p.sampleDataCount = some n → n < twoTo 64

def WrittenAs (p : TableProfile) (v : Json) : Prop :=
  ∃ sample partition storage,
    OptionWrittenAs SampleConfig.WrittenAs p.sampleConfig sample ∧
    OptionWrittenAs Partition.WrittenAs p.partition partition ∧
    OptionWrittenAs StorageConfig.WrittenAs p.storageConfig storage ∧
    v.Abridges
      [("sampleConfig", sample), ("partition", partition),
        ("customQuery", .ofOption .str p.customQuery), ("storageConfig", storage),
        ("sampleDataCount", .ofOption (fun n : Nat => .int n) p.sampleDataCount)]
      [("sampleConfig", .null), ("partition", .null), ("customQuery", .null),
        ("storageConfig", .null), ("sampleDataCount", .null)]

theorem writtenAs_toJson (p : TableProfile) : p.WrittenAs p.toJson := by
  refine ⟨_, _, _, optionWrittenAs_ofOption SampleConfig.writtenAs_toJson,
    optionWrittenAs_ofOption Partition.writtenAs_toJson,
    optionWrittenAs_ofOption StorageConfig.writtenAs_toJson, Json.abridges_of_perm (.of_eq ?_)⟩
  cases p.sampleDataCount <;> rfl

def partly (p : TableProfile) (seen : List String) : TableProfile where
  sampleConfig := if "sampleConfig" ∈ seen then p.sampleConfig else none
  partition := if "partition" ∈ seen then p.partition else none
  customQuery := if "customQuery" ∈ seen then p.customQuery else none
  storageConfig := if "storageConfig" ∈ seen then p.storageConfig else none
  sampleDataCount := if "sampleDataCount" ∈ seen then p.sampleDataCount else none

theorem decode_writtenAs (origin : Origin) {p : TableProfile} {v : Json} (fits : p.Representable)
    (h : p.WrittenAs v) : decode origin (ofJson v) = .ok p := by
  obtain ⟨sample, part, storage, sampled, parted, stored, h⟩ := h
  have count : Document.asOption (Document.asNat 64)
      (ofJson (.ofOption (fun n : Nat => .int n) p.sampleDataCount)) = .ok p.sampleDataCount := by
    cases given : p.sampleDataCount with
    | none => rfl
    | some n => exact congrArg (Except.map some) (Document.asNat_int (fits.sampleDataCount n given))
  refine Field.asRecord_of_abridges p.partly ?_ h
  constructor
  case takes =>
    intro m member
    simp only [List.mem_cons, List.not_mem_nil, or_false] at member
    rcases member with rfl | rfl | rfl | rfl | rfl
    · exact Field.takes_of_read rfl
        (Document.asOption_writtenAs (fun _ => Json.not_abridges_null)
          (fun c given _ => SampleConfig.decode_writtenAs origin (fits.sampleConfig c given)) sampled)
        fun seen => by simp [partly]
    · exact Field.takes_of_read rfl
        (Document.asOption_writtenAs (fun _ => Json.not_abridges_null)
          (fun q given _ => Partition.decode_writtenAs (fits.partition q given)) parted)
        fun seen => by simp [partly]
    · exact Field.takes_of_read rfl (Document.asOption_string _) fun seen => by simp [partly]
    · exact Field.takes_of_read rfl
        (Document.asOption_writtenAs (fun _ => Json.not_abridges_null)
          (fun _ _ _ => StorageConfig.decode_writtenAs origin) stored)
        fun seen => by simp [partly]
    · exact Field.takes_of_read rfl count fun seen => by simp [partly]
  case distinct => simp
  case needed => simp [fields, Field.defaulted]
  case whole =>
    intro seen given
    simp only [List.forall_mem_cons] at given
    obtain ⟨sampleConfig, partition, customQuery, storageConfig, sampleDataCount, -⟩ := given
    have sampleConfig : "sampleConfig" ∈ seen ∨ p.sampleConfig = none :=
      sampleConfig.imp_right fun dropped => by
        obtain rfl : sample = .null := by simpa using dropped
        exact optionWrittenAs_null (fun _ => Json.not_abridges_null) sampled
    have partition : "partition" ∈ seen ∨ p.partition = none :=
      partition.imp_right fun dropped => by
        obtain rfl : part = .null := by simpa using dropped
        exact optionWrittenAs_null (fun _ => Json.not_abridges_null) parted
    have customQuery : "customQuery" ∈ seen ∨ p.customQuery = none :=
      customQuery.imp_right fun dropped => eq_none_of_ofOption_str (by simpa using dropped)
    have storageConfig : "storageConfig" ∈ seen ∨ p.storageConfig = none :=
      storageConfig.imp_right fun dropped => by
        obtain rfl : storage = .null := by simpa using dropped
        exact optionWrittenAs_null (fun _ => Json.not_abridges_null) stored
    have sampleDataCount : "sampleDataCount" ∈ seen ∨ p.sampleDataCount = none :=
      sampleDataCount.imp_right fun dropped => by
        cases given : p.sampleDataCount with
        | none => rfl
        | some n => simp [given, Json.ofOption] at dropped
    rw [partly, ite_of_default sampleConfig, ite_of_default partition, ite_of_default customQuery,
      ite_of_default storageConfig, ite_of_default sampleDataCount]

/-- Reading the text of a profile, where reading text gives what was written, checks the profile
and does nothing else. -/
theorem ofText_text {p : TableProfile} {v : Json} (fits : p.Representable) (h : p.WrittenAs v)
    (parses : Document.ofText v.text = (ofJson v, none)) :
    ofText v.text = match p.validate with
      | .ok () => .ok p
      | .error cause => .error (.configuration cause) := by
  have decoded : Document.decodeText (decode .text) v.text = .ok p := by
    rw [Document.decodeText, parses]
    show (do let a ← decode .text (ofJson v); Document.stopAt none; return a) = _
    rw [decode_writtenAs .text fits h]
    rfl
  rw [ofText, decoded]
  show (do p.validate.mapError QueryError.configuration; return p : Except QueryError TableProfile) = _
  cases p.validate with
  | ok _ => rfl
  | error cause => rfl

end TableProfile

structure Survives {α : Type} (written : α → Json → Prop) (toJson : α → Json)
    (decode : Document → Except Fault α) (a : α) : Prop where
  own : written a (toJson a)
  reads : ∀ v, written a v → decode (.ofJson v) = .ok a

/-- Tables, filters, partitions and profiles are read from every form they are written in. From its
text a profile is read exactly if it is valid, as far as the text is read as the value it is of. -/
theorem configuration_survives :
    (∀ (origin : Origin) (t : Table), Survives Table.WrittenAs Table.toJson (Table.decode origin) t) ∧
    (∀ (origin : Origin) (f : Filter), f.Ordered →
      Survives Filter.WrittenAs Filter.toJson (Filter.decode origin) f) ∧
    (∀ p : Partition, p.kind.Representable →
      Survives Partition.WrittenAs Partition.toJson Partition.decode p) ∧
    (∀ (origin : Origin) (p : TableProfile), p.Representable →
      Survives TableProfile.WrittenAs TableProfile.toJson (TableProfile.decode origin) p) ∧
    ∀ (p : TableProfile) (v : Json), p.Representable → p.WrittenAs v →
      Document.ofText v.text = (Document.ofJson v, none) →
      TableProfile.ofText v.text = match p.validate with
        | .ok () => .ok p
        | .error cause => .error (.configuration cause) := by
  refine ⟨fun origin t => ?_, fun origin f ordered => ?_, fun p fits => ?_, fun origin p fits => ?_,
    fun p v fits written parses => ?_⟩
  · exact ⟨t.writtenAs_toJson, fun v => Table.decode_writtenAs origin⟩
  · exact ⟨f.writtenAs_toJson, fun v => Filter.decode_writtenAs origin ordered⟩
  · exact ⟨p.writtenAs_toJson, fun v => Partition.decode_writtenAs fits⟩
  · exact ⟨p.writtenAs_toJson, fun v => TableProfile.decode_writtenAs origin fits⟩
  · exact TableProfile.ofText_text fits written parses

set_option maxRecDepth 4000 in
/-- Ten rows of two regions, written in an unusual order and without the members that are null. -/
theorem ten_rows_survive :
    TableProfile.ofText (Json.obj
      [("partition", .obj [("values", .arr [.str "eu", .obj [("area", .arr [.int 7, .null])]]),
          ("type", .str "column_values"), ("column", .str "region")]),
        ("sampleConfig", .obj [("value", .int 10), ("type", .str "ROWS")])]).text =
      .ok {
        sampleConfig := some (.rows 10)
        partition := some ⟨"region",
          .columnValues [.str "eu", .obj [("area", .arr [.int 7, .null])]]⟩ } := by
  obtain ⟨-, -, -, -, fromText⟩ := configuration_survives
  refine fromText
    { sampleConfig := some (.rows 10)
      partition := some ⟨"region",
        .columnValues [.str "eu", .obj [("area", .arr [.int 7, .null])]]⟩ } _ ?fits ?written ?parses
  case fits =>
    constructor
    case sampleConfig =>
      rintro c ⟨⟩
      show 10 < twoTo 64
      decide
    case partition =>
      rintro q ⟨⟩
      simp [PartitionKind.Representable, Json.Ordered, Json.OrderedItems, Json.OrderedMembers,
        Json.OrderedMember]
    case sampleDataCount => rintro n ⟨⟩
  case written =>
    refine ⟨_, _, .null, Json.abridges_of_perm (.swap _ _ _),
      Json.abridges_of_perm (List.reverse_perm _), rfl, _,
      [("customQuery", .null), ("storageConfig", .null), ("sampleDataCount", .null)], rfl,
      .swap _ _ _, ?_⟩
    simp
  case parses => with_unfolding_all rfl

end Profiling
