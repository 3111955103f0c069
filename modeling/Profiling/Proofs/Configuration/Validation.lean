import Profiling.Profile
import Profiling.Proofs.Decimal.Comparison
import Profiling.Proofs.Sample.Amounts
import Profiling.Proofs.Sample.Draw

/-!
# Profiles that samplers accept

The check of a profile and that of a sampler agree, so nothing but the table and the time are left to keep
an accepted sampler from its sample: the column of the partition may be missing, and its window may start
before the calendar.
-/

namespace Profiling

theorem SampleConfig.isFullTable_iff {config : SampleConfig} (valid : config.validate = .ok ()) :
    config.isFullTable = true ↔ config = .percentage 100 := by
  cases config with
  | rows count => simp [isFullTable]
  | percentage percent =>
    obtain ⟨above, below⟩ := percent_of_validate valid percent List.mem_cons_self
    constructor
    · intro full
      rw [float_eq_of_le_of_le above below (of_decide_eq_true full)]
    · intro whole
      rw [whole]
      decide +kernel

/-! ### Partitions -/

namespace Partition

variable {columns : List Column} {now : Instant} {cause : ConfigurationError}

/-- Why a partition with valid bounds puts no condition on rows. -/
inductive Misses (p : Partition) (columns : List Column) (now : Instant) : ConfigurationError → Prop where
  | column : (∀ c ∈ columns, c.name ≠ p.column) → p.Misses columns now (.partitionColumnMissing p.column)
  | window {interval : Nat} {unit : IntervalUnit} : (∃ c ∈ columns, c.name = p.column) →
      (p.kind = .timeUnit interval unit ∨ p.kind = .ingestionTime interval unit) →
      now.windowStart? interval unit = none → p.Misses columns now (.windowOutOfRange interval unit)

theorem refuses_iff_misses {p : Partition} (valid : p.validate = .ok ()) :
    p.Refuses columns now cause ↔ p.Misses columns now cause := by
  constructor
  · intro refuses
    cases refuses with
    | column missing => exact .column missing
    | bounds known invalid =>
      rw [valid] at invalid
      cases invalid
    | window known _ kind outside => exact .window known kind outside
  · intro misses
    cases misses with
    | column missing => exact .column missing
    | window known kind outside => exact .window known valid kind outside

theorem conditionOf_eq_error_iff {partition : Option Partition} (valid : validateEach validate partition = .ok ()) :
    conditionOf partition columns now = .error cause ↔ ∃ p, partition = some p ∧ p.Misses columns now cause := by
  cases partition with
  | none => simp [conditionOf]
  | some p =>
    have own : p.validate = .ok () := valid
    have failed : conditionOf (some p) columns now = .error cause ↔ p.predicateAt columns now = .error cause := by
      unfold conditionOf
      cases predicate : p.predicateAt columns now with
      | error why => simp [predicate, Except.map]
      | ok e => simp [predicate, Except.map]
    rw [failed, predicateAt_eq_error_iff, refuses_iff_misses own]
    simp

end Partition

/-! ### Samplers of profiles -/

namespace Sampler

variable {s : Sampler} {config : SampleConfig}

theorem requireSampleConfig_of_validate (bound : s.sampleConfig = some config) (valid : config.validate = .ok ()) :
    s.requireSampleConfig = .ok config := by
  unfold requireSampleConfig
  rw [bound]
  dsimp only
  rw [valid]
  rfl

theorem randomSample_of_part (custom : s.sampleQuery = none) (bound : s.sampleConfig = some config)
    (part : config.isFullTable = false) (now : Instant) :
    s.randomSample now = (s.getSampleQuery none now).map .sampled := by
  unfold randomSample
  rw [custom, bound]
  exact if_neg (ne_true_of_eq_false part)

end Sampler

namespace TableProfile

/-- Whether a profile asks for no sample: a query takes the place of the table, there is no configuration,
or it is all of the table. -/
def Unsampled (p : TableProfile) : Prop :=
  (∃ sql, p.customQuery.bind normalizeCustomQuery = some sql) ∨ p.sampleConfig = none ∨
    p.sampleConfig = some (.percentage 100)

def Misses (p : TableProfile) (table : Table) (now : Instant) (cause : ConfigurationError) : Prop :=
  ∃ q, p.partition = some q ∧ q.Misses table.columns now cause

def sampler (p : TableProfile) (settings : Settings) (dialect : Dialect) (table : Table) : Sampler where
  table := table
  dialect := dialect
  sampleConfig := p.sampleConfig
  partition := p.partition
  sampleQuery := p.customQuery.bind normalizeCustomQuery
  storageConfig := p.storageConfig
  sampleDataCount := p.sampleDataCount.getD settings.sampleDataCount
  strategy := .forDialect dialect

variable {p : TableProfile}

theorem create_eq (p : TableProfile) (settings : Settings) (dialect : Dialect) (table : Table) :
    Sampler.create dialect table (p.samplerOptions settings) =
      p.validate.map fun _ => p.sampler settings dialect table := by
  unfold Sampler.create Sampler.withStrategy validate samplerOptions
  dsimp only
  cases validateEach SampleConfig.validate p.sampleConfig with
  | error cause => rfl
  | ok _ => cases validateEach Partition.validate p.partition <;> rfl

theorem valid_parts (valid : p.validate = .ok ()) :
    validateEach SampleConfig.validate p.sampleConfig = .ok () ∧
      validateEach Partition.validate p.partition = .ok () := by
  obtain ⟨_, config, partition⟩ := ok_of_bind valid
  exact ⟨config, partition⟩

theorem randomSample_of_unsampled (unsampled : p.Unsampled) (settings : Settings) (dialect : Dialect)
    (table : Table) (now : Instant) : (p.sampler settings dialect table).randomSample now = .ok .noSample := by
  unfold Sampler.randomSample sampler
  dsimp only
  rcases unsampled with ⟨sql, custom⟩ | unconfigured | whole
  · rw [custom]
  · rw [unconfigured]
    cases p.customQuery.bind normalizeCustomQuery <;> rfl
  · have full : (SampleConfig.percentage 100).isFullTable = true := by decide +kernel
    rw [whole]
    cases p.customQuery.bind normalizeCustomQuery with
    | some sql => rfl
    | none => exact if_pos full

theorem randomSample_of_sampled (valid : p.validate = .ok ()) (sampled : ¬ p.Unsampled) (settings : Settings)
    (dialect : Dialect) (table : Table) (now : Instant) :
    ∃ config, p.sampleConfig = some config ∧ config.validate = .ok () ∧
      (p.sampler settings dialect table).randomSample now =
        (Partition.conditionOf p.partition table.columns now).map fun condition =>
          .sampled ((p.sampler settings dialect table).source config none condition) := by
  obtain ⟨ownQuery, configured⟩ := not_or.mp sampled
  obtain ⟨present, notWhole⟩ := not_or.mp configured
  have custom : p.customQuery.bind normalizeCustomQuery = none := by
    cases query : p.customQuery.bind normalizeCustomQuery with
    | none => rfl
    | some sql => exact absurd ⟨sql, query⟩ ownQuery
  cases bound : p.sampleConfig with
  | none => exact absurd bound present
  | some config =>
    have checked : config.validate = .ok () := by
      have parts := (valid_parts valid).1
      rw [bound] at parts
      exact parts
    have part : config.isFullTable = false := by
      refine Bool.eq_false_iff.mpr fun full => notWhole ?_
      rw [bound, (SampleConfig.isFullTable_iff checked).mp full]
    refine ⟨config, rfl, checked, ?_⟩
    have required : (p.sampler settings dialect table).requireSampleConfig = .ok config :=
      Sampler.requireSampleConfig_of_validate bound checked
    rw [Sampler.randomSample_of_part custom bound part, Sampler.getSampleQuery_eq, required]
    show ((Partition.conditionOf p.partition table.columns now).map _).map _ = _
    cases Partition.conditionOf p.partition table.columns now <;> rfl

end TableProfile

namespace Sampler

structure Follows (s : Sampler) (p : TableProfile) (table : Table) (now : Instant) : Prop where
  noSample_iff : s.randomSample now = .ok .noSample ↔ p.Unsampled
  error_iff : ∀ cause, s.randomSample now = .error cause ↔ ¬ p.Unsampled ∧ p.Misses table now cause
  sampled_iff : (∃ source, s.randomSample now = .ok (.sampled source)) ↔
    ¬ p.Unsampled ∧ ∀ cause, ¬ p.Misses table now cause
  amounts : ∀ source, s.randomSample now = .ok (.sampled source) →
    ∃ config, p.sampleConfig = some config ∧ config.Amounts source.ctes

theorem follows_sampler {p : TableProfile} (valid : p.validate = .ok ()) (settings : Settings) (dialect : Dialect)
    (table : Table) (now : Instant) : (p.sampler settings dialect table).Follows p table now := by
  by_cases unsampled : p.Unsampled
  · have drawn := p.randomSample_of_unsampled unsampled settings dialect table now
    constructor
    case noSample_iff => exact iff_of_true drawn unsampled
    case error_iff => simp [drawn, unsampled]
    case sampled_iff => simp [drawn, unsampled]
    case amounts => simp [drawn]
  · obtain ⟨config, configured, checked, drawn⟩ :=
      p.randomSample_of_sampled valid unsampled settings dialect table now
    have missing (cause : ConfigurationError) : Partition.conditionOf p.partition table.columns now = .error cause ↔
        p.Misses table now cause := Partition.conditionOf_eq_error_iff (TableProfile.valid_parts valid).2
    cases narrowed : Partition.conditionOf p.partition table.columns now with
    | error why =>
      rw [narrowed] at drawn missing
      replace drawn : (p.sampler settings dialect table).randomSample now = .error why := drawn
      have misses : p.Misses table now why := (missing why).mp rfl
      constructor
      case noSample_iff => simp [drawn, unsampled]
      case error_iff => simp [drawn, unsampled, ← missing]
      case sampled_iff =>
        refine iff_of_false (by simp [drawn]) ?_
        rintro ⟨-, others⟩
        exact others why misses
      case amounts => simp [drawn]
    | ok condition =>
      rw [narrowed] at drawn missing
      have fits (cause : ConfigurationError) : ¬ p.Misses table now cause := by simp [← missing]
      let source := (p.sampler settings dialect table).source config none condition
      replace drawn : (p.sampler settings dialect table).randomSample now = .ok (.sampled source) := drawn
      constructor
      case noSample_iff => simp [drawn, unsampled]
      case error_iff => simp [drawn, fits]
      case sampled_iff => exact iff_of_true ⟨source, drawn⟩ ⟨unsampled, fits⟩
      case amounts =>
        intro other given
        obtain rfl : source = other := SampleHandle.sampled.inj (Except.ok.inj (drawn.symm.trans given))
        exact ⟨config, configured, amounts_source checked (Partition.bounds_conditionOf narrowed) none⟩

end Sampler

namespace TableProfile

/-- A profile is refused for the same reason when it is loaded and when a sampler is made of it. A sampler
that is made then follows the profile, on every table and at every instant. -/
theorem validates_as_sampler (p : TableProfile) (settings : Settings) (dialect : Dialect)
    (table : Table) :
    (∀ cause, p.validate = .error cause ↔ Sampler.create dialect table (p.samplerOptions settings) = .error cause) ∧
    (p.validate = .ok () ↔ ∃ s, Sampler.create dialect table (p.samplerOptions settings) = .ok s) ∧
    ∀ s, Sampler.create dialect table (p.samplerOptions settings) = .ok s → ∀ now, s.Follows p table now := by
  rw [create_eq]
  cases valid : p.validate with
  | error cause => simp [Except.map]
  | ok _ =>
    refine ⟨by simp [Except.map], by simp [Except.map], ?_⟩
    intro s created now
    obtain rfl := Except.ok.inj created
    exact Sampler.follows_sampler valid settings dialect table now

/-- A sampler that is accepted still fails on a table without the column of the partition. -/
theorem nine_days_validated :
    let p : TableProfile := { sampleConfig := some (.rows 9), partition := some ⟨"day", .integerRange 1 5⟩ }
    let orders : Table := { name := "orders", columns := [⟨"id", .integer⟩] }
    let days : Table := { name := "days", columns := [⟨"day", .integer⟩] }
    let now := Instant.ofSeconds 0 0 (by decide)
    (∃ s, Sampler.create .postgres orders (p.samplerOptions {}) = .ok s ∧
      s.randomSample now = .error (.partitionColumnMissing "day")) ∧
    ∃ s source, Sampler.create .postgres days (p.samplerOptions {}) = .ok s ∧
      s.randomSample now = .ok (.sampled source) ∧ Cte.limits source.ctes = [9] := by
  intro p orders days now
  have sampled : ¬ p.Unsampled := by
    rintro (⟨sql, custom⟩ | unconfigured | whole)
    · cases custom
    · cases unconfigured
    · cases whole
  obtain ⟨-, accepted, follows⟩ := p.validates_as_sampler {} .postgres orders
  obtain ⟨s, created⟩ := accepted.mp rfl
  have misses : p.Misses orders now (.partitionColumnMissing "day") := ⟨_, rfl, .column (by decide)⟩
  refine ⟨⟨s, created, ((follows s created now).error_iff _).mpr ⟨sampled, misses⟩⟩, ?_⟩
  obtain ⟨-, accepted, follows⟩ := p.validates_as_sampler {} .postgres days
  obtain ⟨s, created⟩ := accepted.mp rfl
  have fits : ∀ cause, ¬ p.Misses days now cause := by
    rintro cause ⟨q, bound, misses⟩
    obtain rfl : Partition.mk "day" (.integerRange 1 5) = q := Option.some.inj bound
    cases misses with
    | column missing => exact missing _ List.mem_cons_self rfl
    | window known kind outside => simp at kind
  obtain ⟨source, drawn⟩ := (follows s created now).sampled_iff.mpr ⟨sampled, fits⟩
  obtain ⟨config, configured, amounts⟩ := (follows s created now).amounts source drawn
  obtain rfl : SampleConfig.rows 9 = config := Option.some.inj configured
  exact ⟨s, source, created, drawn, amounts.limits_eq⟩

end TableProfile

end Profiling
