import Mathlib.Tactic.Ring
import Profiling.Proofs.Results
import Profiling.Settings

/-!
# Settings read from variables

The settings of a process for all texts that its variables may have: which texts are taken, what they are
taken for, and which of several faults is told. A variable of blanks is as one that is missing.
-/

namespace Profiling

/-! ### Numbers -/

def placeValue : List Char → Nat
  | [] => 0
  | c :: ds => digitValue c * tenTo ds.length + placeValue ds

theorem digitsValue_eq_placeValue (ds : List Char) : digitsValue ds = placeValue ds := by
  have behind (n : Nat) : ds.foldl (fun n c => 10 * n + digitValue c) n = n * tenTo ds.length + placeValue ds := by
    induction ds generalizing n with
    | nil => simp [placeValue, tenTo]
    | cons c ds ih =>
      have shift : tenTo (ds.length + 1) = 10 * tenTo ds.length := Nat.pow_succ'
      rw [List.foldl_cons, ih, placeValue, List.length_cons, shift]
      ring
  rw [digitsValue, behind, Nat.zero_mul, Nat.zero_add]

namespace Settings

variable {lookup : String → Option String} {key raw : String}

/-- Whether a text is a number: digits, with a plus in front of them or not. -/
def Writes (s : List Char) (n : Nat) : Prop :=
  ∃ ds, (s = ds ∨ s = '+' :: ds) ∧ ds ≠ [] ∧ (∀ c ∈ ds, c.isDigit = true) ∧ n = placeValue ds

theorem number?_eq_some_iff {s : List Char} {n : Nat} : number? s = some n ↔ Writes s n := by
  have digits (ds : List Char) :
      (if ds.isEmpty || !ds.all Char.isDigit then none else some (digitsValue ds)) = some n ↔
      ds ≠ [] ∧ (∀ c ∈ ds, c.isDigit = true) ∧ n = placeValue ds := by
    rw [digitsValue_eq_placeValue, eq_comm (a := n)]
    simp [and_assoc]
  unfold number? Writes
  split
  · next rest =>
    dsimp only
    rw [digits]
    constructor
    · exact fun filled => ⟨rest, .inr rfl, filled⟩
    · rintro ⟨ds, rfl | same, filled⟩
      · -- A plus is no digit, so it is never the first of the digits.
        exact absurd (filled.2.1 '+' List.mem_cons_self) (by decide)
      · cases same
        exact filled
  · next noPlus =>
    dsimp only
    rw [digits]
    constructor
    · exact fun filled => ⟨s, .inl rfl, filled⟩
    · rintro ⟨ds, rfl | same, filled⟩
      · exact filled
      · exact absurd same (noPlus ds)

theorem Writes.unique {s : List Char} {m n : Nat} (first : Writes s m) (second : Writes s n) : m = n :=
  Option.some.inj ((number?_eq_some_iff.mpr first).symm.trans (number?_eq_some_iff.mpr second))

/-! ### Variables -/

/-- Whether a variable has a text with more than blanks. -/
def Given (lookup : String → Option String) (key raw : String) : Prop :=
  lookup key = some raw ∧ Text.isAllBlank raw = false

/-- Whether a variable is missing or has a text of blanks. -/
def Unset (lookup : String → Option String) (key : String) : Prop := ∀ raw, ¬ Given lookup key raw

theorem valueOf?_eq_some_iff : valueOf? lookup key = some raw ↔ Given lookup key raw := by
  rw [valueOf?, Option.filter_eq_some_iff, Bool.not_eq_true', Given]

theorem valueOf?_eq_none_iff : valueOf? lookup key = none ↔ Unset lookup key := by
  rw [Option.eq_none_iff_forall_ne_some]
  exact forall_congr' fun raw => not_congr valueOf?_eq_some_iff

theorem Given.unique {raw' : String} (first : Given lookup key raw) (second : Given lookup key raw') : raw = raw' :=
  Option.some.inj (first.1.symm.trans second.1)

end Settings

open Settings

/-- What settings are read from variables, the address apart. -/
inductive Setting where
  | timeout
  | batchSize
  | backend
  | sampleCount
  | connections
deriving DecidableEq

namespace Setting

def order : List Setting := [timeout, batchSize, backend, sampleCount, connections]

def key : Setting → String
  | timeout => "PROFILER_QUERY_TIMEOUT_SECS"
  | batchSize => "PROFILER_BATCH_SIZE"
  | backend => "PROFILER_BACKEND"
  | sampleCount => "PROFILER_SAMPLE_DATA_COUNT"
  | connections => "PROFILER_MAX_CONNECTIONS"

/-- The bits that the number of a setting may have. The backend is none. -/
def bits? : Setting → Option Nat
  | timeout | batchSize | sampleCount => some 64
  | backend => none
  | connections => some 32

def default : Setting → Nat
  | timeout | backend => 0
  | batchSize => defaultBatchSize
  | sampleCount => defaultSampleDataCount
  | connections => defaultMaxConnections

/-- Whether a text gives a setting a number. -/
def Takes (v : Setting) (raw : String) (n : Nat) : Prop :=
  ∃ bits, v.bits? = some bits ∧ n < twoTo bits ∧ Writes (Text.trim raw.toList) n

/-- Whether a text is the name of a dialect, in letters of whatever case. -/
def Names (raw : String) (d : Dialect) : Prop := (Dialect.lookupName raw, d) ∈ Dialect.named

/-- The fault of a text that a setting cannot be read from. -/
inductive Refuses : Setting → String → ConfigurationError → Prop where
  | number {v : Setting} {raw : String} :
      v.bits?.isSome → (∀ n, ¬ v.Takes raw n) → Refuses v raw (.notANumber v.key raw)
  | noRows {raw : String} : batchSize.Takes raw 0 → Refuses batchSize raw .emptyBatch
  | dialect {raw : String} :
      (∀ d, ¬ Names raw d) → Refuses backend raw (.unknownDialect (Dialect.lookupName raw))

/-- Whether a setting cannot be read from its variable, and the fault. -/
def Offends (lookup : String → Option String) (v : Setting) (e : ConfigurationError) : Prop :=
  ∃ raw, Given lookup v.key raw ∧ v.Refuses raw e

/-- Whether a setting has a number, its own or the default. -/
def Stands (lookup : String → Option String) (v : Setting) (n : Nat) : Prop :=
  (∃ raw, Given lookup v.key raw ∧ v.Takes raw n) ∨ (Unset lookup v.key ∧ n = v.default)

/-- Whether a dialect is named, or is the one for a backend that is not set. -/
def StandsAs (lookup : String → Option String) (d : Dialect) : Prop :=
  (∃ raw, Given lookup backend.key raw ∧ Names raw d) ∨ (Unset lookup backend.key ∧ d = .postgres)

variable {lookup : String → Option String} {v : Setting} {raw : String} {bits n : Nat} {d : Dialect}
  {e : ConfigurationError}

theorem Takes.unique {m : Nat} (first : v.Takes raw m) (second : v.Takes raw n) : m = n := by
  obtain ⟨-, -, -, first⟩ := first
  obtain ⟨-, -, -, second⟩ := second
  exact first.unique second

theorem takes_iff (number : v.bits? = some bits) :
    v.Takes raw n ↔ n < twoTo bits ∧ Writes (Text.trim raw.toList) n := by
  simp [Takes, number]

theorem parseNumber_cases (number : v.bits? = some bits) (raw : String) :
    (∃ n, v.Takes raw n ∧ parseNumber bits v.key raw = .ok n) ∨
      ((∀ n, ¬ v.Takes raw n) ∧ parseNumber bits v.key raw = .error (.notANumber v.key raw)) := by
  unfold parseNumber
  simp only [takes_iff number]
  cases read : number? (Text.trim raw.toList) with
  | none =>
    refine .inr ⟨fun n takes => ?_, rfl⟩
    rw [number?_eq_some_iff.mpr takes.2] at read
    cases read
  | some m =>
    have writes := number?_eq_some_iff.mp read
    by_cases fits : m < twoTo bits
    · exact .inl ⟨m, ⟨fits, writes⟩, if_pos fits⟩
    · refine .inr ⟨fun n takes => ?_, if_neg fits⟩
      rw [takes.2.unique writes] at takes
      exact fits takes.1

theorem readNumber_cases (number : v.bits? = some bits) (lookup : String → Option String) :
    (∃ n, v.Stands lookup n ∧ readNumber lookup v.key bits v.default = .ok n) ∨
      ∃ raw, Given lookup v.key raw ∧ (∀ n, ¬ v.Takes raw n) ∧
        readNumber lookup v.key bits v.default = .error (.notANumber v.key raw) := by
  unfold readNumber
  cases found : valueOf? lookup v.key with
  | none => exact .inl ⟨v.default, .inr ⟨valueOf?_eq_none_iff.mp found, rfl⟩, rfl⟩
  | some raw =>
    have given := valueOf?_eq_some_iff.mp found
    rcases parseNumber_cases number raw with ⟨n, takes, parsed⟩ | ⟨none, parsed⟩
    · exact .inl ⟨n, .inl ⟨raw, given, takes⟩, parsed⟩
    · exact .inr ⟨raw, given, none, parsed⟩

theorem offends_iff_of_given (given : Given lookup v.key raw) : v.Offends lookup e ↔ v.Refuses raw e := by
  constructor
  · rintro ⟨own, given', refuses⟩
    cases given.unique given'
    exact refuses
  · exact fun refuses => ⟨raw, given, refuses⟩

theorem not_offends_of_unset (unset : Unset lookup v.key) : ¬ v.Offends lookup e :=
  fun ⟨raw, given, _⟩ => unset raw given

theorem Takes.not_refuses (takes : v.Takes raw n) (filled : v = batchSize → n ≠ 0) : ¬ v.Refuses raw e := by
  intro refuses
  cases refuses with
  | number _ none => exact none n takes
  | noRows zero => exact filled rfl (takes.unique zero)
  | dialect =>
    obtain ⟨_, number, -⟩ := takes
    cases number

theorem refuses_iff_of_not_taken (number : v.bits?.isSome) (none : ∀ n, ¬ v.Takes raw n) :
    v.Refuses raw e ↔ e = .notANumber v.key raw := by
  constructor
  · intro refuses
    cases refuses with
    | number => rfl
    | noRows zero => exact absurd zero (none 0)
    | dialect => cases number
  · rintro rfl
    exact .number number none

theorem refuses_iff_of_zero (zero : batchSize.Takes raw 0) : batchSize.Refuses raw e ↔ e = .emptyBatch := by
  constructor
  · intro refuses
    cases refuses with
    | number _ none => exact absurd zero (none 0)
    | noRows => rfl
  · rintro rfl
    exact .noRows zero

theorem refuses_backend_iff : backend.Refuses raw e ↔
    (∀ d, ¬ Names raw d) ∧ e = .unknownDialect (Dialect.lookupName raw) := by
  constructor
  · intro refuses
    cases refuses with
    | number isNumber => cases isNumber
    | dialect none => exact ⟨none, rfl⟩
  · rintro ⟨none, rfl⟩
    exact .dialect none

theorem Stands.not_offends (stands : v.Stands lookup n) (filled : v = batchSize → n ≠ 0) :
    ¬ v.Offends lookup e := by
  rcases stands with ⟨raw, given, takes⟩ | ⟨unset, -⟩
  · rw [offends_iff_of_given given]
    exact takes.not_refuses filled
  · exact not_offends_of_unset unset

theorem StandsAs.not_offends (stands : StandsAs lookup d) : ¬ backend.Offends lookup e := by
  rcases stands with ⟨raw, given, names⟩ | ⟨unset, -⟩
  · rw [offends_iff_of_given given, refuses_backend_iff]
    exact fun refuses => refuses.1 d names
  · exact not_offends_of_unset unset

theorem ofName?_eq_some_iff : Dialect.ofName? raw = some d ↔ Names raw d := by
  unfold Dialect.ofName? Names
  generalize Dialect.lookupName raw = name
  constructor
  · intro found
    obtain ⟨before, behind, split, -⟩ := List.lookup_eq_some_iff.mp found
    rw [split]
    exact List.mem_append_right before List.mem_cons_self
  · intro member
    simp only [Dialect.named, List.mem_cons, List.not_mem_nil, or_false, Prod.mk.injEq] at member
    rcases member with ⟨rfl, rfl⟩ | ⟨rfl, rfl⟩ | ⟨rfl, rfl⟩ | ⟨rfl, rfl⟩ | ⟨rfl, rfl⟩ | ⟨rfl, rfl⟩ <;> rfl

theorem readBackend_cases (lookup : String → Option String) :
    (∃ d, StandsAs lookup d ∧ readBackend lookup = .ok d) ∨
      ∃ raw, Given lookup backend.key raw ∧ (∀ d, ¬ Names raw d) ∧
        readBackend lookup = .error (.unknownDialect (Dialect.lookupName raw)) := by
  have same : valueOf? lookup "PROFILER_BACKEND" = valueOf? lookup backend.key := rfl
  unfold readBackend
  rw [same]
  cases found : valueOf? lookup backend.key with
  | none => exact .inl ⟨.postgres, .inr ⟨valueOf?_eq_none_iff.mp found, rfl⟩, rfl⟩
  | some raw =>
    have given := valueOf?_eq_some_iff.mp found
    dsimp only [Dialect.parse]
    cases named : Dialect.ofName? raw with
    | none =>
      refine .inr ⟨raw, given, fun d names => ?_, rfl⟩
      rw [ofName?_eq_some_iff.mpr names] at named
      cases named
    | some d => exact .inl ⟨d, .inl ⟨raw, given, ofName?_eq_some_iff.mp named⟩, rfl⟩

/-! ### Faults -/

/-- The fault that a read ends with. -/
def faultOf? {α : Type} : Except ConfigurationError α → Option ConfigurationError
  | .ok _ => none
  | .error e => some e

def fault? (lookup : String → Option String) : Setting → Option ConfigurationError
  | timeout => faultOf? (readNumber lookup timeout.key 64 timeout.default)
  | batchSize =>
    match readNumber lookup batchSize.key 64 batchSize.default with
    | .ok n => if n = 0 then some .emptyBatch else none
    | .error e => some e
  | backend => faultOf? (readBackend lookup)
  | sampleCount => faultOf? (readNumber lookup sampleCount.key 64 sampleCount.default)
  | connections => faultOf? (readNumber lookup connections.key 32 connections.default)

theorem faultOf?_readNumber (number : v.bits? = some bits) (other : v ≠ batchSize) :
    faultOf? (readNumber lookup v.key bits v.default) = some e ↔ v.Offends lookup e := by
  rcases readNumber_cases number lookup with ⟨n, stands, read⟩ | ⟨raw, given, none, read⟩
  · rw [read]
    exact iff_of_false nofun (stands.not_offends fun same => absurd same other)
  · have isNumber : v.bits?.isSome := by rw [number]; rfl
    rw [read, offends_iff_of_given given, refuses_iff_of_not_taken isNumber none, faultOf?, Option.some_inj, eq_comm]

theorem fault?_eq_some_iff : fault? lookup v = some e ↔ v.Offends lookup e := by
  cases v with
  | timeout => exact faultOf?_readNumber rfl nofun
  | batchSize =>
    unfold fault?
    rcases readNumber_cases (v := batchSize) rfl lookup with ⟨n, stands, read⟩ | ⟨raw, given, none, read⟩
    · rw [read]
      dsimp only
      by_cases zero : n = 0
      · -- Nobody gets zero by default, so it was written.
        subst zero
        rcases stands with ⟨raw, given, takes⟩ | ⟨-, default⟩
        · rw [if_pos rfl, offends_iff_of_given given, refuses_iff_of_zero takes, Option.some_inj, eq_comm]
        · cases default
      · rw [if_neg zero]
        exact iff_of_false nofun (stands.not_offends fun _ => zero)
    · rw [read, offends_iff_of_given given, refuses_iff_of_not_taken rfl none, Option.some_inj, eq_comm]
  | backend =>
    unfold fault?
    rcases readBackend_cases lookup with ⟨d, stands, read⟩ | ⟨raw, given, none, read⟩
    · rw [read]
      exact iff_of_false nofun stands.not_offends
    · rw [read, offends_iff_of_given given, refuses_backend_iff, and_iff_right none, faultOf?, Option.some_inj,
        eq_comm]
  | sampleCount => exact faultOf?_readNumber rfl nofun
  | connections => exact faultOf?_readNumber rfl nofun

theorem ofLookup_eq (lookup : String → Option String) : ofLookup lookup =
    (readNumber lookup timeout.key 64 timeout.default >>= fun seconds =>
      readNumber lookup batchSize.key 64 batchSize.default >>= fun rows =>
        if rows = 0 then .error .emptyBatch
        else readBackend lookup >>= fun dialect =>
          readNumber lookup sampleCount.key 64 sampleCount.default >>= fun count =>
            readNumber lookup connections.key 32 connections.default >>= fun most => .ok {
              databaseUrl := (valueOf? lookup "PROFILER_DATABASE_URL").or (valueOf? lookup "DATABASE_URL")
              backend := dialect, queryTimeout := timeoutOf seconds, batchSize := rows
              sampleDataCount := count, maxConnections := most }) := rfl

theorem ofLookup_eq_error_iff : ofLookup lookup = .error e ↔ order.findSome? (fault? lookup) = some e := by
  rw [ofLookup_eq]
  simp only [order, List.findSome?_cons, List.findSome?_nil, fault?]
  -- The first read that fails ends them all; a batch size of zero does so before the backend is read.
  cases readNumber lookup timeout.key 64 timeout.default with
  | error => simp [faultOf?, bind, Except.bind]
  | ok seconds =>
    cases readNumber lookup batchSize.key 64 batchSize.default with
    | error => simp [faultOf?, bind, Except.bind]
    | ok rows =>
      by_cases empty : rows = 0
      · simp [faultOf?, bind, Except.bind, empty]
      · cases readBackend lookup with
        | error => simp [faultOf?, bind, Except.bind, empty]
        | ok dialect =>
          cases readNumber lookup sampleCount.key 64 sampleCount.default with
          | error => simp [faultOf?, bind, Except.bind, empty]
          | ok count =>
            cases readNumber lookup connections.key 32 connections.default <;>
              simp [faultOf?, bind, Except.bind, empty]

end Setting

namespace Settings

open Setting

structure Readable (lookup : String → Option String) : Prop where
  numbers : ∀ (v : Setting) raw, v.bits?.isSome → Given lookup v.key raw → ∃ n, v.Takes raw n
  rows : ∀ raw, Given lookup Setting.batchSize.key raw → ¬ Setting.batchSize.Takes raw 0
  named : ∀ raw, Given lookup Setting.backend.key raw → ∃ d, Names raw d

structure Holds (lookup : String → Option String) (s : Settings) : Prop where
  queryTimeout : ∃ seconds, timeout.Stands lookup seconds ∧
    (seconds = 0 ∧ s.queryTimeout = none ∨ 0 < seconds ∧ s.queryTimeout = some (.ofSeconds seconds))
  positive : ∀ t, s.queryTimeout = some t → 0 < t.nanos
  batchSize : Setting.batchSize.Stands lookup s.batchSize
  filled : 1 ≤ s.batchSize
  backend : StandsAs lookup s.backend
  sampleDataCount : sampleCount.Stands lookup s.sampleDataCount
  maxConnections : connections.Stands lookup s.maxConnections
  /-- The address is the text of the first of two variables that is given. -/
  databaseUrl : ∀ url, s.databaseUrl = some url ↔
    Given lookup "PROFILER_DATABASE_URL" url ∨
      (Unset lookup "PROFILER_DATABASE_URL" ∧ Given lookup "DATABASE_URL" url)

def keys : List String := order.map Setting.key ++ ["PROFILER_DATABASE_URL", "DATABASE_URL"]

variable {lookup : String → Option String} {key : String} {s : Settings}

theorem readable_iff : Readable lookup ↔ ∀ (v : Setting) e, ¬ v.Offends lookup e := by
  constructor
  · rintro ⟨numbers, rows, named⟩ v e ⟨raw, given, refuses⟩
    cases refuses with
    | number isNumber none =>
      obtain ⟨n, takes⟩ := numbers v raw isNumber given
      exact none n takes
    | noRows zero => exact rows raw given zero
    | dialect none =>
      obtain ⟨d, names⟩ := named raw given
      exact none d names
  · intro none
    refine ⟨fun v raw isNumber given => ?_, fun raw given zero => ?_, fun raw given => ?_⟩
    · by_contra refused
      exact none v _ ⟨raw, given, .number isNumber (not_exists.mp refused)⟩
    · exact none _ _ ⟨raw, given, .noRows zero⟩
    · by_contra refused
      exact none _ _ ⟨raw, given, .dialect (not_exists.mp refused)⟩

theorem exists_ofLookup_iff : (∃ s, ofLookup lookup = .ok s) ↔ Readable lookup := by
  have settled : (∃ s, ofLookup lookup = .ok s) ↔ ∀ e, ofLookup lookup ≠ .error e := by
    cases ofLookup lookup with
    | ok s => simp
    | error e => simp
  have every (v : Setting) : v ∈ order := by cases v <;> decide
  rw [settled, readable_iff]
  simp only [ne_eq, ofLookup_eq_error_iff]
  rw [← Option.eq_none_iff_forall_ne_some, List.findSome?_eq_none_iff]
  simp only [every, forall_const, Option.eq_none_iff_forall_ne_some, ne_eq, fault?_eq_some_iff]

theorem stands_of_readNumber {v : Setting} {bits n : Nat} (number : v.bits? = some bits)
    (read : readNumber lookup v.key bits v.default = .ok n) : v.Stands lookup n := by
  rcases readNumber_cases number lookup with ⟨m, stands, found⟩ | ⟨raw, -, -, found⟩
  · cases read.symm.trans found
    exact stands
  · cases read.symm.trans found

theorem standsAs_of_readBackend {d : Dialect} (read : readBackend lookup = .ok d) : StandsAs lookup d := by
  rcases readBackend_cases lookup with ⟨d', stands, found⟩ | ⟨raw, -, -, found⟩
  · cases read.symm.trans found
    exact stands
  · cases read.symm.trans found

theorem timeoutOf_cases (seconds : Nat) : seconds = 0 ∧ timeoutOf seconds = none ∨
    0 < seconds ∧ timeoutOf seconds = some (.ofSeconds seconds) := by
  unfold timeoutOf
  split
  · next zero => exact .inl ⟨zero, rfl⟩
  · next filled => exact .inr ⟨Nat.pos_of_ne_zero filled, rfl⟩

theorem nanos_of_timeoutOf {seconds : Nat} {t : Duration} (some : timeoutOf seconds = some t) : 0 < t.nanos := by
  rcases timeoutOf_cases seconds with ⟨-, none⟩ | ⟨filled, own⟩
  · cases none.symm.trans some
  · cases own.symm.trans some
    exact Nat.mul_pos filled (Nat.pow_pos (by decide))

theorem holds_of_ofLookup (read : ofLookup lookup = .ok s) : Holds lookup s := by
  rw [ofLookup_eq] at read
  obtain ⟨seconds, timeout, read⟩ := ok_of_bind read
  obtain ⟨rows, batchSize, read⟩ := ok_of_bind read
  split at read
  · cases read
  next filled =>
  obtain ⟨dialect, backend, read⟩ := ok_of_bind read
  obtain ⟨count, sampleCount, read⟩ := ok_of_bind read
  obtain ⟨most, connections, read⟩ := ok_of_bind read
  cases read
  exact {
    queryTimeout := ⟨seconds, stands_of_readNumber rfl timeout, timeoutOf_cases seconds⟩
    positive := fun t => nanos_of_timeoutOf
    batchSize := stands_of_readNumber rfl batchSize
    filled := Nat.one_le_iff_ne_zero.mpr filled
    backend := standsAs_of_readBackend backend
    sampleDataCount := stands_of_readNumber rfl sampleCount
    maxConnections := stands_of_readNumber rfl connections
    databaseUrl := fun url => by
      rw [Option.or_eq_some_iff, valueOf?_eq_some_iff, valueOf?_eq_none_iff, valueOf?_eq_some_iff] }

/-- Whether a variable has the same text twice, or no text but blanks either time. -/
def Alike (lookup lookup' : String → Option String) (key : String) : Prop :=
  lookup' key = lookup key ∨ (Unset lookup' key ∧ Unset lookup key)

theorem Alike.valueOf?_eq {lookup' : String → Option String} (alike : Alike lookup lookup' key) :
    valueOf? lookup' key = valueOf? lookup key := by
  rcases alike with same | ⟨unset', unset⟩
  · rw [valueOf?, valueOf?, same]
  · rw [valueOf?_eq_none_iff.mpr unset', valueOf?_eq_none_iff.mpr unset]

theorem ofLookup_congr {lookup' : String → Option String}
    (same : ∀ key ∈ keys, valueOf? lookup' key = valueOf? lookup key) : ofLookup lookup' = ofLookup lookup := by
  have number (v : Setting) (bits : Nat) :
      readNumber lookup' v.key bits v.default = readNumber lookup v.key bits v.default := by
    rw [readNumber, readNumber, same v.key (by cases v <;> decide)]
  have dialect : readBackend lookup' = readBackend lookup := by
    rw [readBackend, readBackend, same "PROFILER_BACKEND" (by decide)]
  rw [ofLookup_eq, ofLookup_eq, dialect, same "PROFILER_DATABASE_URL" (by decide), same "DATABASE_URL" (by decide)]
  simp only [number]

structure Read (lookup : String → Option String) : Prop where
  succeeds : (∃ s, ofLookup lookup = .ok s) ↔ Readable lookup
  holds : ∀ s, ofLookup lookup = .ok s → Holds lookup s
  /-- Of several faults the one is told that comes first in the order of the settings. -/
  fails : ∀ e, ofLookup lookup = .error e ↔ ∃ earlier v later, order = earlier ++ v :: later ∧
    v.Offends lookup e ∧ ∀ u ∈ earlier, ∀ f, ¬ u.Offends lookup f
  /-- Blanks in place of a missing text make no difference, and other variables make none. -/
  alike : ∀ lookup', (∀ key ∈ keys, Alike lookup lookup' key) → ofLookup lookup' = ofLookup lookup

theorem settings_read (lookup : String → Option String) : Read lookup where
  succeeds := exists_ofLookup_iff
  holds _ := holds_of_ofLookup
  fails e := by
    rw [ofLookup_eq_error_iff, List.findSome?_eq_some_iff]
    simp only [fault?_eq_some_iff, Option.eq_none_iff_forall_ne_some, ne_eq]
  alike _ alike := ofLookup_congr fun key member => (alike key member).valueOf?_eq

/-- Of a batch size of zero and a backend without a name, the batch size is told. -/
example :
    let lookup : String → Option String := fun key =>
      if key = "PROFILER_BATCH_SIZE" then some " +00 " else if key = "PROFILER_BACKEND" then some "sqlite" else none
    ofLookup lookup = .error .emptyBatch := by
  rfl

end Settings

end Profiling
