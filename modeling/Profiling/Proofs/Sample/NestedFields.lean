import Profiling.Proofs.Sample.Sources

/-!
# Samples of nested fields

BigQuery's strategy samples a nested field by the column in front of its first dot, whichever way the
sample is drawn. A request without a dot it answers as the generic strategy does, where the clause for
percentages cannot be used.
-/

namespace Profiling

def Table.withColumn (t : Table) (c : Column) : Table := { t with columns := t.columns ++ [c] }

theorem findColumn_snoc_self {columns : List Column} {c : Column} (missing : findColumn columns c.name = none) :
    findColumn (columns ++ [c]) c.name = some c := by
  unfold findColumn at missing ⊢
  rw [List.find?_append, missing]
  simp

theorem findColumn_snoc_of_ne {c : Column} {name : String} (other : name ≠ c.name) (columns : List Column) :
    findColumn (columns ++ [c]) name = findColumn columns name := by
  unfold findColumn
  rw [List.find?_append]
  simp [other.symm]

namespace Sampler

variable {s : Sampler} {now : Instant} {table : Table} {p : String}

/-! ### Names with dots -/

/-- The name in front of the first dot, which is the name itself if there is none. -/
def outermost (name : String) : String := String.ofList (name.toList.takeWhile (· != '.'))

theorem outermost_of_plain (plain : '.' ∉ p.toList) : outermost p = p := by
  have chars : ∀ c ∈ p.toList, (c != '.') = true := fun c member => bne_iff_ne.mpr (ne_of_mem_of_not_mem member plain)
  have all : (p.toList ++ []).takeWhile (· != '.') = p.toList ++ [] := List.takeWhile_append_of_pos chars
  rw [List.append_nil] at all
  rw [outermost, all, String.ofList_toList]

theorem parentName?_of_plain (plain : '.' ∉ p.toList) : parentName? p = none := by
  refine if_neg ?_
  simpa using plain

theorem parentName?_of_dotted (dotted : '.' ∈ p.toList) : parentName? p = some (outermost p) := by
  refine if_pos ?_
  simpa using dotted

theorem takeWhile_ne_append (c : Char) (x rest : List Char) :
    (x ++ c :: rest).takeWhile (· != c) = x.takeWhile (· != c) := by
  induction x with
  | nil => simp
  | cons d x ih =>
    rw [List.cons_append, List.takeWhile_cons, List.takeWhile_cons, ih]

/-- Whatever follows behind a dot, the first dot is where it was. -/
theorem parentName?_nested (p rest : String) : parentName? (p ++ "." ++ rest) = some (outermost p) := by
  have spelled : (p ++ "." ++ rest).toList = p.toList ++ '.' :: rest.toList := by simp
  rw [parentName?_of_dotted (by simp), outermost, spelled, takeWhile_ne_append, outermost]

/-! ### Columns -/

theorem sampledColumn_nested (table : Table) (p rest : String) :
    sampledColumn .bigQuery table (p ++ "." ++ rest) =
      .ok ((table.column? (outermost p)).getD ⟨outermost p, .struct⟩) := by
  simp only [sampledColumn, parentName?_nested]

theorem sampledColumn_of_plain (strategy : SamplingStrategy) (table : Table) (plain : '.' ∉ p.toList) :
    sampledColumn strategy table p = resolveColumn table p := by
  unfold sampledColumn
  rw [parentName?_of_plain plain]
  cases strategy <;> rfl

theorem resolveColumn_of_known {c : Column} (known : table.column? p = some c) : resolveColumn table p = .ok c := by
  unfold resolveColumn
  rw [known]

/-- A field of a column that the table knows is sampled as the column is, dots in its name or not. -/
theorem sampledColumn_of_known {c : Column} (known : table.column? p = some c) (rest : String) :
    sampledColumn .bigQuery table (p ++ "." ++ rest) = sampledColumn .bigQuery table p := by
  rw [sampledColumn_nested]
  by_cases dotted : '.' ∈ p.toList
  · simp only [sampledColumn, parentName?_of_dotted dotted]
  · rw [outermost_of_plain dotted, known, Option.getD_some, sampledColumn_of_plain _ _ dotted,
      resolveColumn_of_known known]

theorem requestedColumn_some (s : Sampler) (name : String) :
    s.requestedColumn (some name) = (sampledColumn s.strategy s.table name).map some := rfl

/-! ### Samples that come to the same -/

/-- What is requested matters to a sample by the column that it comes to. -/
theorem getSampleQuery_congr {column column' : Option String}
    (same : s.requestedColumn column = s.requestedColumn column') :
    s.getSampleQuery column now = s.getSampleQuery column' now := by
  rw [getSampleQuery_eq, getSampleQuery_eq, same]

theorem drawsTags_of_requireSampleConfig {config : SampleConfig} (required : s.requireSampleConfig = .ok config)
    (apart : s.table.isView = true ∨ ∃ count, s.sampleConfig = some (.rows count)) : s.drawsTags config = true := by
  cases config with
  | rows count => rfl
  | percentage percent =>
    rcases apart with view | ⟨count, rows⟩
    · exact Bool.or_eq_true_iff.mpr (.inr view)
    · rw [(bound_of_requireSampleConfig required).1] at rows
      cases rows

/-- A sample by tags has nothing of the strategy. -/
theorem source_generic {config : SampleConfig} (tags : s.drawsTags config = true) :
    ({ s with strategy := .generic } : Sampler).source config = s.source config := by
  have generic : ({ s with strategy := .generic } : Sampler).drawsTags config = true := by
    cases config <;> rfl
  unfold source sampleCtes tag?
  simp only [tags, generic]
  rfl

theorem getSampleQuery_generic {column : Option String}
    (apart : s.table.isView = true ∨ ∃ count, s.sampleConfig = some (.rows count))
    (plain : ∀ name ∈ column, '.' ∉ name.toList) :
    s.getSampleQuery column now = ({ s with strategy := .generic } : Sampler).getSampleQuery column now := by
  have requested : ({ s with strategy := .generic } : Sampler).requestedColumn column = s.requestedColumn column := by
    cases column with
    | none => rfl
    | some name =>
      rw [requestedColumn_some, requestedColumn_some, sampledColumn_of_plain _ _ (plain name rfl),
        sampledColumn_of_plain _ _ (plain name rfl)]
  have configured : ({ s with strategy := .generic } : Sampler).requireSampleConfig = s.requireSampleConfig := rfl
  rw [getSampleQuery_eq, getSampleQuery_eq, requested, configured]
  cases required : s.requireSampleConfig with
  | error cause => rfl
  | ok config =>
    have drawn := source_generic (drawsTags_of_requireSampleConfig required apart)
    simp only [Except.bind, drawn]

/-! ### Columns that the table does not know -/

theorem columnsBeside_withColumn {c : Column} (bound : ∀ q, s.partition = some q → q.column ≠ c.name)
    (column : Column) :
    ({ s with table := s.table.withColumn c } : Sampler).columnsBeside column = s.columnsBeside column := by
  unfold columnsBeside
  cases found : s.partition with
  | none => rfl
  | some q =>
    have same : (s.table.withColumn c).column? q.column = s.table.column? q.column :=
      findColumn_snoc_of_ne (bound q found) s.table.columns
    simp only [Option.bind_some, same]

theorem source_withColumn {c : Column} (bound : ∀ q, s.partition = some q → q.column ≠ c.name)
    (config : SampleConfig) (column : Column) (condition : Option Expr) :
    ({ s with table := s.table.withColumn c } : Sampler).source config (some column) condition =
      s.source config (some column) condition := by
  have beside := columnsBeside_withColumn bound column
  unfold source sampleCtes base baseProjection baseColumns
  simp only [beside]
  rfl

theorem conditionOf_withColumn {c : Column} (bound : ∀ q, s.partition = some q → q.column ≠ c.name) :
    Partition.conditionOf s.partition (s.table.withColumn c).columns now =
      Partition.conditionOf s.partition s.table.columns now := by
  cases found : s.partition with
  | none => rfl
  | some q =>
    have same := findColumn_snoc_of_ne (bound q found) s.table.columns
    exact congrArg (Except.map some) (q.predicateAt_congr same now)

/-- A field of an unknown column is sampled as if the table had that column, and that were a struct. -/
theorem getSampleQuery_withColumn (bigQuery : s.strategy = .bigQuery) (plain : '.' ∉ p.toList)
    (unknown : s.table.column? p = none) (bound : ∀ q, s.partition = some q → q.column ≠ p) (rest : String) :
    s.getSampleQuery (some (p ++ "." ++ rest)) now =
      ({ s with table := s.table.withColumn ⟨p, .struct⟩ } : Sampler).getSampleQuery (some p) now := by
  have nested : s.requestedColumn (some (p ++ "." ++ rest)) = .ok (some ⟨p, .struct⟩) := by
    rw [requestedColumn_some, bigQuery, sampledColumn_nested, outermost_of_plain plain, unknown]
    rfl
  have added : ({ s with table := s.table.withColumn ⟨p, .struct⟩ } : Sampler).requestedColumn (some p) =
      .ok (some ⟨p, .struct⟩) := by
    have known : (s.table.withColumn ⟨p, .struct⟩).column? p = some ⟨p, .struct⟩ := findColumn_snoc_self unknown
    rw [requestedColumn_some, sampledColumn_of_plain _ _ plain, resolveColumn_of_known known]
    rfl
  have configured : ({ s with table := s.table.withColumn ⟨p, .struct⟩ } : Sampler).requireSampleConfig =
      s.requireSampleConfig := rfl
  rw [getSampleQuery_eq, getSampleQuery_eq, nested, added, configured]
  simp only [Except.bind, conditionOf_withColumn (c := ⟨p, .struct⟩) bound]
  cases s.requireSampleConfig with
  | error cause => rfl
  | ok config => exact congrArg (Except.map · _) (funext fun condition => (source_withColumn bound config _ condition).symm)

/-! ### Nested fields -/

structure FlattensNested (s : Sampler) (table : Table) (options : SamplerOptions) (now : Instant) : Prop where
  /-- A field of a column that the table knows is sampled as the column. -/
  known : ∀ p rest, p ∈ table.columns.map Column.name →
    s.getSampleQuery (some (p ++ "." ++ rest)) now = s.getSampleQuery (some p) now
  /-- Views and numbers of rows are sampled as by the generic strategy, unless a name has a dot. -/
  generic : ∀ dialect column, table.isView = true ∨ (∃ count, options.sampleConfig = some (.rows count)) →
    (∀ name ∈ column, '.' ∉ name.toList) →
    ∃ g, withStrategy .generic dialect table options = .ok g ∧
      s.getSampleQuery column now = g.getSampleQuery column now
  /-- What stands behind the first dot does not matter. -/
  siblings : ∀ p rest rest',
    s.getSampleQuery (some (p ++ "." ++ rest)) now = s.getSampleQuery (some (p ++ "." ++ rest')) now
  /-- An unknown parent is sampled as a struct that the table has. -/
  unknown : ∀ p rest, '.' ∉ p.toList → p ∉ table.columns.map Column.name →
    (∀ q, options.partition = some q → q.column ≠ p) →
    ∃ t, withStrategy .bigQuery s.dialect (table.withColumn ⟨p, .struct⟩) options = .ok t ∧
      s.getSampleQuery (some (p ++ "." ++ rest)) now = t.getSampleQuery (some p) now

theorem column?_eq_none (table : Table) (name : String) :
    table.column? name = none ↔ name ∉ table.columns.map Column.name := by
  rw [Table.column?, findColumn_eq_none, List.mem_map]
  simp

/-- BigQuery's strategy refines the generic one: it samples nested fields by their parents, once on each
way, and adds nothing else to samples by tags. -/
theorem flattens_nested {dialect : Dialect} {options : SamplerOptions}
    (accepted : withStrategy .bigQuery dialect table options = .ok s) (now : Instant) :
    s.FlattensNested table options now := by
  have again := withStrategy_of_accepted accepted
  obtain ⟨-, -, built⟩ := eq_of_withStrategy accepted
  have bigQuery : s.strategy = .bigQuery := by rw [built]
  have own : s.table = table := by rw [built]
  have configured : s.sampleConfig = options.sampleConfig := by rw [built]
  have bound : s.partition = options.partition := by rw [built]
  subst own
  constructor
  · intro p rest member
    cases known : s.table.column? p with
    | none => exact absurd member ((column?_eq_none _ _).mp known)
    | some c =>
      refine getSampleQuery_congr ?_
      rw [requestedColumn_some, requestedColumn_some, bigQuery, sampledColumn_of_known known]
  · intro dialect column apart plain
    refine ⟨_, again .generic dialect s.table, ?_⟩
    rw [← configured] at apart
    exact getSampleQuery_generic apart plain
  · intro p rest rest'
    refine getSampleQuery_congr ?_
    rw [requestedColumn_some, requestedColumn_some, bigQuery, sampledColumn_nested, sampledColumn_nested]
  · intro p rest plain unknown others
    rw [← bound] at others
    refine ⟨_, again .bigQuery s.dialect (s.table.withColumn ⟨p, .struct⟩), ?_⟩
    rw [← bigQuery]
    exact getSampleQuery_withColumn bigQuery plain ((column?_eq_none _ _).mpr unknown) others rest

theorem customers_flattened :
    let table : Table :=
      { schema := some "crm", name := "customers", columns := [⟨"id", .integer⟩, ⟨"address", .struct⟩] }
    let options : SamplerOptions :=
      { sampleConfig := some (.percentage 10), partition := some ⟨"id", .integerRange 1 5⟩ }
    let now := Instant.ofSeconds 0 0 (by decide)
    ∃ s source t, create .bigQuery table options = .ok s ∧
      s.getSampleQuery (some "address") now = .ok source ∧
      s.getSampleQuery (some "address.city.district") now = .ok source ∧
      withStrategy .bigQuery .bigQuery (table.withColumn ⟨"billing", .struct⟩) options = .ok t ∧
      s.getSampleQuery (some "billing.city") now = t.getSampleQuery (some "billing") now := by
  intro table options now
  obtain ⟨s, source, accepted, dialect, built⟩ :
      ∃ s source, create .bigQuery table options = .ok s ∧ s.dialect = .bigQuery ∧
        s.getSampleQuery (some "address") now = .ok source :=
    ⟨_, _, rfl, rfl, rfl⟩
  have flattens := flattens_nested accepted now
  have nested := flattens.known "address" "city.district" (by decide)
  have others : ∀ q, options.partition = some q → q.column ≠ "billing" := by
    intro q bound
    obtain rfl := Option.some.inj bound
    decide
  obtain ⟨t, extended, same⟩ := flattens.unknown "billing" "city" (by decide) (by decide) others
  rw [dialect] at extended
  exact ⟨s, source, t, accepted, built, nested.trans built, extended, same⟩

end Sampler

end Profiling
