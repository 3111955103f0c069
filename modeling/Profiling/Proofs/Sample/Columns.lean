import Profiling.Proofs.Sample.Sources
import Profiling.Proofs.Sql.Exact

/-!
# The columns of a sample

The columns that a source says it has are those of its last query, and a partition can be put on
them again.
-/

namespace Profiling

variable {V K : Type} (db : Database V K)

namespace Sampler

variable {s : Sampler} {now : Instant}

/-! ### What the select of a sample shows -/

theorem columnsBeside_ne_nil (s : Sampler) (column : Column) : s.columnsBeside column ≠ [] := by
  unfold columnsBeside
  split
  · split <;> exact List.cons_ne_nil _ _
  · exact List.cons_ne_nil _ _

theorem items_base (s : Sampler) (column : Option Column) (label condition : Option Expr) :
    (s.base column label condition).items =
      s.baseProjection column ++ label.toList.map fun e => Expr.named e randomLabel := by
  have shows : s.baseProjection column ≠ [] := by
    cases column with
    | none => exact List.cons_ne_nil _ _
    | some column => exact fun empty => s.columnsBeside_ne_nil column (List.map_eq_nil_iff.mp empty)
  refine if_neg ?_
  rw [List.isEmpty_iff]
  exact fun empty => shows (List.append_eq_nil_iff.mp empty).1

theorem shownColumns_baseProjection (s : Sampler) (column : Option Column) :
    (s.baseProjection column).flatMap (Expr.shownColumns db (s.table.columns.map Column.name)) =
      (s.baseColumns column).map Column.name := by
  cases column with
  | none => exact List.append_nil _
  | some column =>
    have each (columns : List Column) : (columns.map fun c => Expr.column c.name).flatMap
        (Expr.shownColumns db (s.table.columns.map Column.name)) = columns.map Column.name := by
      induction columns with
      | nil => rfl
      | cons c rest ih => exact congrArg (c.name :: ·) ih
    exact each _

theorem shownColumns_base (s : Sampler) (column : Option Column) (label condition : Option Expr) :
    (s.base column label condition).shownColumns db (s.table.columns.map Column.name) =
      (s.baseColumns column ++ labelColumns label).map Column.name := by
  have labels : (label.toList.map fun e => Expr.named e randomLabel).flatMap
      (Expr.shownColumns db (s.table.columns.map Column.name)) = (labelColumns label).map Column.name := by
    cases label <;> rfl
  unfold Select.shownColumns
  rw [items_base, List.flatMap_append, List.map_append, labels, shownColumns_baseProjection]

/-! ### The relations of a sample -/

def drawn (s : Sampler) (base : Select) : Relation V K := base.rows db (db.table (.ofTable s.table))

theorem relation?_base (s : Sampler) (column : Option Column) (label condition : Option Expr) :
    (s.base column label condition).relation? db [] = some (s.drawn db (s.base column label condition)) :=
  Select.relation?_of_source db rfl rfl rfl rfl

theorem scope?_percentage {percent : Float} (tags : s.drawsTags (.percentage percent) = true)
    (column : Option Column) (label condition : Option Expr) :
    let tagged := s.drawn db (s.base column label condition)
    Cte.scope? db [] (s.sampleCtes (.percentage percent) (s.base column label condition)) =
      some [(sampleName s.table, (s.withinPercent percent).rows db tagged), (taggedName s.table, tagged)] := by
  intro tagged
  have read : (s.withinPercent percent).relation? db [(taggedName s.table, tagged)] =
      some ((s.withinPercent percent).rows db tagged) :=
    Select.relation?_of_source db rfl rfl rfl List.lookup_cons_self
  rw [sampleCtes_of_tags tags, Cte.scope?_cons db (s.relation?_base db column label condition),
    Cte.scope?_cons db read]
  rfl

theorem scope?_rows (s : Sampler) (count : Nat) (column : Option Column) (label condition : Option Expr) :
    Cte.scope? db [] (s.sampleCtes (.rows count) (s.base column label condition)) =
      some [(sampleName s.table, s.drawn db (firstRows count (s.base column label condition)))] := by
  have read : (firstRows count (s.base column label condition)).relation? db [] =
      some (s.drawn db (firstRows count (s.base column label condition))) :=
    Select.relation?_of_source db rfl rfl rfl rfl
  rw [sampleCtes, Cte.scope?_cons db read]
  rfl

theorem scope?_system {percent : Float} (tags : s.drawsTags (.percentage percent) = false)
    (column : Option Column) (label condition : Option Expr) :
    let clause := TableSample.systemPercent percent
    Cte.scope? db [] (s.sampleCtes (.percentage percent) (s.base column label condition)) =
      some [(sampleName s.table, ((s.base column label condition).withTableSample clause).rows db
        (db.sampled (.ofTable s.table) clause))] := by
  intro clause
  have read : ((s.base column label condition).withTableSample clause).relation? db [] =
      some (((s.base column label condition).withTableSample clause).rows db
        (db.sampled (.ofTable s.table) clause)) :=
    Select.relation?_of_source db rfl rfl rfl rfl
  rw [sampleCtes_of_no_tags tags, Cte.scope?_cons db read]
  rfl

/-- The queries of a sample can be read, and the last one has the columns of the select that the
sample is drawn from. -/
theorem scope?_sampleCtes (s : Sampler) (config : SampleConfig) (column : Option Column)
    (label condition : Option Expr) :
    ∃ sample earlier, Cte.scope? db [] (s.sampleCtes config (s.base column label condition)) =
        some ((sampleName s.table, sample) :: earlier) ∧
      sample.columns =
        (s.base column label condition).shownColumns db (db.table (.ofTable s.table)).columns := by
  cases config with
  | rows count => exact ⟨_, _, s.scope?_rows db count column label condition, rfl⟩
  | percentage percent =>
    cases tags : s.drawsTags (.percentage percent) with
    | true => exact ⟨_, _, scope?_percentage db tags column label condition, List.append_nil _⟩
    | false => exact ⟨_, _, scope?_system db tags column label condition, rfl⟩

/-- A source has the columns of its last query, where the table has those that are known of it, and
on these columns a partition puts the condition that it puts on the table. -/
theorem source_keeps_partition {column : Option String} {source : SampleSource}
    (built : s.getSampleQuery column now = .ok source)
    (known : (db.table (.ofTable s.table)).columns = s.table.columns.map Column.name) :
    (∃ sample earlier, Cte.scope? db [] source.ctes = some ((source.name, sample) :: earlier) ∧
      sample.columns = source.columns.map Column.name) ∧
    ∀ p, s.partition = some p →
      ∃ e, p.predicateAt source.columns now = .ok e ∧ p.predicateAt s.table.columns now = .ok e := by
  obtain ⟨config, requested, condition, -, found, narrowed, rfl⟩ := source_of_getSampleQuery built
  constructor
  · obtain ⟨sample, earlier, read, shows⟩ :=
      s.scope?_sampleCtes db config requested (s.tag? config) condition
    refine ⟨sample, earlier, read, ?_⟩
    rw [shows, known]
    exact s.shownColumns_base db requested (s.tag? config) condition
  · intro p bound
    have again := conditionOf_source config found narrowed
    rw [bound] at narrowed again
    obtain ⟨e, onTable, rfl⟩ := Partition.conditionOf_some narrowed
    obtain ⟨e', onSource, same⟩ := Partition.conditionOf_some again
    obtain rfl := Option.some.inj same
    exact ⟨e, onSource, onTable⟩

theorem nested_column_keeps_partition :
    let table : Table :=
      { schema := some "crm", name := "customers", columns := [⟨"id", .integer⟩, ⟨"address.city", .string⟩] }
    let range : Partition := ⟨"id", .integerRange 1 5⟩
    let options : SamplerOptions := { sampleConfig := some (.percentage 10), partition := some range }
    let db := Database.rational fun _ => ⟨["id", "address.city"], [], by simp⟩
    let now := Instant.ofSeconds 0 0 (by decide)
    ∃ s source sample earlier e, create .bigQuery table options = .ok s ∧
      s.getSampleQuery (some "address.city") now = .ok source ∧
      Cte.scope? db [] source.ctes = some (("customers_sample", sample) :: earlier) ∧
      sample.columns = ["address", "id"] ∧ range.predicateAt source.columns now = .ok e := by
  intro table range options db now
  obtain ⟨s, source, accepted, bound, outputs, built, named, shown⟩ :
      ∃ s source, create .bigQuery table options = .ok s ∧ s.partition = some range ∧
        (db.table (.ofTable s.table)).columns = s.table.columns.map Column.name ∧
        s.getSampleQuery (some "address.city") now = .ok source ∧ source.name = "customers_sample" ∧
        source.columns.map Column.name = ["address", "id"] :=
    ⟨_, _, rfl, rfl, rfl, rfl, rfl, rfl⟩
  obtain ⟨⟨sample, earlier, read, columns⟩, keeps⟩ := source_keeps_partition db built outputs
  obtain ⟨e, onSource, -⟩ := keeps range bound
  rw [named] at read
  exact ⟨s, source, sample, earlier, e, accepted, built, read, columns.trans shown, onSource⟩

end Sampler

end Profiling
