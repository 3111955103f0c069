import Profiling.Proofs.Sample.Draw

/-!
# The name of the random tags

A sample by random tags shows their column beside others. The names of its columns are distinct exactly
if none of the others has the name of the tags, and then the condition or the order of the sample reads
the tags. Nothing keeps a table, or the parent of a nested field, from having that name.
-/

namespace Profiling

variable {V K : Type} {db : Database V K}

structure Select.NamesTag (db : Database V K) (q : Select) (columns : List String) (tag : Expr) : Prop where
  shown : ∀ t : Tuple V K, t.values.length = columns.length →
    (db.view (q.shownColumns db columns) (q.shown db columns t)).cell randomLabel =
      tag.value db.toInterpretation (db.view columns t)
  ordered : ∀ t : Tuple V K, t.values.length = columns.length →
    (q.keyView db columns t).cell randomLabel = tag.value db.toInterpretation (db.view columns t)

namespace Sampler

variable {s : Sampler} {now : Instant} {column : Option Column}

/-! ### Distinct names -/

theorem nodup_columnsBeside (s : Sampler) (column : Column) : ((s.columnsBeside column).map Column.name).Nodup := by
  unfold columnsBeside
  split
  · split
    · simp
    · next other => simpa using other
  · simp

theorem nodup_baseColumns (distinct : (s.table.columns.map Column.name).Nodup) (column : Option Column) :
    ((s.baseColumns column).map Column.name).Nodup := by
  cases column with
  | none => exact distinct
  | some column => exact s.nodup_columnsBeside column

theorem labelColumns_tag? (s : Sampler) (config : SampleConfig) :
    labelColumns (s.tag? config) = if s.drawsTags config then [⟨randomLabel, .float⟩] else [] := by
  unfold tag?
  split
  · cases config <;> rfl
  · rfl

theorem drawsTags_of_tag? {config : SampleConfig} {tag : Expr} (drawn : s.tag? config = some tag) :
    s.drawsTags config = true := by
  unfold tag? at drawn
  split at drawn
  · assumption
  · cases drawn

/-- Only the name of the tags can stand twice among those of a source. -/
theorem nodup_source_iff (distinct : (s.table.columns.map Column.name).Nodup) (config : SampleConfig)
    (column : Option Column) (condition : Option Expr) :
    ((s.source config column condition).columns.map Column.name).Nodup ↔
      (s.drawsTags config = true → randomLabel ∉ (s.baseColumns column).map Column.name) := by
  have own := nodup_baseColumns distinct column
  unfold source
  rw [labelColumns_tag?, List.map_append]
  cases s.drawsTags config with
  | false => simpa using own
  | true =>
    rw [if_pos rfl, List.map_singleton, List.nodup_append]
    simp only [own, List.nodup_cons, List.not_mem_nil, List.nodup_nil, List.mem_singleton, true_and, forall_const,
      forall_eq, not_false_eq_true]
    exact ⟨fun other member => other _ member rfl, fun fresh name member same => fresh (same ▸ member)⟩

/-! ### What the name stands for -/

theorem shown_base_label (column : Option Column) (tag : Expr) (condition : Option Expr) (columns : List String)
    (t : Tuple V K) :
    (s.base column (some tag) condition).shown db columns t =
      ⟨(s.baseProjection column).flatMap (Expr.shownValues db columns t) ++
        [tag.value db.toInterpretation (db.view columns t)], t.draw⟩ := by
  unfold Select.shown
  rw [items_base, List.flatMap_append]
  rfl

/-- Where no column beside the tags has their name, it stands for them. -/
theorem namesTag_base (fresh : randomLabel ∉ (s.baseColumns column).map Column.name) (tag : Expr)
    (condition : Option Expr) :
    (s.base column (some tag) condition).NamesTag db (s.table.columns.map Column.name) tag := by
  have header : (s.base column (some tag) condition).shownColumns db (s.table.columns.map Column.name) =
      (s.baseColumns column).map Column.name ++ [randomLabel] := by
    rw [shownColumns_base, List.map_append]
    rfl
  have aligned {t : Tuple V K} (own : t.values.length = (s.table.columns.map Column.name).length) :
      ((s.baseProjection column).flatMap
        (Expr.shownValues db (s.table.columns.map Column.name) t)).length =
        ((s.baseColumns column).map Column.name).length := by
    rw [← shownColumns_baseProjection db s column, List.length_flatMap, List.length_flatMap]
    exact congrArg _ (List.map_congr_left fun e _ => e.length_shownValues db own)
  constructor
  · intro t own
    rw [header, shown_base_label]
    exact db.cell_view (aligned own) fresh _ [] [] t.draw
  · intro t own
    unfold Select.keyView
    rw [header, shown_base_label]
    dsimp only
    rw [List.append_assoc, List.append_assoc]
    exact db.cell_view (aligned own) fresh _ _ t.values t.draw

/-- A sample by tags reads them in its first query. -/
theorem namesTag_source {config : SampleConfig} {tag : Expr} (drawn : s.tag? config = some tag)
    (fresh : randomLabel ∉ (s.baseColumns column).map Column.name) (condition : Option Expr) (db : Database V K)
    {c : Cte} (first : (s.source config column condition).ctes.head? = some c) :
    c.query.NamesTag db (s.table.columns.map Column.name) tag := by
  have names : (s.base column (s.tag? config) condition).NamesTag db (s.table.columns.map Column.name) tag := by
    rw [drawn]
    exact namesTag_base fresh tag condition
  unfold source at first
  cases config with
  | rows count =>
    obtain rfl := Option.some.inj first
    exact ⟨names.shown, names.ordered⟩
  | percentage percent =>
    rw [sampleCtes_of_tags (drawsTags_of_tag? drawn)] at first
    obtain rfl := Option.some.inj first
    exact names

/-- The columns of a source have distinct names exactly if no other column has that of the tags, and
then the name stands for them wherever the sample is drawn by it. -/
theorem label_stands_alone {column : Option String} {source : SampleSource}
    (distinct : (s.table.columns.map Column.name).Nodup) (built : s.getSampleQuery column now = .ok source) :
    ∃ config requested, s.requireSampleConfig = .ok config ∧ s.requestedColumn column = .ok requested ∧
      ((source.columns.map Column.name).Nodup ↔
        (s.drawsTags config = true → randomLabel ∉ (s.baseColumns requested).map Column.name)) ∧
      ((source.columns.map Column.name).Nodup → ∀ tag, s.tag? config = some tag →
        ∀ {V K : Type} (db : Database V K) (c : Cte), source.ctes.head? = some c →
          c.query.NamesTag db (s.table.columns.map Column.name) tag) := by
  obtain ⟨config, requested, condition, configured, found, -, rfl⟩ := source_of_getSampleQuery built
  have alone := nodup_source_iff distinct config requested condition
  refine ⟨config, requested, configured, found, alone, fun apart tag drawn V K db c first => ?_⟩
  exact namesTag_source drawn (alone.mp apart (drawsTags_of_tag? drawn)) condition db first

/-- A nested field of a view, with the column of the partition beside it. -/
theorem nested_field_beside_label :
    let table : Table := { name := "customers", kind := .view, columns := [⟨"id", .integer⟩, ⟨"address", .struct⟩] }
    let options : SamplerOptions :=
      { sampleConfig := some (.percentage 10), partition := some ⟨"id", .integerRange 1 5⟩ }
    let db := Database.rational fun _ => ⟨["id", "address"], [], by simp⟩
    let now := Instant.ofSeconds 0 0 (by decide)
    ∃ s source tagged kept, create .bigQuery table options = .ok s ∧
      s.getSampleQuery (some "address.city") now = .ok source ∧ source.ctes = [tagged, kept] ∧
      (source.columns.map Column.name).Nodup ∧
      tagged.query.NamesTag db ["id", "address"] (Expr.random.multiply (.int 100)) := by
  intro table options db now
  obtain ⟨s, source, tagged, kept, accepted, built, ctes, isTable, names, sampled, drawn⟩ :
      ∃ s source tagged kept, create .bigQuery table options = .ok s ∧
        s.getSampleQuery (some "address.city") now = .ok source ∧ source.ctes = [tagged, kept] ∧
        s.table = table ∧ source.columns.map Column.name = ["address", "id", "random"] ∧
        s.requireSampleConfig = .ok (.percentage 10) ∧
        s.tag? (.percentage 10) = some (Expr.random.multiply (.int 100)) :=
    ⟨_, _, _, _, rfl, rfl, rfl, rfl, rfl, rfl, rfl⟩
  have distinct : (s.table.columns.map Column.name).Nodup := by
    rw [isTable]
    decide
  have apart : (source.columns.map Column.name).Nodup := by
    rw [names]
    decide
  obtain ⟨config, requested, configured, -, -, stands⟩ := label_stands_alone distinct built
  obtain rfl : config = .percentage 10 := Except.ok.inj (configured.symm.trans sampled)
  have named := stands apart _ drawn db tagged (by rw [ctes]; rfl)
  rw [isTable] at named
  exact ⟨s, source, tagged, kept, accepted, built, ctes, apart, named⟩

/-- A table may have a column of that name itself, and where it has none the parent of a nested field
may; either way two columns of the sample have one name. -/
theorem label_meets_own_name :
    let table : Table := { name := "orders", columns := [⟨"id", .integer⟩, ⟨"random", .float⟩] }
    let view : Table := { name := "orders", kind := .view, columns := [⟨"id", .integer⟩] }
    let options : SamplerOptions := { sampleConfig := some (.percentage 25) }
    let now := Instant.ofSeconds 0 0 (by decide)
    (∃ s source, create .postgres table options = .ok s ∧ s.getSampleQuery none now = .ok source ∧
      (table.columns.map Column.name).Nodup ∧ source.columns.map Column.name = ["id", "random", "random"]) ∧
    ∃ s source, create .bigQuery view options = .ok s ∧ s.getSampleQuery (some "random.seed") now = .ok source ∧
      (view.columns.map Column.name).Nodup ∧ source.columns.map Column.name = ["random", "random"] :=
  ⟨⟨_, _, rfl, rfl, by decide, rfl⟩, _, _, rfl, rfl, by decide, rfl⟩

end Sampler

end Profiling
