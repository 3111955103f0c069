import Profiling.Proofs.Sample.Columns

/-!
# The rows of a sample

Which rows of a table a sample by random tags holds: a percentage keeps the rows of the partition
whose number is within it, and a number of rows takes those with the least numbers.
-/

namespace Profiling

variable {V K : Type}

namespace Tuple

def push (t : Tuple V K) (v : V) : Tuple V K := ⟨t.values ++ [v], t.draw⟩

def dropLast (t : Tuple V K) : Tuple V K := ⟨t.values.dropLast, t.draw⟩

theorem dropLast_push (t : Tuple V K) (v : V) : (t.push v).dropLast = t := by
  unfold push dropLast
  rw [List.dropLast_concat]

theorem map_dropLast_push (tag : Tuple V K → V) (tuples : List (Tuple V K)) :
    (tuples.map fun t => t.push (tag t)).map dropLast = tuples := by
  rw [List.map_map]
  exact List.map_id'' (fun t => dropLast_push t (tag t)) tuples

end Tuple

def Relation.meeting (r : Relation V K) (db : Database V K) (condition : Option Expr) : List (Tuple V K) :=
  r.tuples.filter fun t => ∀ e ∈ condition, e.Holds db.toInterpretation (db.view r.columns t)

/-- Behind columns of other names, a name is looked up where it stands first. -/
theorem lookup_zip_append {name : String} {columns : List String} {values : List V}
    (aligned : values.length = columns.length) (fresh : name ∉ columns) (v : V) (more : List String)
    (others : List V) :
    ((columns ++ name :: more).zip (values ++ v :: others)).lookup name = some v := by
  induction columns generalizing values with
  | nil =>
    obtain rfl := List.eq_nil_of_length_eq_zero aligned
    exact List.lookup_cons_self
  | cons column columns ih =>
    cases values with
    | nil => cases aligned
    | cons value values =>
      have other : name ≠ column := List.ne_of_not_mem_cons fresh
      have rest := ih (Nat.succ.inj aligned) (List.not_mem_of_not_mem_cons fresh)
      simp only [List.cons_append, List.zip_cons_cons, List.lookup_cons]
      rw [beq_false_of_ne other]
      exact rest

namespace Database

variable (db : Database V K)

theorem cell_view {columns : List String} {values : List V} (aligned : values.length = columns.length) {name : String}
    (fresh : name ∉ columns) (v : V) (more : List String) (others : List V) (draw : K) :
    (db.view (columns ++ name :: more) ⟨values ++ v :: others, draw⟩).cell name = v := by
  show (((columns ++ name :: more).zip (values ++ v :: others)).lookup name).getD _ = v
  rw [lookup_zip_append aligned fresh]
  rfl

theorem cell_push {columns : List String} {t : Tuple V K} (aligned : t.values.length = columns.length)
    {name : String} (fresh : name ∉ columns) (v : V) :
    (db.view (columns ++ [name]) (t.push v)).cell name = v :=
  db.cell_view aligned fresh v [] [] t.draw

end Database

namespace Sampler

variable {db : Database V K} {s : Sampler} {now : Instant}

/-! ### Tags -/

theorem shown_base (s : Sampler) (tag : Expr) (condition : Option Expr) (columns : List String) (t : Tuple V K) :
    (s.base none (some tag) condition).shown db columns t =
      t.push (tag.value db.toInterpretation (db.view columns t)) := by
  unfold Select.shown
  rw [items_base]
  rfl

theorem shownColumns_base_all (s : Sampler) (tag : Expr) (condition : Option Expr) (columns : List String) :
    (s.base none (some tag) condition).shownColumns db columns = columns ++ [randomLabel] := by
  unfold Select.shownColumns
  rw [items_base]
  rfl

/-- The rows that a sample is drawn from are those of the table that meet the condition, each with
its tag. -/
theorem tuples_base (s : Sampler) (tag : Expr) (condition : Option Expr) :
    (s.drawn db (s.base none (some tag) condition)).tuples =
      ((db.table (.ofTable s.table)).meeting db condition).map fun t =>
        t.push (tag.value db.toInterpretation (db.view (db.table (.ofTable s.table)).columns t)) := by
  rw [drawn, Select.tuples_rows, Select.kept_of_unordered db rfl rfl]
  exact List.map_congr_left fun t _ => s.shown_base tag condition _ t

theorem aligned_meeting {r : Relation V K} {condition : Option Expr} {t : Tuple V K}
    (member : t ∈ r.meeting db condition) : t.values.length = r.columns.length :=
  r.aligned t (List.mem_filter.mp member).1

theorem cell_keyView {columns : List String} (fresh : randomLabel ∉ columns) {t : Tuple V K}
    (aligned : t.values.length = columns.length) (s : Sampler) (condition : Option Expr) :
    ((s.base none (some .random) condition).keyView db columns t).cell randomLabel = db.number t.draw := by
  unfold Select.keyView
  rw [shownColumns_base_all, shown_base]
  show (db.view ((columns ++ [randomLabel]) ++ columns) ⟨(t.values ++ [db.number t.draw]) ++ t.values, t.draw⟩).cell
    randomLabel = _
  rw [List.append_assoc, List.append_assoc]
  exact db.cell_view aligned fresh _ _ _ _

variable [DivisionRing K] [LinearOrder K]

theorem value_percentTag (exact : db.Exact) (columns : List String) (t : Tuple V K) :
    (Expr.random.multiply (.int 100)).value db.toInterpretation (db.view columns t) = db.number (t.draw * 100) := by
  show db.operation .multiply (db.number t.draw) (db.literal (.int 100)) = _
  rw [exact.int, exact.multiply]
  norm_cast

/-! ### A percentage -/

theorem selects_withinPercent (exact : db.Exact) {percent : Float} {q : ℚ} (read : floatNumber? percent = some q)
    {columns : List String} (fresh : randomLabel ∉ columns) {t : Tuple V K}
    (aligned : t.values.length = columns.length) (s : Sampler) (x : K) :
    (s.withinPercent percent).Selects db.toInterpretation
      (db.view (columns ++ [randomLabel]) (t.push (db.number x))) ↔ x ≤ (q : K) := by
  have value : ((Expr.column randomLabel).ltEq (.literal (.float percent))).truth db.toInterpretation
      (db.view (columns ++ [randomLabel]) (t.push (db.number x))) = some (decide (x ≤ (q : K))) := by
    show db.compare .ltEq ((db.view (columns ++ [randomLabel]) (t.push (db.number x))).cell randomLabel)
      (db.literal (.float percent)) = _
    rw [db.cell_push aligned fresh, exact.float percent q read, exact.ltEq]
  constructor
  · intro selects
    have holds := selects _ rfl
    rw [Expr.Holds, value] at holds
    exact of_decide_eq_true (Option.some.inj holds)
  · intro within e only
    obtain rfl := Option.some.inj only
    rw [Expr.Holds, value, decide_eq_true within]

theorem tuples_percentage (exact : db.Exact) {percent : Float} {q : ℚ} (read : floatNumber? percent = some q)
    (fresh : randomLabel ∉ (db.table (.ofTable s.table)).columns) (condition : Option Expr) :
    let base := s.base none (some (Expr.random.multiply (.int 100))) condition
    ((s.withinPercent percent).rows db (s.drawn db base)).tuples =
      (((db.table (.ofTable s.table)).meeting db condition).filter fun t => t.draw * 100 ≤ (q : K)).map
        fun t => t.push (db.number (t.draw * 100)) := by
  intro base
  have header : (s.drawn db base).columns = (db.table (.ofTable s.table)).columns ++ [randomLabel] :=
    s.shownColumns_base_all _ condition _
  have tagged : (s.drawn db base).tuples = ((db.table (.ofTable s.table)).meeting db condition).map
      fun t => t.push (db.number (t.draw * 100)) := by
    rw [tuples_base]
    exact List.map_congr_left fun t _ => by rw [value_percentTag exact]
  -- Over the tagged rows the select shows all that it reads, so that only its condition counts.
  have shown (t : Tuple V K) : (s.withinPercent percent).shown db (s.drawn db base).columns t = t := by
    show (⟨t.values ++ [], t.draw⟩ : Tuple V K) = t
    rw [List.append_nil]
  rw [Select.tuples_rows, Select.kept_of_unordered db rfl rfl, List.map_congr_left fun t _ => shown t, List.map_id']
  unfold Select.selected
  rw [tagged, header, List.filter_map]
  congr 1
  refine List.filter_congr fun t member => ?_
  rw [Function.comp_apply, decide_eq_decide]
  exact selects_withinPercent exact read fresh (aligned_meeting member) s _

/-! ### A number of rows -/

/-- In the order of their tags, rows stand in the order of their numbers. -/
theorem draw_le_of_rowPrecedes (exact : db.Exact) {columns : List String} (fresh : randomLabel ∉ columns)
    {a b : Tuple V K} (alignedA : a.values.length = columns.length) (alignedB : b.values.length = columns.length)
    (s : Sampler) (condition : Option Expr)
    (precedes : db.rowPrecedes [⟨.column randomLabel, true⟩]
      ((s.base none (some .random) condition).keyView db columns a)
      ((s.base none (some .random) condition).keyView db columns b) = true) : a.draw ≤ b.draw := by
  have key := (db.rowPrecedes_cons.mp precedes).1
  rw [Database.keyPrecedes, if_pos rfl, Expr.value, Expr.value, cell_keyView fresh alignedA,
    cell_keyView fresh alignedB] at key
  exact (exact.precedes _ _).mp key

theorem tuples_firstRows (exact : db.Exact) (fresh : randomLabel ∉ (db.table (.ofTable s.table)).columns)
    (count : Nat) (condition : Option Expr) :
    let within := (db.table (.ofTable s.table)).meeting db condition
    ∃ included : List (Tuple V K), (s.drawn db (firstRows count (s.base none (some .random) condition))).tuples =
        (included.map fun t => t.push (db.number t.draw)) ∧
      included.length = min count within.length ∧
      ∃ excluded, (included ++ excluded).Perm within ∧ ∀ a ∈ included, ∀ b ∈ excluded, a.draw ≤ b.draw := by
  intro within
  let table := db.table (.ofTable s.table)
  let first := firstRows count (s.base none (some .random) condition)
  obtain ⟨length, excluded, perm, across⟩ := first.kept_of_limit db rfl table
  have aligned {t : Tuple V K} (member : t ∈ first.kept db table ++ excluded) :
      t.values.length = table.columns.length := by
    have inTable : t ∈ table.meeting db condition := perm.mem_iff.mp member
    exact aligned_meeting inTable
  refine ⟨first.kept db table, ?_, length, excluded, perm, ?_⟩
  · exact List.map_congr_left fun t _ => s.shown_base .random condition _ t
  · intro a inside b outside
    have alignedA := aligned (List.mem_append_left excluded inside)
    have alignedB := aligned (List.mem_append_right _ outside)
    exact draw_le_of_rowPrecedes exact fresh alignedA alignedB s condition (across a inside b outside)

/-! ### Samples -/

theorem floatNumber?_of_validate {percent : Float} (valid : (SampleConfig.percentage percent).validate = .ok ()) :
    ∃ q, floatNumber? percent = some q := by
  simp only [SampleConfig.validate] at valid
  split at valid
  · next inside =>
    obtain ⟨above, below⟩ := Bool.and_eq_true_iff.mp inside
    exact floatNumber?_of_percent (of_decide_eq_true above) (of_decide_eq_true below)
  · cases valid

/-- What a sample by random tags holds of a table without a column of that name, its label dropped:
for a percentage the rows of the partition whose number is within it, in the order of the table, and
for a number of rows as many of them, or all if there are fewer, with the least numbers. -/
theorem sample_draws {config : SampleConfig} {condition : Option Expr} (exact : db.Exact)
    (configured : s.requireSampleConfig = .ok config) (tags : s.drawsTags config = true)
    (narrowed : Partition.conditionOf s.partition s.table.columns now = .ok condition)
    (fresh : randomLabel ∉ (db.table (.ofTable s.table)).columns) :
    let table := db.table (.ofTable s.table)
    let within := table.meeting db condition
    ∃ source sample earlier, s.getSampleQuery none now = .ok source ∧ source.name = s.table.name ++ "_sample" ∧
      Cte.scope? db [] source.ctes = some ((source.name, sample) :: earlier) ∧
      sample.columns = table.columns ++ [randomLabel] ∧
      let rows := sample.tuples.map Tuple.dropLast
      match config with
      | .percentage percent => ∃ q, floatNumber? percent = some q ∧
          rows = within.filter fun t => t.draw * 100 ≤ (q : K)
      | .rows count => rows.length = min count within.length ∧
          ∃ excluded, (rows ++ excluded).Perm within ∧ ∀ a ∈ rows, ∀ b ∈ excluded, a.draw ≤ b.draw := by
  intro table within
  have built : s.getSampleQuery none now = .ok (s.source config none condition) := by
    rw [getSampleQuery_eq, configured, narrowed]
    rfl
  cases config with
  | percentage percent =>
    obtain ⟨q, read⟩ := floatNumber?_of_validate (bound_of_requireSampleConfig configured).2
    have tag : s.tag? (.percentage percent) = some (Expr.random.multiply (.int 100)) := if_pos tags
    refine ⟨_, _, _, built, rfl, scope?_percentage db tags none (s.tag? (.percentage percent)) condition, ?_, q, read, ?_⟩
    · rw [tag]
      exact (List.append_nil _).trans (s.shownColumns_base_all _ condition _)
    · rw [tag, tuples_percentage exact read fresh]
      exact Tuple.map_dropLast_push _ _
  | rows count =>
    obtain ⟨included, tuples, length, excluded, perm, least⟩ := tuples_firstRows exact fresh count condition
    refine ⟨_, _, _, built, rfl, s.scope?_rows db count none (some .random) condition,
      s.shownColumns_base_all .random condition _, ?_⟩
    rw [tuples, Tuple.map_dropLast_push]
    exact ⟨length, excluded, perm, least⟩

theorem days_draws :
    let table : Table := { name := "days", columns := [⟨"day", .integer⟩] }
    let range : Partition := ⟨"day", .integerRange 1 5⟩
    let options : SamplerOptions := { sampleConfig := some (.percentage 25), partition := some range }
    let db := Database.rational fun _ =>
      ⟨["day"], [⟨[.number 1], 1 / 10⟩, ⟨[.number 7], 0⟩, ⟨[.number 3], 9 / 10⟩, ⟨[.number 2], 1 / 4⟩], by simp⟩
    let now := Instant.ofSeconds 0 0 (by decide)
    ∃ s source sample earlier, create .postgres table options = .ok s ∧ s.getSampleQuery none now = .ok source ∧
      Cte.scope? db [] source.ctes = some (("days_sample", sample) :: earlier) ∧
      sample.tuples.map Tuple.dropLast = [⟨[.number 1], 1 / 10⟩, ⟨[.number 2], 1 / 4⟩] := by
  intro table range options db now
  obtain ⟨s, condition, accepted, isTable, configured, tags, narrowed, isRange⟩ :
      ∃ s condition, create .postgres table options = .ok s ∧ s.table = table ∧
        s.requireSampleConfig = .ok (.percentage 25) ∧ s.drawsTags (.percentage 25) = true ∧
        Partition.conditionOf s.partition s.table.columns now = .ok condition ∧
        condition = some (.between (.column "day") (.int 1) (.int 5)) :=
    ⟨_, _, rfl, rfl, rfl, rfl, rfl, rfl⟩
  have fresh : randomLabel ∉ (db.table (.ofTable s.table)).columns := by
    rw [isTable]
    decide
  have draws := sample_draws (Database.rational_exact _) configured tags narrowed fresh
  obtain ⟨source, sample, earlier, built, named, read, -, q, quarter, rows⟩ := draws
  have isQuarter : floatNumber? 25 = some 25 := by decide +kernel
  obtain rfl : q = 25 := Option.some.inj (quarter.symm.trans isQuarter)
  rw [named, isTable] at read
  refine ⟨s, source, sample, earlier, accepted, built, read, rows.trans ?_⟩
  rw [isRange, isTable]
  decide +kernel

end Sampler

end Profiling
