import Profiling.Proofs.Sample.SystemSampling

/-!
# Amounts in samples

A sample is written with one amount, that of its configuration: the limit of a select, the bound of the tags
or the share that a clause draws. What narrows it to a partition has no amounts.
-/

namespace Profiling

/-! ### Bounds -/

namespace Expr

/-- The float that something is at most, where an expression says this of it. -/
def ownBound? : Expr → Option Float
  | binary .ltEq _ (literal (.float p)) => some p
  | _ => none

def bounds (e : Expr) : List Float := e.parts.filterMap ownBound?

theorem bounds_eq (e : Expr) : e.bounds = e.ownBound?.toList ++ e.children.flatMap bounds := by
  have inside : e.children.flatMap bounds = (e.children.flatMap parts).filterMap ownBound? :=
    List.filterMap_flatMap.symm
  rw [inside, bounds, parts_eq, List.filterMap_cons]
  cases e.ownBound? <;> rfl

end Expr

namespace Partition

variable {columns : List Column} {now : Instant}

theorem bounds_predicateAt {p : Partition} {e : Expr} (built : p.predicateAt columns now = .ok e) : e.bounds = [] := by
  obtain ⟨c, -, condition⟩ := column_of_predicateAt built
  obtain ⟨name, kind⟩ := p
  cases kind with
  | timeUnit interval unit | ingestionTime interval unit =>
    dsimp only [conditionOn, window] at condition
    cases start : now.windowStart? interval unit with
    | none =>
      rw [start] at condition
      cases condition
    | some start' =>
      rw [start] at condition
      obtain rfl := Except.ok.inj condition
      rfl
  | integerRange start stop =>
    obtain rfl := Except.ok.inj condition
    rfl
  | columnValues values =>
    obtain rfl := Except.ok.inj condition
    have items : (values.map fun v => Expr.literal (.ofJson v)).flatMap Expr.bounds = [] := by
      rw [List.flatMap_map]
      exact List.flatMap_eq_nil_iff.mpr fun _ _ => rfl
    rw [Expr.bounds_eq, Expr.children, List.flatMap_cons, items]
    rfl

theorem bounds_conditionOf {p : Option Partition} {condition : Option Expr}
    (narrowed : conditionOf p columns now = .ok condition) : condition.toList.flatMap Expr.bounds = [] := by
  cases p with
  | none =>
    obtain rfl := Except.ok.inj narrowed
    rfl
  | some p =>
    obtain ⟨e, predicate, rfl⟩ := conditionOf_some narrowed
    rw [Option.toList_some, List.flatMap_singleton]
    exact bounds_predicateAt predicate

end Partition

/-! ### Amounts of selects -/

def Select.ownBounds (q : Select) : List Float := q.ownExprs.flatMap Expr.bounds

def TableSample.percent : TableSample → Float
  | systemPercent percent => percent

namespace Cte

def limits (ctes : List Cte) : List Nat := (ctes.flatMap fun c => c.query.parts).filterMap Select.limit

/-- The floats that something in them is at most. -/
def bounds (ctes : List Cte) : List Float := (ctes.flatMap fun c => c.query.parts).flatMap Select.ownBounds

theorem bounds_cons {c : Cte} (bare : c.query.ctes = []) (ctes : List Cte) :
    bounds (c :: ctes) = c.query.ownBounds ++ bounds ctes := by
  rw [bounds, List.flatMap_cons, Select.parts_eq, bare]
  rfl

/-- The shares, in percent, that their clauses draw of tables. -/
def shares (ctes : List Cte) : List Float := (samplings ctes).map fun sampling => sampling.2.percent

end Cte

namespace SampleConfig

def count? : SampleConfig → Option Nat
  | percentage _ => none
  | rows count => some count

def percent? : SampleConfig → Option Float
  | percentage percent => some percent
  | rows _ => none

theorem count_of_validate {config : SampleConfig} (valid : config.validate = .ok ()) :
    ∀ n ∈ config.count?.toList, 1 ≤ n := by
  cases config with
  | percentage percent => exact List.forall_mem_nil _
  | rows count =>
    refine List.forall_mem_singleton.mpr (?_ : 1 ≤ count)
    by_cases none : count = 0
    · rw [validate, if_pos none] at valid
      cases valid
    · omega

theorem percent_of_validate {config : SampleConfig} (valid : config.validate = .ok ()) :
    ∀ p ∈ config.percent?.toList, 0 < p ∧ p ≤ 100 := by
  cases config with
  | rows count => exact List.forall_mem_nil _
  | percentage percent =>
    refine List.forall_mem_singleton.mpr (?_ : 0 < percent ∧ percent ≤ 100)
    by_cases inside : (decide (0 < percent) && decide (percent ≤ 100)) = true
    · obtain ⟨above, below⟩ := Bool.and_eq_true_iff.mp inside
      exact ⟨of_decide_eq_true above, of_decide_eq_true below⟩
    · rw [validate, if_neg inside] at valid
      cases valid

structure Amounts (config : SampleConfig) (ctes : List Cte) : Prop where
  limits_eq : Cte.limits ctes = config.count?.toList
  percents_eq : Cte.bounds ctes ++ Cte.shares ctes = config.percent?.toList
  limits_pos : ∀ n ∈ Cte.limits ctes, 1 ≤ n
  percents_mem : ∀ p ∈ Cte.bounds ctes ++ Cte.shares ctes, 0 < p ∧ p ≤ 100

end SampleConfig

/-! ### Amounts of samples -/

namespace Sampler

variable {s : Sampler} {condition : Option Expr}

theorem ownBounds_base (plain : condition.toList.flatMap Expr.bounds = []) (config : SampleConfig)
    (column : Option Column) (ordered : List OrderBy) (unbound : (ordered.map OrderBy.expr).flatMap Expr.bounds = []) :
    ((s.base column (s.tag? config) condition).withOrderBy ordered).ownBounds = [] :=
  (flatMap_ownExprs_base (fun _ => rfl) rfl rfl rfl s config column condition ordered unbound).trans plain

theorem limits_source (config : SampleConfig) (column : Option Column) (condition : Option Expr) :
    Cte.limits (s.source config column condition).ctes = config.count?.toList := by
  cases config with
  | rows count => rfl
  | percentage percent =>
    unfold source
    cases tags : s.drawsTags (.percentage percent) with
    | true =>
      rw [sampleCtes_of_tags tags]
      rfl
    | false =>
      rw [sampleCtes_of_no_tags tags]
      rfl

theorem shares_source (config : SampleConfig) (column : Option Column) (condition : Option Expr) :
    Cte.shares (s.source config column condition).ctes = (s.clause? config).toList.map TableSample.percent := by
  have samplings : Cte.samplings (s.source config column condition).ctes =
      ((s.clause? config).map fun clause => (TableRef.ofTable s.table, clause)).toList :=
    samplings_sampleCtes s config column (s.tag? config) condition
  rw [Cte.shares, samplings]
  cases s.clause? config <;> rfl

theorem percents_source (plain : condition.toList.flatMap Expr.bounds = []) (config : SampleConfig)
    (column : Option Column) :
    Cte.bounds (s.source config column condition).ctes ++ Cte.shares (s.source config column condition).ctes =
      config.percent?.toList := by
  have base : (s.base column (s.tag? config) condition).ownBounds = [] := ownBounds_base plain config column [] rfl
  rw [shares_source]
  cases config with
  | rows count =>
    have first : (firstRows count (s.base column (s.tag? (.rows count)) condition)).ownBounds = [] :=
      ownBounds_base plain (.rows count) column [⟨.column randomLabel, true⟩] rfl
    show Cte.bounds [⟨sampleName s.table, firstRows count (s.base column (s.tag? (.rows count)) condition)⟩] ++ [] = []
    rw [List.append_nil, Cte.bounds_cons rfl, first]
    rfl
  | percentage percent =>
    unfold source
    cases tags : s.drawsTags (.percentage percent) with
    | true =>
      rw [sampleCtes_of_tags tags, clause?, if_pos tags, Cte.bounds_cons rfl, Cte.bounds_cons rfl]
      dsimp only
      rw [base]
      rfl
    | false =>
      have sampled : ((s.base column (s.tag? (.percentage percent)) condition).withTableSample
          (.systemPercent percent)).ownBounds = [] := base
      rw [sampleCtes_of_no_tags tags, clause?, if_neg (ne_true_of_eq_false tags), Cte.bounds_cons rfl]
      dsimp only
      rw [sampled]
      rfl

theorem amounts_source {config : SampleConfig} (valid : config.validate = .ok ())
    (plain : condition.toList.flatMap Expr.bounds = []) (column : Option Column) :
    config.Amounts (s.source config column condition).ctes := by
  have limits : Cte.limits (s.source config column condition).ctes = _ := limits_source config column condition
  have percents := percents_source (s := s) plain config column
  refine ⟨limits, percents, ?_, ?_⟩
  · rw [limits]
    exact config.count_of_validate valid
  · rw [percents]
    exact config.percent_of_validate valid

end Sampler

end Profiling
