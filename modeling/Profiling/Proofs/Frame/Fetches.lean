import Profiling.Proofs.Frame.Paging

/-!
# Fetches from a cursor

A cursor evaluates its plan at the first fetch and gives the rows of that one result, however many are
asked for at a time: each fetch begins where the last one ended. A plan that fails is reported once.
-/

namespace Profiling.Frame

variable {π : Type} {lib : Library π} {p : π} {f : Frame} {all : List Row}

/-! ### Rows between two positions -/

/-- The rows of a frame from one position up to another, if all of them can be read. -/
def rowsBetween (f : Frame) (start stop : Nat) : Except QueryError (List Row) :=
  orEngine ((List.range' start (stop - start)).mapM (f.row? randomColumn))

theorem mapM_congr {α β : Type} {g g' : α → Option β} {as : List α} (same : ∀ a ∈ as, g a = g' a) :
    as.mapM g = as.mapM g' := by
  induction as with
  | nil => rfl
  | cons a as ih =>
    obtain ⟨first, later⟩ := List.forall_mem_cons.mp same
    rw [List.mapM_cons, List.mapM_cons, first, ih later]

theorem exists_mapM {α β : Type} {g : α → Option β} {as : List α} (each : ∀ a ∈ as, ∃ b, g a = some b) :
    ∃ bs, as.mapM g = some bs := by
  induction as with
  | nil => exact ⟨[], rfl⟩
  | cons a as ih =>
    obtain ⟨⟨b, first⟩, later⟩ := List.forall_mem_cons.mp each
    obtain ⟨bs, rest⟩ := ih later
    exact ⟨b :: bs, by simp [List.mapM_cons, first, rest]⟩

theorem length_of_mapM {α β : Type} {g : α → Option β} {as : List α} {bs : List β} (read : as.mapM g = some bs) :
    bs.length = as.length := by
  have lengths := congrArg List.length (mapM_eq_some_iff.mp read)
  simpa using lengths.symm

theorem exists_of_mem_mapM {α β : Type} {g : α → Option β} {as : List α} {bs : List β} {b : β}
    (read : as.mapM g = some bs) (member : b ∈ bs) : ∃ a ∈ as, g a = some b := by
  have there : some b ∈ as.map g := by
    rw [mapM_eq_some_iff.mp read]
    exact List.mem_map_of_mem member
  exact List.mem_map.mp there

theorem rows_slice_some (f : Frame) (start size : Nat) :
    rows (f.slice start (some size)) = f.rowsBetween start (min (start + size) f.height) := by
  have count : min (start + size) f.height - start = min size (f.height - start) := by omega
  have read : (f.slice start (some size)).toRows? randomColumn =
      (List.range (f.slice start (some size)).height).mapM ((f.slice start (some size)).row? randomColumn) := rfl
  rw [rows, rowsBetween, read, height_slice, partLength, count, List.range'_eq_map_range, List.mapM_map]
  refine congrArg orEngine (mapM_congr ?_)
  intro i member
  have inside : i < partLength start (some size) f.height := List.mem_range.mp member
  exact row?_slice f randomColumn inside

/-- A row has a value for each of its columns, and the hidden column is none of them. -/
theorem row?_shape {hidden : String} {i : Nat} {row : Row} (read : f.row? hidden i = some row) :
    row.columns.length = row.values.length ∧ hidden ∉ row.columns := by
  obtain ⟨values, cells, rfl⟩ : ∃ values, ((f.columns.filter (·.name != hidden)).map (·.cells.toArray)).mapM
      (fun cells => cells[i]?.map Cell.toJson) = some values ∧
        ⟨(f.columns.filter (·.name != hidden)).map (·.name), values⟩ = row := by
    simpa [row?, Option.bind_eq_some_iff] using read
  constructor
  · rw [length_of_mapM cells, List.length_map, List.length_map]
  · simp

theorem shape_of_rowsBetween {start stop : Nat} {batch : List Row} (read : f.rowsBetween start stop = .ok batch) :
    ∀ row ∈ batch, row.columns.length = row.values.length ∧ randomColumn ∉ row.columns := by
  intro row member
  cases rows : (List.range' start (stop - start)).mapM (f.row? randomColumn) with
  | none =>
    rw [rowsBetween, rows] at read
    cases read
  | some found =>
    rw [rowsBetween, rows] at read
    obtain rfl := Except.ok.inj read
    obtain ⟨i, -, own⟩ := exists_of_mem_mapM rows member
    exact row?_shape own

/-- Whether all columns have the height of the frame. -/
def Even (f : Frame) : Prop := ∀ s ∈ f.columns, s.height = f.height

/-- Where the columns are of one height, every row can be read. -/
theorem Even.readable (even : f.Even) : ∃ all, rows f = .ok all := by
  have row {i : Nat} (inside : i < f.height) : ∃ row, f.row? randomColumn i = some row := by
    have cells : ∀ s ∈ f.columns.filter (·.name != randomColumn), ∃ v, s.cells[i]?.map Cell.toJson = some v := by
      intro s member
      have high : i < s.cells.length := by
        have same := even s ((List.mem_filter.mp member).1)
        rw [Series.height] at same
        omega
      exact ⟨s.cells[i].toJson, by rw [List.getElem?_eq_getElem high, Option.map_some]⟩
    obtain ⟨values, read⟩ := exists_mapM cells
    refine ⟨⟨(f.columns.filter (·.name != randomColumn)).map (·.name), values⟩, ?_⟩
    simp [row?, List.mapM_map, Function.comp_def, read]
  obtain ⟨all, read⟩ := exists_mapM fun i member => row (List.mem_range.mp member)
  exact ⟨all, congrArg orEngine read⟩

/-! ### One fetch after the other -/

/-- What a frame gives to fetches of some sizes: each one takes the rows from where the last one ended. -/
def readings (f : Frame) : (start : Nat) → List Nat → List (Except QueryError (List Row))
  | _, [] => []
  | start, size :: later =>
    let stop := min (start + size) f.height
    f.rowsBetween start stop :: readings f stop later

namespace PlanCursor

/-- What a cursor gives to fetches of some sizes. -/
def fetches (lib : Library π) : PlanCursor π → List Nat → List (Except QueryError (List Row))
  | _, [] => []
  | cursor, size :: later => (cursor.fetch lib size).1 :: fetches lib (cursor.fetch lib size).2 later

theorem fetches_cons {cursor next : PlanCursor π} {size : Nat} {outcome : Except QueryError (List Row)}
    (fetched : lib.engine.fetch cursor size = (outcome, next)) (later : List Nat) :
    fetches lib cursor (size :: later) = outcome :: fetches lib next later := by
  have own : cursor.fetch lib size = (outcome, next) := fetched
  rw [fetches, own]

theorem fetches_paging (lib : Library π) (f : Frame) {start : Nat} (inside : start ≤ f.height) (sizes : List Nat) :
    fetches lib (.paging (f.slice start none)) sizes = f.readings start sizes := by
  induction sizes generalizing start with
  | nil => rfl
  | cons size later ih =>
    have stop : start + (f.slice start (some size)).height = min (start + size) f.height := by
      rw [height_slice, partLength]
      omega
    rw [fetches_cons (fetch_paging lib f start size), stop, rows_slice_some, ih (Nat.min_le_right _ _)]
    rfl

theorem fetches_planned (result : lib.collect? p = some f) (sizes : List Nat) :
    fetches lib (.planned p) sizes = f.readings 0 sizes := by
  cases sizes with
  | nil => rfl
  | cons size later =>
    have fetched := (fetch_planned result size).trans (fetch_paging lib f 0 size)
    rw [fetches_cons fetched, ← fetches_cons (fetch_paging lib f 0 size), fetches_paging lib f (Nat.zero_le _)]

/-- With the first fetch a plan is gone. -/
theorem exists_paging (lib : Library π) (p : π) (size : Nat) : ∃ rest, (fetch lib (.planned p) size).2 = .paging rest := by
  cases result : lib.collect? p with
  | some f => exact ⟨_, congrArg Prod.snd ((fetch_planned result size).trans (fetch_paging lib f 0 size))⟩
  | none => exact ⟨_, congrArg Prod.snd (fetch_failed result size)⟩

theorem fetches_paging_congr (lib lib' : Library π) (rest : Frame) (sizes : List Nat) :
    fetches lib (.paging rest) sizes = fetches lib' (.paging rest) sizes := by
  rw [← slice_zero rest, fetches_paging lib rest (Nat.zero_le _), fetches_paging lib' rest (Nat.zero_le _)]

theorem fetches_empty (lib : Library π) (sizes : List Nat) :
    fetches lib (.paging ⟨[]⟩) sizes = List.replicate sizes.length (.ok []) := by
  induction sizes with
  | nil => rfl
  | cons size later ih => exact congrArg _ ih

theorem fetches_failed (failed : lib.collect? p = none) (first : Nat) (later : List Nat) :
    fetches lib (.planned p) (first :: later) = .error .engine :: List.replicate later.length (.ok []) := by
  rw [fetches_cons (fetch_failed failed first), fetches_empty]

end PlanCursor

/-! ### Batches of given sizes -/

/-- A list in batches of some sizes, one after the other, as far as it goes. -/
def inSizes {α : Type} : List Nat → List α → List (List α)
  | [], _ => []
  | size :: later, as => as.take size :: inSizes later (as.drop size)

section InSizes

variable {α : Type} {sizes : List Nat} {as : List α} {i : Nat}

theorem flatten_inSizes_begins (sizes : List Nat) (as : List α) : (inSizes sizes as).flatten <+: as := by
  induction sizes generalizing as with
  | nil => exact List.nil_prefix
  | cons size later ih =>
    have rest : as.take size ++ (inSizes later (as.drop size)).flatten <+: as.take size ++ as.drop size :=
      (List.prefix_append_right_inj _).mpr (ih (as.drop size))
    rwa [List.take_append_drop] at rest

/-- Each batch takes up where the ones before it end. -/
theorem getElem?_inSizes (sizes : List Nat) (as : List α) (i : Nat) :
    (inSizes sizes as)[i]? =
      sizes[i]?.map fun size => (as.drop ((inSizes sizes as).take i).flatten.length).take size := by
  induction sizes generalizing as i with
  | nil => rfl
  | cons size later ih =>
    cases i with
    | zero => simp [inSizes]
    | succ i =>
      have behind (n : Nat) : as.drop ((as.take size).length + n) = (as.drop size).drop n := by
        rw [List.length_take, List.drop_drop]
        by_cases more : size ≤ as.length
        · rw [Nat.min_eq_left more]
        · rw [List.drop_of_length_le (by omega), List.drop_of_length_le (by omega)]
      simp only [inSizes, List.getElem?_cons_succ, List.take_succ_cons, List.flatten_cons, List.length_append, behind]
      exact ih (as.drop size) i

theorem flatten_take_begins (batches : List (List α)) (i : Nat) : (batches.take i).flatten <+: batches.flatten := by
  refine ⟨(batches.drop i).flatten, ?_⟩
  rw [← List.flatten_append, List.take_append_drop]

/-- An empty batch comes only behind all of the list. -/
theorem all_before_empty (positive : ∀ size ∈ sizes, 0 < size) (empty : (inSizes sizes as)[i]? = some []) :
    ((inSizes sizes as).take i).flatten = as := by
  rw [getElem?_inSizes] at empty
  obtain ⟨size, asked, none⟩ := Option.map_eq_some_iff.mp empty
  have room : 0 < size := positive size (List.mem_of_getElem? asked)
  have given := (flatten_take_begins (inSizes sizes as) i).trans (flatten_inSizes_begins sizes as)
  refine given.eq_of_length_le ?_
  rw [List.take_eq_nil_iff] at none
  exact List.drop_eq_nil_iff.mp (none.resolve_left (by omega))

theorem drop_take_min (as : List α) (start size : Nat) :
    (as.take (min (start + size) as.length)).drop start = (as.drop start).take size := by
  rw [List.drop_take, List.take_eq_take_iff, List.length_drop]
  omega

end InSizes

theorem rowsBetween_of_readable (read : rows f = .ok all) (start size : Nat) :
    f.rowsBetween start (min (start + size) f.height) = .ok ((all.drop start).take size) := by
  rw [← rows_slice_some, rows_slice read]
  rfl

theorem readings_of_readable (read : rows f = .ok all) (start : Nat) (sizes : List Nat) :
    f.readings start sizes = (inSizes sizes (all.drop start)).map .ok := by
  induction sizes generalizing start with
  | nil => rfl
  | cons size later ih =>
    have height := length_rows read
    have behind : all.drop (min (start + size) f.height) = (all.drop start).drop size := by
      rw [List.drop_drop]
      by_cases more : start + size ≤ f.height
      · rw [Nat.min_eq_left more]
      · rw [List.drop_of_length_le (by omega), List.drop_of_length_le (by omega)]
    rw [readings, ih, rowsBetween_of_readable read, behind]
    rfl

/-! ### One evaluation in pages -/

structure PagesOf (all : List Row) (sizes : List Nat) (batches : List (List Row)) : Prop where
  length : batches.length = sizes.length
  /-- A fetch gives the rows from as many positions on as rows were given before. -/
  page : ∀ i size, sizes[i]? = some size →
    let start := (batches.take i).flatten.length
    batches[i]? = some ((all.take (min (start + size) all.length)).drop start)
  inOrder : batches.flatten <+: all
  /-- An empty batch comes only behind all rows. -/
  empty : ∀ i : Nat, batches[i]? = some [] → (batches.take i).flatten = all
  complete : [] ∈ batches → batches.flatten = all

theorem pagesOf_inSizes {sizes : List Nat} (positive : ∀ size ∈ sizes, 0 < size) (all : List Row) :
    PagesOf all sizes (inSizes sizes all) where
  length := by
    induction sizes generalizing all with
    | nil => rfl
    | cons size later ih =>
      exact congrArg (· + 1) (ih (fun size member => positive size (List.mem_cons_of_mem _ member)) (all.drop size))
  page i size asked := by
    intro start
    rw [getElem?_inSizes, asked, Option.map_some, drop_take_min]
  inOrder := flatten_inSizes_begins sizes all
  empty i := all_before_empty positive
  complete member := by
    obtain ⟨i, empty⟩ := List.mem_iff_getElem?.mp member
    have before := all_before_empty positive empty
    have given := flatten_take_begins (inSizes sizes all) i
    rw [before] at given
    exact (given.eq_of_length_le (flatten_inSizes_begins sizes all).length_le).symm

structure PagedOnce (lib : Library π) (p : π) (sizes : List Nat) : Prop where
  /-- Every fetch reads the next rows of one result. -/
  result : ∀ f, lib.collect? p = some f → PlanCursor.fetches lib (.planned p) sizes = f.readings 0 sizes
  batches : ∀ f all, lib.collect? p = some f → rows f = .ok all → all.length = f.height ∧
    ∃ batches, PlanCursor.fetches lib (.planned p) sizes = batches.map .ok ∧ PagesOf all sizes batches
  /-- All rows can be read if the columns of the result are of one height. -/
  readable : ∀ f, lib.collect? p = some f → f.Even → ∃ all, rows f = .ok all
  shape : ∀ batch, .ok batch ∈ PlanCursor.fetches lib (.planned p) sizes → ∀ row ∈ batch,
    row.columns.length = row.values.length ∧ randomColumn ∉ row.columns
  /-- Behind the first fetch nothing is evaluated, whatever other plans come to then. -/
  once : ∀ (lib' : Library π) first later, sizes = first :: later →
    PlanCursor.fetches lib' (PlanCursor.fetch lib (.planned p) first).2 later =
      (PlanCursor.fetches lib (.planned p) sizes).tail
  failed : lib.collect? p = none → ∀ first later, sizes = first :: later →
    PlanCursor.fetches lib (.planned p) sizes = .error .engine :: List.replicate later.length (.ok [])

theorem shape_of_readings {start : Nat} {sizes : List Nat} {batch : List Row}
    (member : .ok batch ∈ f.readings start sizes) :
    ∀ row ∈ batch, row.columns.length = row.values.length ∧ randomColumn ∉ row.columns := by
  induction sizes generalizing start with
  | nil => cases member
  | cons size later ih =>
    rcases List.mem_cons.mp member with own | other
    · exact shape_of_rowsBetween own.symm
    · exact ih other

/-- However many rows each fetch asks for, a cursor pages through the result of its plan, which it takes
once: no row is left out or given twice. -/
theorem paged_once (lib : Library π) (p : π) {sizes : List Nat} (positive : ∀ size ∈ sizes, 0 < size) :
    PagedOnce lib p sizes where
  result f result := PlanCursor.fetches_planned result sizes
  batches f all result read := by
    refine ⟨length_rows read, inSizes sizes all, ?_, pagesOf_inSizes positive all⟩
    rw [PlanCursor.fetches_planned result, readings_of_readable read, List.drop_zero]
  readable f _ even := even.readable
  shape batch member := by
    cases result : lib.collect? p with
    | some f =>
      rw [PlanCursor.fetches_planned result] at member
      exact shape_of_readings member
    | none =>
      cases sizes with
      | nil => cases member
      | cons first later =>
        rw [PlanCursor.fetches_failed result] at member
        obtain ⟨-, rfl⟩ : later ≠ [] ∧ batch = [] := by simpa using member
        exact List.forall_mem_nil _
  once lib' first later same := by
    subst same
    obtain ⟨rest, paging⟩ := PlanCursor.exists_paging lib p first
    rw [PlanCursor.fetches, List.tail_cons, paging, PlanCursor.fetches_paging_congr lib' lib]
  failed failed first later same := by
    rw [same, PlanCursor.fetches_failed failed]

/-- Three rows fetched by two, five and one. The last fetch finds none, and none has the random column. -/
theorem three_rows_paged :
    let f : Frame := ⟨[⟨"id", .int 64, [.int 1, .int 2, .int 3]⟩,
      ⟨"__profiler_random", .float64, [.float 0, .float 0, .float 0]⟩]⟩
    PlanCursor.fetches library (.planned (some (.frame f))) [2, 5, 1] =
      [.ok [Runner.numbered 1, Runner.numbered 2], .ok [Runner.numbered 3], .ok []] := by
  intro f
  have once : PagedOnce library (some (.frame f)) [2, 5, 1] := paged_once _ _ (by decide)
  have result : library.collect? (some (.frame f)) = some f := by decide +kernel
  rw [once.result f result]
  rfl

end Profiling.Frame
