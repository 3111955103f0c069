import Profiling.Frame.Catalog
import Profiling.Proofs.Runner.Session
import Profiling.Proofs.Runner.Streaming

/-!
# Pages of a frame

A cursor over a plan evaluates it once and pages through the rows of the result. If all of them can
be read, a stream over it gives them in full batches but for the last.
-/

namespace Profiling.Frame

/-! ### Rows of slices -/

theorem mapM_eq_some_iff {α β : Type} {g : α → Option β} {as : List α} {bs : List β} :
    as.mapM g = some bs ↔ as.map g = bs.map some := by
  induction as generalizing bs with
  | nil => cases bs <;> simp
  | cons a as ih =>
    cases bs with
    | nil => simp [List.mapM_cons, Option.bind_eq_some_iff]
    | cons b bs => simp [List.mapM_cons, Option.bind_eq_some_iff, ih]

def part {α : Type} (offset : Nat) (count : Option Nat) (as : List α) : List α :=
  match count with
  | some n => (as.drop offset).take n
  | none => as.drop offset

def partLength (offset : Nat) (count : Option Nat) (length : Nat) : Nat :=
  match count with
  | some n => min n (length - offset)
  | none => length - offset

variable {f : Frame} {all : List Row} {offset i : Nat} {count : Option Nat}

theorem length_part {α : Type} (offset : Nat) (count : Option Nat) (as : List α) :
    (part offset count as).length = partLength offset count as.length := by
  cases count <;> simp [part, partLength]

theorem getElem?_part {α : Type} {length : Nat} (inside : i < partLength offset count length) (as : List α) :
    (part offset count as)[i]? = as[offset + i]? := by
  cases count with
  | none => simp [part]
  | some n =>
    have short : i < n := by simp only [partLength] at inside; omega
    simp [part, short]

theorem cells_slice (s : Series) (offset : Nat) (count : Option Nat) :
    (s.slice offset count).cells = part offset count s.cells := by
  cases count <;> rfl

theorem height_slice (f : Frame) (offset : Nat) (count : Option Nat) :
    (f.slice offset count).height = partLength offset count f.height := by
  unfold height slice
  cases f.columns with
  | nil => cases count <;> simp [partLength]
  | cons s rest => exact (congrArg List.length (cells_slice s offset count)).trans (length_part _ _ _)

def row? (f : Frame) (hidden : String) (i : Nat) : Option Row := do
  let shown := f.columns.filter (·.name != hidden)
  return ⟨shown.map (·.name), ← (shown.map (·.cells.toArray)).mapM fun cells => cells[i]?.map Cell.toJson⟩

theorem row?_slice (f : Frame) (hidden : String) (inside : i < partLength offset count f.height) :
    (f.slice offset count).row? hidden i = f.row? hidden (offset + i) := by
  have shown : (f.slice offset count).columns.filter (·.name != hidden) =
      (f.columns.filter (·.name != hidden)).map (·.slice offset count) := by
    simp only [slice, List.filter_map]
    rfl
  have name (s : Series) : (s.slice offset count).name = s.name := rfl
  have cells (s : Series) : (s.slice offset count).cells[i]? = s.cells[offset + i]? := by
    rw [cells_slice, getElem?_part inside]
  unfold row?
  simp [shown, List.mapM_map, Function.comp_def, name, cells]

theorem rows_eq_ok_iff : rows f = .ok all ↔ (List.range f.height).map (f.row? randomColumn) = all.map some := by
  have read : f.toRows? randomColumn = (List.range f.height).mapM (f.row? randomColumn) := rfl
  rw [← mapM_eq_some_iff, ← read, rows]
  cases f.toRows? randomColumn <;> simp [orEngine]

theorem length_rows (read : rows f = .ok all) : all.length = f.height := by
  have lengths := congrArg List.length (rows_eq_ok_iff.mp read)
  simpa using lengths.symm

/-- If all rows of a frame can be read, those of a slice are a part of them. -/
theorem rows_slice (read : rows f = .ok all) (offset : Nat) (count : Option Nat) :
    rows (f.slice offset count) = .ok (part offset count all) := by
  have height := length_rows read
  rw [rows_eq_ok_iff, height_slice]
  apply List.ext_getElem?
  intro i
  by_cases inside : i < partLength offset count f.height
  · have there := congrArg (·[offset + i]?) (rows_eq_ok_iff.mp read)
    have within : offset + i < f.height := by cases count <;> simp only [partLength] at inside <;> omega
    simp only [List.getElem?_map, List.getElem?_range within, Option.map_some] at there
    simp only [List.getElem?_map, List.getElem?_range inside, Option.map_some, row?_slice f _ inside,
      getElem?_part inside, there]
  · rw [List.getElem?_eq_none (by simpa using inside), List.getElem?_eq_none]
    rw [List.length_map, length_part, height]
    omega

theorem slice_slice (f : Frame) (first offset : Nat) (count : Option Nat) :
    (f.slice first none).slice offset count = f.slice (first + offset) count := by
  unfold slice
  rw [List.map_map]
  congr 2
  funext s
  simp [Series.slice, Series.withCells, List.drop_drop]

theorem slice_zero (f : Frame) : f.slice 0 none = f := by
  simp [slice, Series.slice, Series.withCells]

/-! ### Streams over a frame -/

/-- What a stream over a frame answers to `n` calls when so many rows have been given: a batch of the
next rows each time, up to one that is empty or cannot be read. -/
def pages (f : Frame) (size : Nat) : (given n : Nat) → List Answer
  | _, 0 => []
  | given, n + 1 =>
    match rows (f.slice given (some size)) with
    | .error cause => .error cause :: List.replicate n (.ok none)
    | .ok [] => List.replicate (n + 1) (.ok none)
    | .ok batch => .ok (some batch) :: pages f size (given + batch.length) n

/-- What a stream over the result of a plan answers to `n` calls. -/
def Library.pages (lib : Library π) (p : π) (size n : Nat) : List Answer :=
  match lib.collect? p with
  | some f => Frame.pages f size 0 n
  | none => (.error .engine :: List.replicate n (.ok none)).take n

variable {π : Type} {lib : Library π} {p : π} {s : BatchStream (PlanCursor π)} {given : Nat}

theorem fetch_paging (lib : Library π) (f : Frame) (given size : Nat) :
    lib.engine.fetch (.paging (f.slice given none)) size =
      (rows (f.slice given (some size)), .paging (f.slice (given + (f.slice given (some size)).height) none)) := by
  have batch := slice_slice f given 0 (some size)
  have rest (offset : Nat) := slice_slice f given offset none
  change PlanCursor.page (f.slice given none) size = _
  simp only [PlanCursor.page, batch, rest, Nat.add_zero]

/-- The first fetch evaluates the plan. -/
theorem fetch_planned (result : lib.collect? p = some f) (size : Nat) :
    lib.engine.fetch (.planned p) size = lib.engine.fetch (.paging (f.slice 0 none)) size := by
  change PlanCursor.fetch lib (.planned p) size = PlanCursor.page (f.slice 0 none) size
  rw [PlanCursor.fetch, result, slice_zero]

theorem fetch_failed (failed : lib.collect? p = none) (size : Nat) :
    lib.engine.fetch (.planned p) size = (.error .engine, .paging ⟨[]⟩) := by
  change PlanCursor.fetch lib (.planned p) size = _
  rw [PlanCursor.fetch, failed]

theorem answers_of_fetched {cursor : PlanCursor π} (live : s.cursor = some cursor)
    (fetched : lib.engine.fetch cursor s.batchSize = lib.engine.fetch (.paging (f.slice given none)) s.batchSize)
    (n : Nat) (st : Registry π) : (s.serve lib.engine.toHandle n st).answers = Frame.pages f s.batchSize given n := by
  induction n generalizing s given cursor with
  | zero => rfl
  | succ n ih =>
    rw [fetch_paging] at fetched
    rw [BatchStream.answers_serve_toHandle_succ, Frame.pages]
    unfold BatchStream.turn
    simp only [live, fetched]
    cases read : rows (f.slice given (some s.batchSize)) with
    | error cause => simp only [BatchStream.serve_of_ended lib.engine.toHandle (s := s.ended) rfl]
    | ok batch =>
      cases batch with
      | nil =>
        simp only [BatchStream.serve_of_ended lib.engine.toHandle (s := s.ended) rfl]
        rfl
      | cons row rest =>
        -- The cursor moves on by the height of the batch, which is the number of its rows.
        rw [← length_rows read]
        exact congrArg _ (ih rfl rfl)

theorem answers_of_planned (live : s.cursor = some (.planned p)) (n : Nat) (st : Registry π) :
    (s.serve lib.engine.toHandle n st).answers = lib.pages p s.batchSize n := by
  unfold Library.pages
  cases result : lib.collect? p with
  | some f => exact answers_of_fetched live (fetch_planned result _) n st
  | none =>
    cases n with
    | zero => rfl
    | succ n =>
      rw [BatchStream.answers_serve_toHandle_succ]
      unfold BatchStream.turn
      simp only [live, fetch_failed result, BatchStream.serve_of_ended lib.engine.toHandle (s := s.ended) rfl]
      simp

/-- Rows are ahead of a cursor if they are those of the frame that is left, or of the result of its plan. -/
def PlanCursor.Ahead (lib : Library π) (cursor : PlanCursor π) (all : List Row) : Prop :=
  ∃ f, rows f = .ok all ∧ ∀ size, lib.engine.fetch cursor size = lib.engine.fetch (.paging f) size

theorem keepsAhead {budget : Option Duration} :
    lib.engine.toHandle.KeepsAhead budget fun cursor _ all => cursor.Ahead lib all where
  fetch := by
    rintro cursor st all ⟨f, read, fetched⟩ size
    have page := (fetched size).trans (slice_zero f ▸ fetch_paging lib f 0 size)
    have given : all.drop (0 + (f.slice 0 (some size)).height) = all.drop size := by
      have height := length_rows read
      rw [height_slice, partLength, Nat.zero_add, Nat.sub_zero, ← height]
      by_cases more : size ≤ all.length
      · rw [Nat.min_eq_left more]
      · rw [List.drop_of_length_le (by omega), List.drop_of_length_le (by omega)]
    constructor
    · exact ⟨Call.inTime_at_once _ _ _ _, (congrArg Prod.fst page).trans (rows_slice read 0 (some size))⟩
    · refine ⟨_, (rows_slice read (0 + (f.slice 0 (some size)).height) none).trans (congrArg _ given), fun n => ?_⟩
      exact congrArg (lib.engine.fetch · n) (congrArg Prod.snd page)
  close _ := Call.gives_at_once _ _ _

/-- If all rows of the result can be read, a stream on the plan gives them in full batches. -/
theorem givesInBatches_of_planned {size : Nat} (timeout : Option Duration) (result : lib.collect? p = some f)
    (read : rows f = .ok all) (positive : 0 < size) (st : Registry π) :
    BatchStream.GivesInBatches lib.engine.toHandle (.start (.planned p) size timeout) st size all
      (inBatches size all) := by
  have ahead : (PlanCursor.planned p).Ahead lib all := ⟨f, read, slice_zero f ▸ fetch_planned result⟩
  exact BatchStream.givesInBatches_of_pages ⟨_, keepsAhead, ahead⟩ positive

end Profiling.Frame
