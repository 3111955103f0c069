import Profiling.Proofs.Handle.Paging
import Profiling.Proofs.Runner.Selection
import Profiling.Proofs.Runner.Stream

/-!
# Streams against fetches

A stream over the sample and a fetch of all of it give the same rows, for a handle that gives the
same rows at once and page by page. The stream gives them in full batches but for the last.
-/

namespace Profiling

/-! ### Batches -/

/-- A list in batches of `size`, of which the last may be shorter. -/
def inBatches (size : Nat) (rows : List α) : List (List α) :=
  if size = 0 ∨ rows = [] then [] else rows.take size :: inBatches size (rows.drop size)
termination_by rows.length
decreasing_by
  have nonempty : 0 < rows.length := by
    apply List.length_pos_iff.mpr
    simp_all
  rw [List.length_drop]
  omega

theorem inBatches_nil (size : Nat) : inBatches size ([] : List α) = [] := by
  rw [inBatches, if_pos (.inr rfl)]

variable {size : Nat} {rows : List α}

theorem inBatches_of_ne_nil (positive : 0 < size) (nonempty : rows ≠ []) :
    inBatches size rows = rows.take size :: inBatches size (rows.drop size) := by
  rw [inBatches, if_neg]
  rintro (zero | none)
  · omega
  · exact nonempty none

theorem inBatches_eq_nil_iff (positive : 0 < size) : inBatches size rows = [] ↔ rows = [] := by
  constructor
  · intro none
    by_contra nonempty
    rw [inBatches_of_ne_nil positive nonempty] at none
    cases none
  · rintro rfl
    exact inBatches_nil size

/-- Induction on what is left behind each batch. -/
theorem inBatches_induct {motive : List α → Prop} (positive : 0 < size) (nil : motive [])
    (step : ∀ rows, rows ≠ [] → motive (rows.drop size) → motive rows) (rows : List α) : motive rows := by
  induction rows using inBatches.induct size with
  | case1 rows empty =>
    obtain rfl := empty.resolve_left (by omega)
    exact nil
  | case2 rows live ih => exact step rows (fun none => live (.inr none)) ih

theorem flatten_inBatches (positive : 0 < size) (rows : List α) : (inBatches size rows).flatten = rows := by
  induction rows using inBatches_induct positive with
  | nil => rw [inBatches_nil, List.flatten_nil]
  | step rows nonempty ih => rw [inBatches_of_ne_nil positive nonempty, List.flatten_cons, ih, List.take_append_drop]

/-- There are as many batches as it takes, the last one counted whole. -/
theorem length_inBatches (positive : 0 < size) (rows : List α) :
    (inBatches size rows).length = (rows.length + size - 1) / size := by
  induction rows using inBatches_induct positive with
  | nil =>
    have short : 0 + size - 1 < size := by omega
    rw [inBatches_nil, List.length_nil, List.length_nil, Nat.div_eq_of_lt short]
  | step rows nonempty ih =>
    have rows_pos : 0 < rows.length := List.length_pos_iff.mpr nonempty
    rw [inBatches_of_ne_nil positive nonempty, List.length_cons, ih, List.length_drop]
    by_cases last : rows.length ≤ size
    · have rest : rows.length - size + size - 1 = size - 1 := by omega
      have all : rows.length + size - 1 = rows.length - 1 + size := by omega
      have short : rows.length - 1 < size := by omega
      have none : size - 1 < size := by omega
      rw [rest, all, Nat.add_div_right _ positive, Nat.div_eq_of_lt short, Nat.div_eq_of_lt none]
    · have rest : rows.length - size + size - 1 = rows.length - 1 := by omega
      have all : rows.length + size - 1 = rows.length - 1 + size := by omega
      rw [rest, all, Nat.add_div_right _ positive]

/-- Every batch but the last is full. -/
theorem length_of_mem_dropLast_inBatches (positive : 0 < size) {batch : List α}
    (member : batch ∈ (inBatches size rows).dropLast) : batch.length = size := by
  induction rows using inBatches_induct positive with
  | nil =>
    rw [inBatches_nil] at member
    cases member
  | step rows nonempty ih =>
    rw [inBatches_of_ne_nil positive nonempty] at member
    by_cases last : rows.drop size = []
    · rw [last, inBatches_nil] at member
      cases member
    · have more : inBatches size (rows.drop size) ≠ [] := fun none =>
        last ((inBatches_eq_nil_iff positive).mp none)
      rw [List.dropLast_cons_of_ne_nil more] at member
      rcases List.mem_cons.mp member with rfl | later
      · have longer : size < rows.length := by
          rw [List.drop_eq_nil_iff] at last
          omega
        rw [List.length_take]
        omega
      · exact ih later

/-! ### Streams on paging cursors -/

variable {σ κ : Type}

namespace BatchStream

variable {h : Handle σ κ} {s : BatchStream κ} {cursor : κ} {st : σ} {rows : List Row}

/-- With rows ahead, the next batch is the first of them. -/
theorem nextBatch_of_pages (live : s.cursor = some cursor) (pages : h.Pages s.timeout cursor st rows)
    (positive : 0 < s.batchSize) (nonempty : rows ≠ []) :
    ∃ next st', h.Pages s.timeout next st' (rows.drop s.batchSize) ∧ s.nextBatch h st =
      (.ok (some (rows.take s.batchSize)),
        { s with cursor := some next, rowsFetched := s.rowsFetched + (rows.take s.batchSize).length }, st') := by
  obtain ⟨⟨inTime, outcome⟩, ahead⟩ := pages.fetch s.batchSize
  have taken : rows.take s.batchSize ≠ [] := by
    rw [ne_eq, List.take_eq_nil_iff]
    rintro (zero | none)
    · omega
    · exact nonempty none
  have found : (h.fetch cursor s.batchSize st).delivers s.timeout = true := by
    simp [Call.delivers, inTime, outcome, taken]
  have shown : (h.fetch cursor s.batchSize st).rows = rows.take s.batchSize := by
    simp only [Call.rows, outcome]
  refine ⟨_, _, ahead, ?_⟩
  rw [nextBatch_of_delivers h live found, shown]

/-- With no rows ahead, the stream ends without failure. -/
theorem nextBatch_of_paged (live : s.cursor = some cursor) (pages : h.Pages s.timeout cursor st []) :
    ∃ st', s.nextBatch h st = (.ok none, s.ended, st') := by
  obtain ⟨gives, ahead⟩ := pages.fetch s.batchSize
  rw [List.take_nil] at gives
  rw [List.drop_nil] at ahead
  refine ⟨h.release (h.fetch cursor s.batchSize st).state.cursor
    (h.close (h.fetch cursor s.batchSize st).state.cursor (h.fetch cursor s.batchSize st).state.state).state, ?_⟩
  unfold nextBatch close
  simp only [live, Call.within_of_gives gives, Call.within_of_gives ahead.close]
  rfl

/-- Calls for the next batch answer with one batch after the other, and with nothing from then on. -/
theorem answers_of_pages (live : s.cursor = some cursor) (pages : h.Pages s.timeout cursor st rows)
    (positive : 0 < s.batchSize) (n : Nat) :
    (s.serve h n st).answers =
      ((inBatches s.batchSize rows).map fun batch => .ok (some batch)).take n ++
        List.replicate (n - (inBatches s.batchSize rows).length) (.ok none) := by
  induction n generalizing s cursor st rows with
  | zero => simp [serve]
  | succ n ih =>
    by_cases empty : rows = []
    · subst empty
      obtain ⟨st', step⟩ := nextBatch_of_paged live pages
      rw [serve_of_end step, inBatches_nil]
      rfl
    · obtain ⟨next, st', ahead, step⟩ := nextBatch_of_pages live pages positive empty
      have later := ih (s := { s with
        cursor := some next, rowsFetched := s.rowsFetched + (rows.take s.batchSize).length }) rfl ahead positive
      rw [serve_succ step, inBatches_of_ne_nil positive empty, List.map_cons, List.take_succ_cons,
        List.length_cons, Nat.add_sub_add_right, List.cons_append, ← later]

structure GivesInBatches (h : Handle σ κ) (s : BatchStream κ) (st : σ) (size : Nat) (rows : List Row)
    (batches : List (List Row)) : Prop where
  flatten : batches.flatten = rows
  count : batches.length = (rows.length + size - 1) / size
  full : ∀ batch ∈ batches.dropLast, batch.length = size
  answers : ∀ n, (s.serve h n st).answers =
    (batches.map fun batch => .ok (some batch)).take n ++ List.replicate (n - batches.length) (.ok none)
  rowsFetched : ∀ n, batches.length ≤ n → (s.serve h n st).stream.rowsFetched = rows.length

theorem batches_map_ok (batches : List (List Row)) (n : Nat) (s : BatchStream κ) (st : σ) :
    (⟨(batches.map fun batch => .ok (some batch)) ++ List.replicate n (.ok none), s, st⟩ : Served σ κ).batches
      = batches := by
  induction batches with
  | nil => exact batches_of_ended n s st
  | cons batch batches ih => exact congrArg (batch :: ·) ih

/-- A fresh stream on a cursor that pages through rows gives just these. -/
theorem givesInBatches_of_pages {timeout : Option Duration} {size : Nat}
    (pages : h.Pages timeout cursor st rows) (positive : 0 < size) :
    GivesInBatches h (start cursor size timeout) st size rows (inBatches size rows) where
  flatten := flatten_inBatches positive rows
  count := length_inBatches positive rows
  full _ member := length_of_mem_dropLast_inBatches positive member
  answers n := answers_of_pages rfl pages positive n
  rowsFetched n enough := by
    have answers := answers_of_pages (s := start cursor size timeout) rfl pages positive n
    have batches : ((start cursor size timeout).serve h n st).batches = inBatches size rows := by
      rw [List.take_of_length_le (by simpa [start] using enough)] at answers
      unfold Served.batches
      rw [answers]
      exact batches_map_ok (inBatches size rows) _ (start cursor size timeout) st
    rw [rowsFetched_serve, batches, flatten_inBatches positive rows]
    exact Nat.zero_add _

end BatchStream

/-! ### Streams over samples -/

namespace Runner

/-- A stream over the sample gives the rows that a fetch of all of it gives, in full batches but
for the last. Where there is no statement, both fail alike and leave the handle alone. -/
theorem streamFromSample_agrees (r : Runner) (size : Nat) (h : Handle σ κ) (entities : List Expr)
    (args : QueryArgs) (now : Instant) {st opening : σ} {rows : List Row}
    (same : ∀ q, r.statement ⟨.sample, .all, true⟩ entities args now = .ok q →
      h.Executes r.timeout (q.toSql h.dialect) st rows ∧ h.OpensOn r.timeout (q.toSql h.dialect) opening rows) :
    let r' := r.withBatchSize size
    match r.statement ⟨.sample, .all, true⟩ entities args now with
    | .error cause =>
      r'.selectAllFromSample h entities args now st = (.error (.configuration cause), st) ∧
        r'.streamFromSample h entities args now opening = (.error (.configuration cause), opening)
    | .ok _ =>
      (r'.selectAllFromSample h entities args now st).1 = .ok rows ∧
        ∃ stream opened batches, r'.streamFromSample h entities args now opening = (.ok stream, opened) ∧
          stream.GivesInBatches h opened (max size 1) rows batches := by
  intro r'
  have alike : r'.statement ⟨.sample, .all, true⟩ entities args now =
      r.statement ⟨.sample, .all, true⟩ entities args now := rfl
  cases built : r.statement ⟨.sample, .all, true⟩ entities args now with
  | error cause =>
    constructor
    · unfold selectAllFromSample run
      rw [alike, built]
    · unfold streamFromSample
      rw [alike, built]
  | ok q =>
    obtain ⟨executes, cursor, opens, pages⟩ := same q built
    constructor
    · unfold selectAllFromSample run execute
      rw [alike, built]
      exact congrArg Prod.fst (Call.within_of_gives executes)
    · have positive : 0 < max size 1 := by omega
      refine ⟨.start cursor r'.batchSize r.timeout, _, _, ?_,
        BatchStream.givesInBatches_of_pages pages positive⟩
      have opened : (h.openCursor (q.toSql h.dialect) opening).within r'.timeout =
          (.ok cursor, (h.openCursor (q.toSql h.dialect) opening).state) := Call.within_of_gives opens
      unfold streamFromSample
      rw [alike, built]
      simp only [opened]
      rfl

def numbered (n : Nat) : Row := ⟨["id"], [.int n]⟩

/-- Five rows in batches of two, and of one where batches of none are asked for. -/
theorem five_rows_in_batches :
    let h := (Engine.ofRows .polars ((List.range 5).map numbered)).toHandle
    (∃ stream opened batches,
      ((ofDays 1 5).withBatchSize 2).streamFromSample h [] {} (.ofSeconds 0 0 (by decide)) () = (.ok stream, opened) ∧
        stream.GivesInBatches h opened 2 ((List.range 5).map numbered) batches ∧ batches.length = 3) ∧
    ∃ stream opened batches,
      ((ofDays 1 5).withBatchSize 0).streamFromSample h [] {} (.ofSeconds 0 0 (by decide)) () = (.ok stream, opened) ∧
        stream.GivesInBatches h opened 1 ((List.range 5).map numbered) batches ∧ batches.length = 5 := by
  intro h
  have agrees (size : Nat) := streamFromSample_agrees (ofDays 1 5) size h [] {} (.ofSeconds 0 0 (by decide))
    fun q _ => ⟨Engine.executes_ofRows .polars _ (q.toSql h.dialect) (), Engine.opensOn_ofRows .polars _ _ ()⟩
  constructor
  · obtain ⟨-, stream, opened, batches, opens, gives⟩ := agrees 2
    exact ⟨stream, opened, batches, opens, gives, gives.count⟩
  · obtain ⟨-, stream, opened, batches, opens, gives⟩ := agrees 0
    exact ⟨stream, opened, batches, opens, gives, gives.count⟩

end Runner

end Profiling
