import Mathlib.Data.List.TakeWhile
import Profiling.Proofs.Handle.Recorded
import Profiling.Runner.Stream

/-!
# The life of a batch stream

What a stream answers to call after call, against any handle: the rows that its cursor delivers up
to the first fetch that does not, and nothing from then on.
-/

namespace Profiling

variable {σ κ : Type}

abbrev Answer := Except QueryError (Option (List Row))

def Answer.batch? : Answer → Option (List Row)
  | .ok rows? => rows?
  | .error _ => none

structure Served (σ κ : Type) where
  answers : List Answer
  stream : BatchStream κ
  state : σ

def Served.batches (r : Served σ κ) : List (List Row) := r.answers.filterMap Answer.batch?

/-- How a stream is left: as it is, closed or dropped. -/
inductive Leaving where
  | keep
  | close
  | drop
deriving DecidableEq

/-- The first `n` fetches from a cursor, each of them made when the one before has come to its
end. -/
def Handle.fetches (h : Handle σ κ) (size : Nat) :
    (n : Nat) → κ → σ → List (Call (CursorState σ κ) (List Row))
  | 0, _, _ => []
  | n + 1, cursor, st =>
    let call := h.fetch cursor size st
    call :: fetches h size n call.state.cursor call.state.state

namespace BatchStream

def serve (h : Handle σ κ) : (n : Nat) → BatchStream κ → σ → Served σ κ
  | 0, s, st => ⟨[], s, st⟩
  | n + 1, s, st =>
    let (a, s, st) := s.nextBatch h st
    let rest := serve h n s st
    { rest with answers := a :: rest.answers }

def leave (h : Handle σ κ) (s : BatchStream κ) (st : σ) : Leaving → σ
  | .keep => st
  | .close => (s.close h st).2
  | .drop => s.drop h st

/-! ### One call -/

theorem nextBatch_of_ended (h : Handle σ κ) {s : BatchStream κ} (ended : s.cursor = none) (st : σ) :
    s.nextBatch h st = (.ok none, s, st) := by
  unfold nextBatch
  rw [ended]

theorem nextBatch_of_delivers (h : Handle σ κ) {s : BatchStream κ} {cursor : κ}
    (live : s.cursor = some cursor)
    {st : σ} (found : (h.fetch cursor s.batchSize st).delivers s.timeout = true) :
    s.nextBatch h st =
      (.ok (some (h.fetch cursor s.batchSize st).rows),
        { s with
          cursor := some (h.fetch cursor s.batchSize st).state.cursor
          rowsFetched := s.rowsFetched + (h.fetch cursor s.batchSize st).rows.length },
        (h.fetch cursor s.batchSize st).state.state) := by
  obtain ⟨within, ne⟩ := Call.within_of_delivers found
  obtain ⟨row, rows, shape⟩ := List.exists_cons_of_ne_nil ne
  unfold nextBatch
  simp only [live, within, shape]

/-- A fetch that does not deliver ends the stream: with its error, or at the end of the rows with
what closing the cursor comes to. -/
theorem nextBatch_of_not_delivers (h : Handle σ κ) {s : BatchStream κ} {cursor : κ}
    (live : s.cursor = some cursor) {st : σ}
    (failed : (h.fetch cursor s.batchSize st).delivers s.timeout = false) :
    let after := ((h.fetch cursor s.batchSize st).within s.timeout).2
    let closing := (h.close after.cursor after.state).within s.timeout
    (∃ e, s.nextBatch h st = (.error e, s.ended, h.release after.cursor after.state)) ∨
      s.nextBatch h st = (closing.1.map fun _ => none, s.ended, h.release after.cursor closing.2) := by
  unfold nextBatch
  rcases Call.within_of_not_delivers failed with ⟨e, error⟩ | empty
  · refine .inl ⟨e, ?_⟩
    simp only [live, error]
    rfl
  · refine .inr ?_
    simp only [live, empty]
    rfl

theorem nextBatch_ends (h : Handle σ κ) {s : BatchStream κ} {cursor : κ} (live : s.cursor = some cursor)
    {st : σ} (failed : (h.fetch cursor s.batchSize st).delivers s.timeout = false) :
    ∃ a st', Answer.batch? a = none ∧ s.nextBatch h st = (a, s.ended, st') := by
  rcases nextBatch_of_not_delivers h live failed with ⟨e, error⟩ | closed
  · exact ⟨_, _, rfl, error⟩
  · refine ⟨_, _, ?_, closed⟩
    cases ((h.close _ _).within s.timeout).1 <;> rfl

/-- What one call of a live stream comes to. -/
theorem nextBatch_cases (h : Handle σ κ) {s : BatchStream κ} {cursor : κ} (live : s.cursor = some cursor)
    (st : σ) :
    (∃ rows next st', rows ≠ [] ∧ s.nextBatch h st =
        (.ok (some rows), { s with cursor := some next, rowsFetched := s.rowsFetched + rows.length }, st')) ∨
      ∃ a st', Answer.batch? a = none ∧ s.nextBatch h st = (a, s.ended, st') := by
  cases found : (h.fetch cursor s.batchSize st).delivers s.timeout with
  | true => exact .inl ⟨_, _, _, (Call.within_of_delivers found).2, nextBatch_of_delivers h live found⟩
  | false => exact .inr (nextBatch_ends h live found)

/-! ### Many calls -/

theorem serve_of_ended (h : Handle σ κ) {s : BatchStream κ} (ended : s.cursor = none) (n : Nat) (st : σ) :
    s.serve h n st = ⟨List.replicate n (.ok none), s, st⟩ := by
  induction n with
  | zero => rfl
  | succ n ih =>
    simp only [serve, nextBatch_of_ended h ended, ih]
    rfl

theorem batches_of_ended (n : Nat) (s : BatchStream κ) (st : σ) :
    (⟨List.replicate n (.ok none), s, st⟩ : Served σ κ).batches = [] := by
  induction n with
  | zero => rfl
  | succ n ih => exact ih

variable {h : Handle σ κ} {s : BatchStream κ} {st : σ}

theorem serve_succ {a : Answer} {s' : BatchStream κ} {st' : σ} (step : s.nextBatch h st = (a, s', st'))
    (n : Nat) : s.serve h (n + 1) st =
      ⟨a :: (s'.serve h n st').answers, (s'.serve h n st').stream, (s'.serve h n st').state⟩ := by
  rw [serve, step]

theorem batches_of_batch {rows : List Row} {s' : BatchStream κ} {st' : σ}
    (step : s.nextBatch h st = (.ok (some rows), s', st')) (n : Nat) :
    (s.serve h (n + 1) st).batches = rows :: (s'.serve h n st').batches := by
  rw [serve_succ step]
  rfl

theorem serve_of_end {a : Answer} {st' : σ} (step : s.nextBatch h st = (a, s.ended, st')) (n : Nat) :
    s.serve h (n + 1) st = ⟨a :: List.replicate n (.ok none), s.ended, st'⟩ := by
  rw [serve_succ step, serve_of_ended h rfl]

theorem batches_of_end {a : Answer} {st' : σ} (noBatch : Answer.batch? a = none)
    (step : s.nextBatch h st = (a, s.ended, st')) (n : Nat) : (s.serve h (n + 1) st).batches = [] := by
  rw [serve_of_end step, Served.batches, List.filterMap_cons_none noBatch]
  exact batches_of_ended n s.ended st'

/-- The batches are what the cursor delivers up to the first fetch that does not. -/
theorem batches_eq {cursor : κ} (live : s.cursor = some cursor) (n : Nat) (st : σ) :
    (s.serve h n st).batches =
      ((h.fetches s.batchSize n cursor st).takeWhile (·.delivers s.timeout)).map Call.rows := by
  induction n generalizing s cursor st with
  | zero => rfl
  | succ n ih =>
    rw [Handle.fetches]
    cases found : (h.fetch cursor s.batchSize st).delivers s.timeout with
    | true =>
      rw [batches_of_batch (nextBatch_of_delivers h live found), List.takeWhile_cons_of_pos found,
        List.map_cons]
      exact congrArg _ (ih rfl _)
    | false =>
      obtain ⟨a, st', noBatch, step⟩ := nextBatch_ends h live found
      rw [batches_of_end noBatch step, List.takeWhile_cons_of_neg (by simp [found])]
      rfl

theorem ne_nil_of_mem_batches (n : Nat) {rows : List Row} (member : rows ∈ (s.serve h n st).batches) :
    rows ≠ [] := by
  cases cursor : s.cursor with
  | none =>
    rw [serve_of_ended h cursor, batches_of_ended] at member
    exact absurd member List.not_mem_nil
  | some cursor =>
    rw [batches_eq ‹_›] at member
    obtain ⟨call, delivered, rfl⟩ := List.mem_map.mp member
    exact (Call.within_of_delivers (List.mem_takeWhile_imp delivered)).2

/-- The rows that are given are counted. -/
theorem rowsFetched_serve (h : Handle σ κ) (n : Nat) (s : BatchStream κ) (st : σ) :
    (s.serve h n st).stream.rowsFetched =
      s.rowsFetched + (s.serve h n st).batches.flatten.length := by
  induction n generalizing s st with
  | zero => rfl
  | succ n ih =>
    cases live : s.cursor with
    | none =>
      rw [serve_of_ended h live, batches_of_ended]
      rfl
    | some cursor =>
      rcases nextBatch_cases h live st with ⟨rows, next, st', -, step⟩ | ⟨a, st', noBatch, step⟩
      · rw [batches_of_batch step, serve_succ step, List.flatten_cons, List.length_append, ← Nat.add_assoc]
        exact ih _ st'
      · rw [batches_of_end noBatch step, serve_of_end step]
        rfl

/-- With the first answer that is no batch the stream is over: all later answers say so, and
nothing changes any more. -/
theorem over_of_no_batch {n i : Nat} {a : Answer} (answer : (s.serve h n st).answers[i]? = some a)
    (noBatch : Answer.batch? a = none) :
    (s.serve h (i + 1) st).stream.isFinished = true ∧
      (∀ b ∈ (s.serve h n st).answers.drop (i + 1), b = .ok none) ∧
      (s.serve h n st).stream = (s.serve h (i + 1) st).stream ∧
      (s.serve h n st).state = (s.serve h (i + 1) st).state := by
  induction n generalizing s st i with
  | zero => cases answer
  | succ n ih =>
    cases live : s.cursor with
    | none =>
      rw [serve_of_ended h live, serve_of_ended h live]
      refine ⟨by simp [isFinished, live], fun b member => ?_, rfl, rfl⟩
      exact List.eq_of_mem_replicate (List.mem_of_mem_drop member)
    | some cursor =>
      rcases nextBatch_cases h live st with ⟨rows, next, st', -, step⟩ | ⟨b, st', -, step⟩
      · rw [serve_succ step] at answer ⊢
        rw [serve_succ step]
        -- The first answer is a batch, so it is not the one at `i`.
        cases i with
        | zero =>
          cases answer
          cases noBatch
        | succ i => exact ih answer
      · rw [serve_of_end step, serve_of_end step]
        exact ⟨rfl, fun b member => List.eq_of_mem_replicate
          (List.mem_of_mem_drop (List.drop_succ_cons ▸ member)), rfl, rfl⟩

/-! ### Records of the calls -/

theorem close_recorded (s : BatchStream κ) (st : Recorded σ) :
    s.close h.recorded st =
      ((s.close h st.state).1,
        ⟨st.calls ++ (if s.isFinished then [] else [.close, .release]), (s.close h st.state).2⟩) := by
  cases live : s.cursor with
  | none => simp [close, isFinished, live]
  | some cursor =>
    have closing : (h.recorded.close cursor st).within s.timeout =
        (((h.close cursor st.state).within s.timeout).1,
          st.add .close ((h.close cursor st.state).within s.timeout).2) := Call.within_mapState _ _ _
    simp only [close, isFinished, live, closing]
    simp [Handle.recorded, Recorded.add]

theorem drop_recorded (s : BatchStream κ) (st : Recorded σ) :
    s.drop h.recorded st =
      ⟨st.calls ++ (if s.isFinished then [] else [.release]), s.drop h st.state⟩ := by
  cases live : s.cursor <;> simp [drop, isFinished, live, Handle.recorded, Recorded.add]

/-- The calls that one call for the next batch makes. -/
def nextCalls (h : Handle σ κ) (s : BatchStream κ) (st : σ) : List HandleCall :=
  match s.cursor with
  | none => []
  | some cursor =>
    .fetch s.batchSize :: match ((h.fetch cursor s.batchSize st).within s.timeout).1 with
      | .error _ => [.release]
      | .ok [] => [.close, .release]
      | .ok _ => []

theorem nextBatch_recorded (s : BatchStream κ) (st : Recorded σ) :
    s.nextBatch h.recorded st =
      ((s.nextBatch h st.state).1, (s.nextBatch h st.state).2.1,
        ⟨st.calls ++ s.nextCalls h st.state, (s.nextBatch h st.state).2.2⟩) := by
  cases live : s.cursor with
  | none => simp [nextBatch, nextCalls, live]
  | some cursor =>
    have fetching : (h.recorded.fetch cursor s.batchSize st).within s.timeout =
        (((h.fetch cursor s.batchSize st.state).within s.timeout).1,
          ⟨((h.fetch cursor s.batchSize st.state).within s.timeout).2.cursor,
            st.add (.fetch s.batchSize) ((h.fetch cursor s.batchSize st.state).within s.timeout).2.state⟩) :=
      Call.within_mapState _ _ _
    unfold nextBatch nextCalls
    simp only [live, fetching]
    cases shape : ((h.fetch cursor s.batchSize st.state).within s.timeout).1 with
    | error e => simp [drop_recorded, Recorded.add, isFinished]
    | ok rows =>
      cases rows with
      | nil => simp [close_recorded, Recorded.add, isFinished]
      | cons row rows => simp [Recorded.add]

theorem serve_recorded (n : Nat) (s : BatchStream κ) (st : Recorded σ) :
    (s.serve h.recorded n st).answers = (s.serve h n st.state).answers ∧
      (s.serve h.recorded n st).stream = (s.serve h n st.state).stream ∧
      (s.serve h.recorded n st).state.state = (s.serve h n st.state).state := by
  induction n generalizing s st with
  | zero => exact ⟨rfl, rfl, rfl⟩
  | succ n ih =>
    rw [serve_succ (nextBatch_recorded s st), serve_succ (a := (s.nextBatch h st.state).1) rfl]
    obtain ⟨answers, stream, state⟩ := ih (s.nextBatch h st.state).2.1
      ⟨st.calls ++ s.nextCalls h st.state, (s.nextBatch h st.state).2.2⟩
    exact ⟨congrArg _ answers, stream, state⟩

/-- How often the cursor of a stream has been released if nobody but the stream does so. -/
def owed (s : BatchStream κ) : Nat := if s.isFinished then 1 else 0

theorem releases_nextBatch (s : BatchStream κ) (st : σ) :
    (s.nextCalls h st).count .release + s.owed = (s.nextBatch h st).2.1.owed := by
  cases live : s.cursor with
  | none => simp [nextBatch, nextCalls, live]
  | some cursor =>
    unfold nextBatch nextCalls
    simp only [live]
    cases shape : ((h.fetch cursor s.batchSize st).within s.timeout).1 with
    | error e => simp [owed, isFinished, ended, live]
    | ok rows =>
      cases rows with
      | nil => simp [owed, isFinished, ended, live]
      | cons row rows => simp [owed, isFinished, live]

theorem releases_serve (n : Nat) (s : BatchStream κ) (st : Recorded σ) :
    (s.serve h.recorded n st).state.releases + s.owed =
      st.releases + (s.serve h.recorded n st).stream.owed := by
  induction n generalizing s st with
  | zero => rfl
  | succ n ih =>
    rw [serve_succ (nextBatch_recorded s st)]
    have later := ih (s.nextBatch h st.state).2.1
      ⟨st.calls ++ s.nextCalls h st.state, (s.nextBatch h st.state).2.2⟩
    have now := releases_nextBatch (h := h) s st.state
    simp only [Recorded.releases, List.count_append] at later ⊢
    omega

theorem releases_leave (s : BatchStream κ) (st : Recorded σ) (leaving : Leaving) :
    (s.leave h.recorded st leaving).releases + s.owed =
      st.releases + if s.isFinished ∨ leaving ≠ .keep then 1 else 0 := by
  cases finished : s.isFinished <;> cases leaving <;>
    simp [Recorded.releases, leave, close_recorded, drop_recorded, owed, finished]

/-! ### The life of a stream -/

structure Lifecycle (h : Handle σ κ) (s : BatchStream κ) (cursor : κ) (st : σ) (n : Nat) (leaving : Leaving) :
    Prop where
  /-- The batches are the fetches that deliver rows in time, up to the first that does not. -/
  batches : (s.serve h n st).batches =
    ((h.fetches s.batchSize n cursor st).takeWhile (·.delivers s.timeout)).map Call.rows
  batches_ne_nil : ∀ rows ∈ (s.serve h n st).batches, rows ≠ []
  rowsFetched : (s.serve h n st).stream.rowsFetched = (s.serve h n st).batches.flatten.length
  /-- From the first answer that is no batch, the stream is over and makes no call any more. -/
  ended : ∀ i a, (s.serve h n st).answers[i]? = some a → Answer.batch? a = none →
    (s.serve h (i + 1) st).stream.isFinished = true ∧
      (s.serve h n st).stream.isFinished = true ∧
      (∀ b ∈ (s.serve h n st).answers.drop (i + 1), b = .ok none) ∧
      (s.serve h.recorded n ⟨[], st⟩).state.calls = (s.serve h.recorded (i + 1) ⟨[], st⟩).state.calls
  /-- The cursor is released once if the stream is over or left, and not before. -/
  released :
    ((s.serve h n st).stream.leave h.recorded (s.serve h.recorded n ⟨[], st⟩).state leaving).releases =
      if (s.serve h n st).stream.isFinished ∨ leaving ≠ .keep then 1 else 0

theorem releases_of_start (cursor : κ) (size n : Nat) (budget : Option Duration) (st : σ)
    (leaving : Leaving) :
    let s := start cursor size budget
    ((s.serve h n st).stream.leave h.recorded (s.serve h.recorded n ⟨[], st⟩).state leaving).releases =
      if (s.serve h n st).stream.isFinished ∨ leaving ≠ .keep then 1 else 0 := by
  intro s
  have served := releases_serve (h := h) n s ⟨[], st⟩
  have left := releases_leave (h := h) (s.serve h n st).stream (s.serve h.recorded n ⟨[], st⟩).state leaving
  -- Both sums count the release that the stream has made itself, which there is none of at the start.
  have fresh : s.owed = 0 := rfl
  have none : (⟨[], st⟩ : Recorded σ).releases = 0 := rfl
  simp only [(serve_recorded n s ⟨[], st⟩).2.1, fresh, none] at served
  omega

/-- Every stream lives like this, whatever its cursor does. -/
theorem lifecycle (h : Handle σ κ) (cursor : κ) (size : Nat) (budget : Option Duration) (st : σ) (n : Nat)
    (leaving : Leaving) : Lifecycle h (start cursor size budget) cursor st n leaving where
  batches := batches_eq rfl n st
  batches_ne_nil _ member := ne_nil_of_mem_batches n member
  rowsFetched := (rowsFetched_serve h n _ st).trans (Nat.zero_add _)
  ended i a answer noBatch := by
    obtain ⟨finished, later, stream, -⟩ := over_of_no_batch answer noBatch
    have recorded : ((start cursor size budget).serve h.recorded n ⟨[], st⟩).answers[i]? = some a :=
      (serve_recorded n _ ⟨[], st⟩).1 ▸ answer
    have quiet := (over_of_no_batch recorded noBatch).2.2.2
    exact ⟨finished, stream ▸ finished, later, congrArg Recorded.calls quiet⟩
  released := releases_of_start cursor size n budget st leaving

end BatchStream

end Profiling
