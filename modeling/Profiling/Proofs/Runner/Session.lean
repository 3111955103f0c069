import Profiling.Proofs.Runner.Stream
import Profiling.Runner.Session

/-!
# Sessions on an engine

The cursors of an engine hold nothing and take nothing from its state. So what a stream answers is
settled by the stream alone, and an action on one stream of a session leaves the others as they are.
-/

namespace Profiling

variable {σ κ : Type}

/-! ### Streams on an engine -/

namespace BatchStream

variable {e : Engine σ κ}

/-- What a stream on an engine answers next, and the stream after that. -/
def turn (e : Engine σ κ) (s : BatchStream κ) : Answer × BatchStream κ :=
  match s.cursor with
  | none => (.ok none, s)
  | some cursor =>
    match e.fetch cursor s.batchSize with
    | (.error cause, _) => (.error cause, s.ended)
    | (.ok [], _) => (.ok none, s.ended)
    | (.ok rows, next) =>
      (.ok (some rows), { s with cursor := some next, rowsFetched := s.rowsFetched + rows.length })

theorem close_toHandle (s : BatchStream κ) (st : σ) : s.close e.toHandle st = (.ok (), st) := by
  unfold close
  cases s.cursor with
  | none => rfl
  | some cursor =>
    have closing : (e.toHandle.close cursor st).within s.timeout = (.ok (), st) := Call.within_at_once _ _ _ _
    simp only [closing]
    rfl

theorem drop_toHandle (s : BatchStream κ) (st : σ) : s.drop e.toHandle st = st := by
  unfold drop
  cases s.cursor <;> rfl

theorem nextBatch_toHandle (s : BatchStream κ) (st : σ) :
    s.nextBatch e.toHandle st = ((s.turn e).1, (s.turn e).2, st) := by
  unfold nextBatch turn
  cases live : s.cursor with
  | none => rfl
  | some cursor =>
    have fetching : (e.toHandle.fetch cursor s.batchSize st).within s.timeout =
        ((e.fetch cursor s.batchSize).1, ⟨(e.fetch cursor s.batchSize).2, st⟩) := Call.within_at_once _ _ _ _
    simp only [fetching]
    rcases e.fetch cursor s.batchSize with ⟨_ | _ | _, next⟩
    · simp only [drop_toHandle]
      rfl
    · simp only [close_toHandle]
      rfl
    · rfl

theorem answers_serve_toHandle_succ (n : Nat) (s : BatchStream κ) (st : σ) :
    (s.serve e.toHandle (n + 1) st).answers = (s.turn e).1 :: ((s.turn e).2.serve e.toHandle n st).answers := by
  rw [serve_succ (nextBatch_toHandle s st)]

end BatchStream

/-! ### Streams of a session -/

namespace Session

theorem lookup_filter_ne {α : Type} {name other : String} (differs : name ≠ other) (entries : List (String × α)) :
    (entries.filter (·.1 != other)).lookup name = entries.lookup name := by
  induction entries with
  | nil => rfl
  | cons e rest ih =>
    by_cases hidden : e.1 = other
    · have elsewhere : (name == e.1) = false := beq_false_of_ne (hidden ▸ differs)
      rw [List.filter_cons_of_neg (by simp [hidden]), ih, List.lookup_cons, elsewhere]
    · rw [List.filter_cons_of_pos (by simp [hidden]), List.lookup_cons, List.lookup_cons, ih]

theorem lookup_filter_self {α : Type} (name : String) (entries : List (String × α)) :
    (entries.filter (·.1 != name)).lookup name = none := by
  rw [List.lookup_eq_none_iff]
  intro e member
  have differs : e.1 ≠ name := by simpa using (List.mem_filter.mp member).2
  exact bne_iff_ne.mpr differs.symm

variable {e : Engine σ κ} {name other : String} {s : Session σ κ} {stream : BatchStream κ}

@[simp]
theorem stream?_put (s : Session σ κ) (name : String) (stream : BatchStream κ) :
    (s.put name stream).stream? name = some stream := List.lookup_cons_self

theorem stream?_put_of_ne (differs : name ≠ other) : (s.put other stream).stream? name = s.stream? name := by
  unfold put stream?
  rw [List.lookup_cons, beq_false_of_ne differs]
  exact lookup_filter_ne differs s.streams

@[simp]
theorem stream?_remove (s : Session σ κ) (name : String) : (s.remove name).stream? name = none :=
  lookup_filter_self name s.streams

theorem stream?_remove_of_ne (differs : name ≠ other) : (s.remove other).stream? name = s.stream? name :=
  lookup_filter_ne differs s.streams

theorem nextBatch_toHandle (s : Session σ κ) (name : String) :
    s.nextBatch e.toHandle name =
      (s.stream? name).map fun stream => ((stream.turn e).1, s.put name (stream.turn e).2) := by
  unfold nextBatch
  simp only [BatchStream.nextBatch_toHandle]
  rfl

theorem closeStream_toHandle (s : Session σ κ) (name : String) :
    s.closeStream e.toHandle name = (s.stream? name).map fun _ => (.ok (), s.remove name) := by
  unfold closeStream
  simp only [BatchStream.close_toHandle]
  rfl

theorem stream?_dropStream (s : Session σ κ) (name : String) : (s.dropStream e.toHandle name).2.stream? name = none := by
  unfold dropStream
  cases live : s.stream? name with
  | none => exact live
  | some stream => exact stream?_remove s name

theorem stream?_dropStream_of_ne (differs : name ≠ other) :
    (s.dropStream e.toHandle other).2.stream? name = s.stream? name := by
  unfold dropStream
  cases s.stream? other with
  | none => rfl
  | some stream => exact stream?_remove_of_ne (s := s) differs

variable {start : σ → Except QueryError (BatchStream κ) × σ}

theorem stream?_openStream_of_ne (differs : name ≠ other) :
    (s.openStream e.toHandle other start).2.stream? name = s.stream? name := by
  unfold openStream act
  rcases start s.state with ⟨_ | stream, st⟩
  · rfl
  · exact (stream?_put_of_ne differs).trans (stream?_dropStream_of_ne differs)

theorem stream_of_openStream {h : Handle σ κ} {s' : Session σ κ} (opened : s.openStream h name start = (.ok (), s')) :
    ∃ stream, (start s.state).1 = .ok stream ∧ s'.stream? name = some stream := by
  unfold openStream act at opened
  rcases started : start s.state with ⟨_ | stream, st⟩
  · rw [started] at opened
    cases opened
  · rw [started] at opened
    cases opened
    exact ⟨stream, rfl, stream?_put _ _ _⟩

theorem opened_of_isOk {h : Handle σ κ} (opens : (s.openStream h name start).1.isOk = true) :
    ∃ s', s.openStream h name start = (.ok (), s') := by
  rcases found : s.openStream h name start with ⟨_ | _, s'⟩
  · rw [found] at opens
    cases opens
  · exact ⟨s', rfl⟩

end Session

end Profiling
