import Profiling.Proofs.Frame.Paging
import Profiling.Proofs.Frame.Registry

/-!
# Streams that do not interfere

Streams of one engine are opened, read, closed and dropped in any order, with statements and
registrations between them. Each answers as if it were alone: with the rows of one result, that of
its statement over the frames that were registered when it was opened.
-/

namespace Profiling.Frame

variable {π : Type} {lib : Library π} {s : Session (Registry π) (PlanCursor π)} {name : String}

/-! ### Calls in a session -/

/-- What can be done in a session: calls on the engine itself, and those on a stream by its name. -/
inductive SessionCall where
  | engine (c : EngineCall)
  | stream (name : String) (r : Runner) (entities : List Expr) (args : QueryArgs) (now : Instant)
  | next (name : String)
  | close (name : String)
  | drop (name : String)

namespace SessionCall

def subject? : SessionCall → Option String
  | engine _ => none
  | stream name .. | next name | close name | drop name => some name

def Opens (name : String) : SessionCall → Prop
  | stream n .. => n = name
  | _ => False

end SessionCall

/-- How often a stream is asked for a batch before it is closed or dropped. -/
def asked (name : String) : List SessionCall → Nat
  | [] => 0
  | .next n :: later => if n = name then asked name later + 1 else asked name later
  | .close n :: later | .drop n :: later => if n = name then 0 else asked name later
  | _ :: later => asked name later

/-- The answers of the stream under a name, of those of all streams. -/
def answersOf (name : String) (answers : List (String × Answer)) : List Answer :=
  (answers.filter (·.1 = name)).map (·.2)

namespace Library

/-- The answer of a stream to a call, if it is one for the next batch, and the session after it. -/
def perform (lib : Library π) (s : Session (Registry π) (PlanCursor π)) :
    SessionCall → List (String × Answer) × Session (Registry π) (PlanCursor π)
  | .engine c => ([], { s with state := lib.after s.state c })
  | .stream name r entities args now =>
    ([], (s.openStream lib.engine.toHandle name (r.streamFromSample lib.engine.toHandle entities args now)).2)
  | .next name =>
    match s.nextBatch lib.engine.toHandle name with
    | none => ([], s)
    | some (answer, s) => ([(name, answer)], s)
  | .close name => ([], ((s.closeStream lib.engine.toHandle name).map (·.2)).getD s)
  | .drop name => ([], (s.dropStream lib.engine.toHandle name).2)

/-- The answers of streams to calls that follow one another. The registered frames may come to stand
in another order at any time. -/
inductive Runs (lib : Library π) :
    Session (Registry π) (PlanCursor π) → List SessionCall → List (String × Answer) → Prop where
  | done (s : Session (Registry π) (PlanCursor π)) : lib.Runs s [] []
  | reorder {s : Session (Registry π) (PlanCursor π)} {calls : List SessionCall} {answers : List (String × Answer)}
      {frames : List (String × Frame)} :
      s.state.frames.Perm frames → lib.Runs { s with state := { s.state with frames } } calls answers →
      lib.Runs s calls answers
  | call {s : Session (Registry π) (PlanCursor π)} {calls : List SessionCall} {answers : List (String × Answer)}
      (c : SessionCall) :
      lib.Runs (lib.perform s c).2 calls answers → lib.Runs s (c :: calls) ((lib.perform s c).1 ++ answers)

end Library

/-! ### One stream among others -/

theorem answersOf_append (name : String) (a b : List (String × Answer)) :
    answersOf name (a ++ b) = answersOf name a ++ answersOf name b := by
  simp [answersOf]

variable {c : SessionCall} {later : List SessionCall} {answers : List (String × Answer)}
  {stream : BatchStream (PlanCursor π)}

theorem asked_of_other (other : c.subject? ≠ some name) (later : List SessionCall) :
    asked name (c :: later) = asked name later := by
  cases c with
  | engine | stream => rfl
  | next n | close n | drop n =>
    exact if_neg (ne_of_apply_ne some other)

namespace Library

theorem perform_next (lib : Library π) (live : s.stream? name = some stream) :
    lib.perform s (.next name) = ([(name, (stream.turn lib.engine).1)], s.put name (stream.turn lib.engine).2) := by
  simp only [perform, Session.nextBatch_toHandle, live, Option.map_some]

theorem perform_next_of_none (lib : Library π) (absent : s.stream? name = none) :
    lib.perform s (.next name) = ([], s) := by
  simp only [perform, Session.nextBatch_toHandle, absent, Option.map_none]

theorem perform_close (lib : Library π) (s : Session (Registry π) (PlanCursor π)) (name : String) :
    lib.perform s (.close name) = ([], if (s.stream? name).isSome then s.remove name else s) := by
  simp only [perform, Session.closeStream_toHandle]
  cases s.stream? name <;> rfl

theorem perform_of_other (lib : Library π) (s : Session (Registry π) (PlanCursor π))
    (other : c.subject? ≠ some name) :
    answersOf name (lib.perform s c).1 = [] ∧ (lib.perform s c).2.stream? name = s.stream? name := by
  cases c with
  | engine c => exact ⟨rfl, rfl⟩
  | stream n r entities args now =>
    have differs := (ne_of_apply_ne some other).symm
    exact ⟨rfl, Session.stream?_openStream_of_ne differs⟩
  | next n =>
    have differs := (ne_of_apply_ne some other).symm
    cases live : s.stream? n with
    | none =>
      rw [perform_next_of_none lib live]
      exact ⟨rfl, rfl⟩
    | some stream =>
      rw [perform_next lib live]
      exact ⟨by simp [answersOf, differs.symm], Session.stream?_put_of_ne differs⟩
  | close n =>
    have differs := (ne_of_apply_ne some other).symm
    rw [perform_close]
    refine ⟨rfl, ?_⟩
    split
    · exact Session.stream?_remove_of_ne differs
    · rfl
  | drop n =>
    have differs := (ne_of_apply_ne some other).symm
    exact ⟨rfl, Session.stream?_dropStream_of_ne differs⟩

theorem stream?_perform_close (lib : Library π) (s : Session (Registry π) (PlanCursor π)) (name : String) :
    (lib.perform s (.close name)).2.stream? name = none := by
  rw [perform_close]
  cases live : s.stream? name with
  | none => exact live
  | some stream => exact Session.stream?_remove s name

/-- Among all calls, a stream answers as if it were asked alone. -/
theorem answersOf_runs (run : lib.Runs s later answers) (kept : ∀ c ∈ later, ¬ c.Opens name) (st : Registry π) :
    answersOf name answers =
      (s.stream? name).elim [] fun stream => (stream.serve lib.engine.toHandle (asked name later) st).answers := by
  induction run with
  | done s => cases s.stream? name <;> rfl
  | reorder _ _ ih => exact ih kept
  | @call s later answers c _ ih =>
    have ih := ih fun c member => kept c (List.mem_cons_of_mem _ member)
    rw [answersOf_append, ih]
    -- Only its own calls take the stream on, and they do not see what the others did to the engine.
    by_cases own : c.subject? = some name
    · cases c with
      | engine c => cases own
      | stream n =>
        exact absurd (Option.some.inj own) (kept _ List.mem_cons_self)
      | next n =>
        cases own
        cases live : s.stream? name with
        | none =>
          rw [perform_next_of_none lib live, live]
          rfl
        | some stream =>
          have count : asked name (.next name :: later) = asked name later + 1 := if_pos rfl
          rw [perform_next lib live, Session.stream?_put, Option.elim_some, Option.elim_some, count,
            BatchStream.answers_serve_toHandle_succ]
          simp [answersOf]
      | close n =>
        cases own
        have count : asked name (.close name :: later) = 0 := if_pos rfl
        rw [stream?_perform_close, count]
        cases s.stream? name <;> rfl
      | drop n =>
        cases own
        have count : asked name (.drop name :: later) = 0 := if_pos rfl
        have gone : (lib.perform s (.drop name)).2.stream? name = none := Session.stream?_dropStream s name
        rw [gone, count]
        cases s.stream? name <;> rfl
    · obtain ⟨silent, same⟩ := lib.perform_of_other s own
      rw [silent, same, asked_of_other own]
      rfl

end Library

/-! ### Every stream -/

structure Alone (lib : Library π) (s : Session (Registry π) (PlanCursor π)) (name : String)
    (stream : BatchStream (PlanCursor π)) (p : π) : Prop where
  /-- Whatever follows, it answers as it does if nothing else happens. -/
  answers : ∀ later answers, (∀ c ∈ later, ¬ c.Opens name) → lib.Runs s later answers →
    answersOf name answers = (stream.serve lib.engine.toHandle (asked name later) s.state).answers
  /-- Alone, it pages through the one result of its plan. -/
  pages : ∀ n, (stream.serve lib.engine.toHandle n s.state).answers = lib.pages p stream.batchSize n
  batches : ∀ f all, lib.collect? p = some f → rows f = .ok all → 0 < stream.batchSize →
    stream.GivesInBatches lib.engine.toHandle s.state stream.batchSize all (inBatches stream.batchSize all)

theorem start_of_streamFromSample {r : Runner} {entities : List Expr} {args : QueryArgs} {now : Instant}
    {st : Registry π} {stream : BatchStream (PlanCursor π)}
    (started : (r.streamFromSample lib.engine.toHandle entities args now st).1 = .ok stream) :
    ∃ q p, r.statement ⟨.sample, .all, true⟩ entities args now = .ok q ∧
      (lib.plan (q.toSql .polars) (lib.view st (q.toSql .polars))).1 = some p ∧
      stream = .start (.planned p) r.batchSize r.timeout := by
  unfold Runner.streamFromSample at started
  cases built : r.statement ⟨.sample, .all, true⟩ entities args now with
  | error cause =>
    rw [built] at started
    cases started
  | ok q =>
    have opening : (lib.engine.toHandle.openCursor (q.toSql .polars) st).within r.timeout =
        ((lib.planIn st (q.toSql .polars)).1.map .planned, (lib.planIn st (q.toSql .polars)).2) :=
      Call.within_at_once _ _ _ _
    have dialect : lib.engine.toHandle.dialect = .polars := rfl
    simp only [built, dialect, opening, lib.fst_planIn] at started
    cases planned : (lib.plan (q.toSql .polars) (lib.view st (q.toSql .polars))).1 with
    | none =>
      rw [planned] at started
      cases started
    | some p =>
      rw [planned] at started
      cases started
      exact ⟨q, p, rfl, planned, rfl⟩

theorem alone_of_live {stream : BatchStream (PlanCursor π)} {p : π} {size : Nat} {timeout : Option Duration}
    (live : s.stream? name = some stream) (fresh : stream = .start (.planned p) size timeout) :
    Alone lib s name stream p where
  answers later answers kept run := by rw [lib.answersOf_runs run kept s.state, live, Option.elim_some]
  pages n := by
    subst fresh
    exact answers_of_planned rfl n s.state
  batches f all result read positive := by
    subst fresh
    exact givesInBatches_of_planned timeout result read positive s.state

/-- Every stream that opens is alone on a plan of its statement, over the frames that are registered
then. -/
theorem stream_alone {s s' : Session (Registry π) (PlanCursor π)} {r : Runner} {entities : List Expr}
    {args : QueryArgs} {now : Instant}
    (opened : s.openStream lib.engine.toHandle name (r.streamFromSample lib.engine.toHandle entities args now) =
      (.ok (), s')) :
    ∃ q p, r.statement ⟨.sample, .all, true⟩ entities args now = .ok q ∧
      (lib.plan (q.toSql .polars) (lib.view s.state (q.toSql .polars))).1 = some p ∧
      (∀ history, lib.Reaches history s.state → lib.KeepsTablesIn history → ∀ n,
        lib.view s.state (q.toSql .polars) n =
          (s.state.seen (registered history) (q.toSql .polars) n).map lib.scan) ∧
      Alone lib s' name (.start (.planned p) r.batchSize r.timeout) p := by
  obtain ⟨stream, started, live⟩ := Session.stream_of_openStream opened
  obtain ⟨q, p, built, planned, fresh⟩ := start_of_streamFromSample started
  refine ⟨q, p, built, planned, fun history reached keeps n => ?_, fresh ▸ alone_of_live live fresh⟩
  rw [(Registry.shows_of_reaches reached keeps).view_eq]

def numberedFrame (numbers : List Int) : Frame := ⟨[⟨"id", .int 64, numbers.map .int⟩]⟩

def numberedRunner : Runner where
  table := { name := "people", columns := [⟨"id", .integer⟩] }
  batchSize := 2

/-- A stream over three rows gives them, also where their table is registered anew before they are
read and another stream reads that. -/
theorem three_rows_alone :
    let now := Instant.ofSeconds 0 0 (by decide)
    let rows : EngineCall := .register "people" (numberedFrame [1, 2, 3])
    let s : Session (Registry (Option Plan)) _ := ⟨library.after { draw := fun _ => 0 } rows, []⟩
    let later : List SessionCall := [
      .engine (.register "people" (numberedFrame [4])),
      .stream "other" numberedRunner [] {} now,
      .next "people",
      .next "other",
      .engine (.execute "SELECT \"__profiler_random\" FROM \"people\""),
      .next "people",
      .drop "other",
      .next "people"]
    ∃ s' answers,
      s.openStream library.engine.toHandle "people"
        (numberedRunner.streamFromSample library.engine.toHandle [] {} now) = (.ok (), s') ∧
      library.Runs s' later answers ∧
      answersOf "people" answers =
        [.ok (some [Runner.numbered 1, Runner.numbered 2]), .ok (some [Runner.numbered 3]), .ok none] := by
  intro now rows s later
  obtain ⟨s', opened⟩ : ∃ s', s.openStream library.engine.toHandle "people"
      (numberedRunner.streamFromSample library.engine.toHandle [] {} now) = (.ok (), s') :=
    Session.opened_of_isOk (by decide +kernel)
  obtain ⟨q, p, built, planned, view, alone⟩ := stream_alone opened
  have reached : library.Reaches [rows] s.state := .call _ (.start _)
  have keeps : library.KeepsTablesIn [rows] := library.keepsTablesIn_register _ _
  have result : library.collect? p = some (numberedFrame [1, 2, 3]) := by
    have text : q.toSql .polars = "SELECT * FROM \"people\"" := by
      cases built
      rfl
    rw [funext (view _ reached keeps), text] at planned
    have computed : ((library.plan "SELECT * FROM \"people\"" fun n =>
        (s.state.seen (registered [rows]) "SELECT * FROM \"people\"" n).map library.scan).1.bind
        library.collect?) = some (numberedFrame [1, 2, 3]) := by decide +kernel
    rw [planned] at computed
    exact computed
  have run : library.Runs s' later _ :=
    .call _ (.call _ (.call _ (.call _ (.call _ (.call _ (.call _ (.call _ (.done _))))))))
  refine ⟨s', _, opened, run, ?_⟩
  have kept : ∀ c ∈ later, ¬ c.Opens "people" := by
    simp [later, SessionCall.Opens]
  rw [alone.answers later _ kept run, alone.pages, Library.pages, result]
  rfl

end Profiling.Frame
