import Profiling.Proofs.Runner.Preview
import Profiling.Proofs.Runner.Resolution

/-!
# The calls of a fetch

A fetch builds its statement first. If that fails, the handle is not called; otherwise it is called
once, with the text of the statement in its own dialect. A statement cannot be built where a
partition refuses the columns of its target, and a preview where its sample cannot be built.
-/

namespace Profiling

variable {σ κ : Type} {now : Instant}

/-! ### Statements that cannot be built -/

theorem Partition.refuses_of_conditionOf {partition : Option Partition} {columns : List Column}
    {cause : ConfigurationError} (failed : conditionOf partition columns now = .error cause) :
    ∃ p, partition = some p ∧ p.Refuses columns now cause := by
  cases partition with
  | none => cases failed
  | some p => exact ⟨p, rfl, predicateAt_eq_error_iff.mp (error_of_map failed)⟩

theorem Runner.refuses_of_statement {r : Runner} {policy : FetchPolicy} {entities : List Expr} {args : QueryArgs}
    {cause : ConfigurationError} (failed : r.statement policy entities args now = .error cause) :
    ∃ p, r.keptPartition policy = some p ∧ p.Refuses (r.target policy.source).columns now cause := by
  rw [statement_eq] at failed
  exact Partition.refuses_of_conditionOf (error_of_map failed)

/-- A preview fails with its sample, or with the partition over what it reads. -/
theorem Sampler.refuses_of_previewQuery {s : Sampler} {columns : List String} {cause : ConfigurationError}
    (failed : s.previewQuery columns now = .error cause) :
    s.randomSample now = .error cause ∨ ∃ sample p, s.randomSample now = .ok sample ∧ s.partition = some p ∧
      (s.target sample).kind ≠ .sample ∧ p.Refuses (s.target sample).columns now cause := by
  cases drawn : s.randomSample now with
  | error own =>
    rw [previewQuery, drawn] at failed
    exact .inl (congrArg _ (Except.error.inj failed))
  | ok sample =>
    rw [previewQuery_eq drawn] at failed
    have narrowed := error_of_map failed
    by_cases sampled : (s.target sample).kind = .sample
    · rw [if_pos sampled] at narrowed
      cases narrowed
    · rw [if_neg sampled] at narrowed
      obtain ⟨p, bound, refuses⟩ := Partition.refuses_of_conditionOf narrowed
      exact .inr ⟨sample, p, rfl, bound, sampled, refuses⟩

/-! ### Fetches -/

inductive Fetch where
  | run (policy : FetchPolicy) (entities : List Expr) (args : QueryArgs)
  | firstFromTable (entities : List Expr) (args : QueryArgs)
  | allFromTable (entities : List Expr) (args : QueryArgs)
  | firstFromSample (entities : List Expr) (args : QueryArgs)
  | allFromSample (entities : List Expr) (args : QueryArgs)
  | dispatchFirst (entities : List Expr) (args : QueryArgs)
  | stream (entities : List Expr) (args : QueryArgs)
  | firstFromQuery (q : Select)
  | allFromQuery (q : Select)
  | preview (columns : List String)

inductive Fetched (κ : Type) where
  | row (row : Option Row)
  | rows (rows : List Row)
  | stream (stream : BatchStream κ)
  | data (data : TableData)

namespace Fetch

def fetched (wrap : α → Fetched κ) (result : Except QueryError α × σ) : Except QueryError (Fetched κ) × σ :=
  (result.1.map wrap, result.2)

def perform (r : Runner) (s : Sampler) (h : Handle σ κ) (now : Instant) (st : σ) :
    Fetch → Except QueryError (Fetched κ) × σ
  | run policy entities args => fetched .rows (r.run h policy entities args now st)
  | firstFromTable entities args => fetched .row (r.selectFirstFromTable h entities args now st)
  | allFromTable entities args => fetched .rows (r.selectAllFromTable h entities args now st)
  | firstFromSample entities args => fetched .row (r.selectFirstFromSample h entities args now st)
  | allFromSample entities args => fetched .rows (r.selectAllFromSample h entities args now st)
  | dispatchFirst entities args => fetched .row (r.dispatchSelectFirst h entities args now st)
  | stream entities args => fetched .stream (r.streamFromSample h entities args now st)
  | firstFromQuery q => fetched .row (r.selectFirstFromQuery h q st)
  | allFromQuery q => fetched .rows (r.selectAllFromQuery h q st)
  | preview columns => fetched .data (s.fetchSampleData h columns now st)

def policy? (r : Runner) : Fetch → Option FetchPolicy
  | run policy _ _ => some policy
  | firstFromTable .. => some ⟨.table, .first, true⟩
  | allFromTable .. => some ⟨.table, .all, true⟩
  | firstFromSample .. => some ⟨.sample, .first, true⟩
  | allFromSample .. | stream .. => some ⟨.sample, .all, true⟩
  | dispatchFirst .. => some r.dispatchPolicy
  | firstFromQuery _ | allFromQuery _ | preview _ => none

def statement (r : Runner) (s : Sampler) (now : Instant) : Fetch → Except ConfigurationError Select
  | run policy entities args => r.statement policy entities args now
  | firstFromTable entities args => r.statement ⟨.table, .first, true⟩ entities args now
  | allFromTable entities args => r.statement ⟨.table, .all, true⟩ entities args now
  | firstFromSample entities args => r.statement ⟨.sample, .first, true⟩ entities args now
  | allFromSample entities args | stream entities args => r.statement ⟨.sample, .all, true⟩ entities args now
  | dispatchFirst entities args => r.statement r.dispatchPolicy entities args now
  | firstFromQuery q => .ok (q.withLimit 1)
  | allFromQuery q => .ok q
  | preview columns => s.previewQuery columns now

def call (sql : String) : Fetch → HandleCall
  | stream .. => .openCursor sql
  | _ => .execute sql

/-- What keeps a fetch from building its statement. -/
def Blames (r : Runner) (s : Sampler) (now : Instant) (cause : ConfigurationError) (f : Fetch) : Prop :=
  (∃ policy p, f.policy? r = some policy ∧ policy.applyPartition = true ∧ r.partition = some p ∧
      p.Refuses (r.target policy.source).columns now cause) ∨
    ∃ columns, f = preview columns ∧
      (s.randomSample now = .error cause ∨ ∃ sample p, s.randomSample now = .ok sample ∧ s.partition = some p ∧
        (s.target sample).kind ≠ .sample ∧ p.Refuses (s.target sample).columns now cause)

variable {r : Runner} {s : Sampler} {f : Fetch} {cause : ConfigurationError} {q : Select}

theorem blames_of_policy {policy : FetchPolicy} {entities : List Expr} {args : QueryArgs}
    (own : f.policy? r = some policy) (failed : r.statement policy entities args now = .error cause) :
    f.Blames r s now cause := by
  obtain ⟨p, kept, refuses⟩ := Runner.refuses_of_statement failed
  unfold Runner.keptPartition at kept
  split at kept
  · next applies => exact .inl ⟨policy, p, own, applies, kept, refuses⟩
  · cases kept

theorem blames_of_statement (failed : f.statement r s now = .error cause) : f.Blames r s now cause := by
  cases f with
  | firstFromQuery q | allFromQuery q => cases failed
  | preview columns => exact .inr ⟨columns, rfl, Sampler.refuses_of_previewQuery failed⟩
  | _ => exact blames_of_policy rfl failed

theorem perform_of_error (failed : f.statement r s now = .error cause) (h : Handle σ κ) (st : σ) :
    f.perform r s h now st = (.error (.configuration cause), st) := by
  cases f with
  | firstFromQuery q | allFromQuery q => cases failed
  | preview columns =>
    rw [perform, Sampler.fetchSampleData_of_error failed]
    rfl
  | stream entities args =>
    rw [statement] at failed
    rw [perform, Runner.streamFromSample, failed]
    rfl
  | _ =>
    have failed' := Runner.run_of_error failed h st
    simp only [perform, Runner.selectFirstFromTable, Runner.selectAllFromTable, Runner.selectFirstFromSample,
      Runner.selectAllFromSample, Runner.dispatchSelectFirst, failed']
    rfl

theorem calls_perform (built : f.statement r s now = .ok q) (h : Handle σ κ) (st : Recorded σ) :
    (f.perform r s h.recorded now st).2.calls = st.calls ++ [f.call (q.toSql h.dialect)] := by
  cases f with
  | firstFromQuery own | allFromQuery own =>
    obtain rfl := Except.ok.inj built
    exact r.calls_execute h _ st
  | preview columns => exact Sampler.calls_fetchSampleData built h st
  | stream entities args =>
    rw [statement] at built
    rw [perform, Runner.streamFromSample, built]
    exact congrArg (fun result => result.2.calls) (Call.within_mapState (st.add (.openCursor (q.toSql h.dialect)))
      r.timeout (h.openCursor (q.toSql h.dialect) st.state))
  | _ => exact Runner.calls_run built h st

structure CallsOnce (r : Runner) (s : Sampler) (now : Instant) (f : Fetch) : Prop where
  failed : ∀ cause, f.statement r s now = .error cause → f.Blames r s now cause ∧
    ∀ {σ κ : Type} (h : Handle σ κ) (st : σ), f.perform r s h now st = (.error (.configuration cause), st)
  built : ∀ q, f.statement r s now = .ok q → ∀ {σ κ : Type} (h : Handle σ κ) (st : Recorded σ),
    (f.perform r s h.recorded now st).2.calls = st.calls ++ [f.call (q.toSql h.dialect)]
  silent : ∀ {σ κ : Type} (h : Handle σ κ) (st : Recorded σ),
    (f.perform r s h.recorded now st).2.calls = st.calls ↔ ∃ cause, f.statement r s now = .error cause

theorem calls_once (r : Runner) (s : Sampler) (now : Instant) (f : Fetch) : f.CallsOnce r s now where
  failed cause failed := ⟨blames_of_statement failed, perform_of_error failed⟩
  built q built := calls_perform built
  silent h st := by
    constructor
    · intro quiet
      cases statement : f.statement r s now with
      | error cause => exact ⟨cause, rfl⟩
      | ok q =>
        rw [calls_perform statement] at quiet
        exact absurd quiet (by simp)
    · rintro ⟨cause, failed⟩
      rw [perform_of_error failed]

end Fetch

end Profiling
