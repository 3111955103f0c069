import Profiling.Handle

/-!
# Calls and their records

Which calls deliver something within a budget, and a handle that records what reaches it. The
record changes nothing of what the handle does.
-/

namespace Profiling

variable {σ κ α β : Type}

/-! ### Budgets -/

def Call.inTime (budget : Option Duration) (c : Call σ α) : Bool :=
  match budget with
  | none => true
  | some b => c.delay.ticks ≤ b.ticks

theorem Call.within_of_inTime {budget : Option Duration} {c : Call σ α} (h : c.inTime budget = true) :
    c.within budget = (c.outcome, c.state) := by
  cases budget with
  | none => rfl
  | some b => exact if_neg (by simpa [inTime] using h)

theorem Call.within_of_late {budget : Option Duration} {c : Call σ α} (h : c.inTime budget = false) :
    ∃ b, c.within budget = (.error (.timeout b), c.waiting) := by
  cases budget with
  | none => cases h
  | some b => exact ⟨b, if_pos (by simpa [inTime] using h)⟩

/-- A call that does not wait is within every budget. -/
theorem Call.inTime_at_once (budget : Option Duration) (st st' : σ) (r : Except QueryError α) :
    (⟨st, ⟨0⟩, r, st'⟩ : Call σ α).inTime budget = true := by
  cases budget with
  | none => rfl
  | some b =>
    have ticks : (⟨0⟩ : Duration).ticks = 0 := rfl
    simp [inTime, ticks]

theorem Call.within_at_once (budget : Option Duration) (st st' : σ) (r : Except QueryError α) :
    (⟨st, ⟨0⟩, r, st'⟩ : Call σ α).within budget = (r, st') :=
  within_of_inTime (inTime_at_once budget st st' r)

def Call.delivers (budget : Option Duration) (c : Call σ (List Row)) : Bool :=
  c.inTime budget && match c.outcome with
    | .ok rows => !rows.isEmpty
    | .error _ => false

def Call.rows (c : Call σ (List Row)) : List Row :=
  match c.outcome with
  | .ok rows => rows
  | .error _ => []

theorem Call.within_of_delivers {budget : Option Duration} {c : Call σ (List Row)}
    (h : c.delivers budget = true) : c.within budget = (.ok c.rows, c.state) ∧ c.rows ≠ [] := by
  obtain ⟨inTime, found⟩ := Bool.and_eq_true_iff.mp h
  rw [within_of_inTime inTime]
  cases outcome : c.outcome with
  | error e => simp [outcome] at found
  | ok rows =>
    have shown : c.rows = rows := by simp only [Call.rows, outcome]
    rw [shown]
    exact ⟨rfl, by simpa [outcome] using found⟩

/-- A fetch that does not deliver fails, takes too long or finds no rows. -/
theorem Call.within_of_not_delivers {budget : Option Duration} {c : Call σ (List Row)}
    (h : c.delivers budget = false) :
    (∃ e, (c.within budget).1 = .error e) ∨ (c.within budget).1 = .ok [] := by
  cases inTime : c.inTime budget with
  | false =>
    obtain ⟨b, late⟩ := within_of_late inTime
    exact .inl ⟨_, congrArg Prod.fst late⟩
  | true =>
    rw [within_of_inTime inTime]
    cases outcome : c.outcome with
    | error e => exact .inl ⟨e, rfl⟩
    | ok rows => exact .inr (by simpa [delivers, inTime, outcome] using h)

/-! ### Records -/

/-- What reaches a handle. -/
inductive HandleCall where
  | execute (sql : String)
  | openCursor (sql : String)
  | fetch (size : Nat)
  | close
  | release
deriving DecidableEq, Repr

structure Recorded (σ : Type) where
  calls : List HandleCall
  state : σ

def Recorded.releases (st : Recorded σ) : Nat := st.calls.count .release

def Recorded.add (st : Recorded σ) (c : HandleCall) (state : σ) : Recorded σ := ⟨st.calls ++ [c], state⟩

/-- A call that also is in other states. -/
def Call.mapState (f : σ → τ) (c : Call σ α) : Call τ α := ⟨f c.waiting, c.delay, c.outcome, f c.state⟩

/-- A handle that records the calls on it, whether they are waited for or not. -/
def Handle.recorded (h : Handle σ κ) : Handle (Recorded σ) κ where
  dialect := h.dialect
  execute sql st := (h.execute sql st.state).mapState (st.add (.execute sql))
  openCursor sql st := (h.openCursor sql st.state).mapState (st.add (.openCursor sql))
  fetch cursor n st := (h.fetch cursor n st.state).mapState
    fun after => ⟨after.cursor, st.add (.fetch n) after.state⟩
  close cursor st := (h.close cursor st.state).mapState (st.add .close)
  release cursor st := st.add .release (h.release cursor st.state)

theorem Call.within_mapState (f : σ → τ) (budget : Option Duration) (c : Call σ α) :
    (c.mapState f).within budget = ((c.within budget).1, f (c.within budget).2) := by
  cases budget with
  | none => rfl
  | some b =>
    unfold within mapState
    by_cases late : b.ticks < c.delay.ticks
    · simp only [if_pos late]
    · simp only [if_neg late]

end Profiling
