import Profiling.Handle

/-!
# Scripted handles

An engine behind a script of delays and failures, with a journal of the calls that reach it. A call
is entered in the journal, waits, fails if the script says so, and then does its work.
-/

namespace Profiling

/-- Delays in milliseconds and failures by their reasons. Fetches are counted for each cursor. -/
structure Script where
  executeDelay : Nat := 0
  openDelay : Nat := 0
  closeDelay : Nat := 0
  fetchDelays : List Nat := []
  failExecute : Option String := none
  failOpen : Option String := none
  failClose : Option String := none
  failFetch : Option (Nat × String) := none

structure Journal where
  statements : List String := []
  fetchSizes : List Nat := []
  opened : Nat := 0
  closed : Nat := 0
  released : Nat := 0
deriving Repr

namespace Journal

def statement (j : Journal) (sql : String) : Journal :=
  { j with statements := j.statements ++ [sql] }

def fetched (j : Journal) (size : Nat) : Journal :=
  { j with fetchSizes := j.fetchSizes ++ [size] }

end Journal

structure Journaled (σ : Type) where
  journal : Journal
  state : σ

structure Counted (κ : Type) where
  cursor : κ
  fetches : Nat

namespace Script

/-- A call that waits in the state `waiting` and then works, unless it fails for a reason. -/
def call (waiting : σ) (delay : Nat) (failure : Option String)
    (work : Except QueryError α × σ) : Call σ α :=
  match failure with
  | some reason => ⟨waiting, .ofMillis delay, .error (.execution reason), waiting⟩
  | none => ⟨waiting, .ofMillis delay, work.1, work.2⟩

/-- The reason why fetch number `n` fails, if it does. -/
def fetchFailure (s : Script) (n : Nat) : Option String :=
  (s.failFetch.filter fun f => f.1 == n).map (·.2)

def handle (s : Script) (e : Engine σ κ) : Handle (Journaled σ) (Counted κ) where
  dialect := e.dialect
  execute sql st :=
    let waiting := { st with journal := st.journal.statement sql }
    let (r, inner) := e.execute sql st.state
    call waiting s.executeDelay s.failExecute (r, { waiting with state := inner })
  openCursor sql st :=
    let waiting := { st with journal := st.journal.statement sql }
    let (r, inner) := e.openCursor sql st.state
    let journal := match r with
      | .ok _ => { waiting.journal with opened := waiting.journal.opened + 1 }
      | .error _ => waiting.journal
    call waiting s.openDelay s.failOpen (r.map fun c => ⟨c, 0⟩, ⟨journal, inner⟩)
  fetch c n st :=
    let st := { st with journal := st.journal.fetched n }
    let (r, inner) := e.fetch c.cursor n
    call ⟨{ c with fetches := c.fetches + 1 }, st⟩ (s.fetchDelays.getD c.fetches 0)
      (s.fetchFailure c.fetches) (r, ⟨⟨inner, c.fetches + 1⟩, st⟩)
  close _ st :=
    let journal := { st.journal with closed := st.journal.closed + 1 }
    call st s.closeDelay s.failClose (.ok (), { st with journal })
  release _ st :=
    let journal := { st.journal with released := st.journal.released + 1 }
    { st with journal }

end Script

end Profiling
