import Profiling.Error
import Profiling.Row

/-!
# Handles

A handle runs the text of statements on some backend, at once or row by row through a cursor. What
it does is a function of its state. A call may wait; whoever made it may give it up meanwhile.
-/

namespace Profiling

/-- A call on a handle with states `σ`: the state in which it waits, how long, and what it comes
to if it is waited for. -/
structure Call (σ α : Type) where
  waiting : σ
  delay : Duration
  outcome : Except QueryError α
  state : σ

/-- Waits for a call no longer than the budget, if there is one. A call that takes more ticks of
the clock than the budget stays undone. -/
def Call.within (budget : Option Duration) (c : Call σ α) : Except QueryError α × σ :=
  match budget with
  | none => (c.outcome, c.state)
  | some b => if b.ticks < c.delay.ticks then (.error (.timeout b), c.waiting)
    else (c.outcome, c.state)

structure CursorState (σ κ : Type) where
  cursor : κ
  state : σ

structure Handle (σ κ : Type) where
  dialect : Dialect
  execute : String → σ → Call σ (List Row)
  openCursor : String → σ → Call σ κ
  /-- Up to a number of further rows; none if there are no more. -/
  fetch : κ → Nat → σ → Call (CursorState σ κ) (List Row)
  close : κ → σ → Call σ Unit
  release : κ → σ → σ

structure Engine (σ κ : Type) where
  dialect : Dialect
  execute : String → σ → Except QueryError (List Row) × σ
  openCursor : String → σ → Except QueryError κ × σ
  fetch : κ → Nat → Except QueryError (List Row) × κ

namespace Engine

def toHandle (e : Engine σ κ) : Handle σ κ where
  dialect := e.dialect
  execute sql st :=
    let (r, st') := e.execute sql st
    ⟨st, ⟨0⟩, r, st'⟩
  openCursor sql st :=
    let (r, st') := e.openCursor sql st
    ⟨st, ⟨0⟩, r, st'⟩
  fetch cursor n st :=
    let (r, cursor') := e.fetch cursor n
    ⟨⟨cursor, st⟩, ⟨0⟩, r, ⟨cursor', st⟩⟩
  close _ st := ⟨st, ⟨0⟩, .ok (), st⟩
  release _ st := st

/-- An engine that has the same rows for every statement. Its cursors are the rows to come. -/
def ofRows (dialect : Dialect) (rows : List Row) : Engine Unit (List Row) where
  dialect
  execute _ st := (.ok rows, st)
  openCursor _ st := (.ok rows, st)
  fetch rest n := (.ok (rest.take n), rest.drop n)

end Engine

end Profiling
