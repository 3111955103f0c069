import Profiling.Handle

/-!
# Batch streams

A stream gives the rows of a cursor in batches. It ends with the first empty fetch, failed fetch or
fetch that takes too long, and has no cursor from then on.
-/

namespace Profiling

def defaultBatchSize : Nat := 1000

structure BatchStream (κ : Type) where
  cursor : Option κ
  batchSize : Nat
  timeout : Option Duration
  rowsFetched : Nat

namespace BatchStream

def start (cursor : κ) (batchSize : Nat) (timeout : Option Duration) : BatchStream κ :=
  ⟨some cursor, batchSize, timeout, 0⟩

def isFinished (s : BatchStream κ) : Bool := s.cursor.isNone

def ended (s : BatchStream κ) : BatchStream κ := { s with cursor := none }

/-- Closes the cursor, if there is one, and releases it whether that succeeds or not. -/
def close (h : Handle σ κ) (s : BatchStream κ) (st : σ) : Except QueryError Unit × σ :=
  match s.cursor with
  | none => (.ok (), st)
  | some cursor =>
    let (r, st) := (h.close cursor st).within s.timeout
    (r, h.release cursor st)

/-- Releases the cursor, if there is one, without closing it. -/
def drop (h : Handle σ κ) (s : BatchStream κ) (st : σ) : σ :=
  match s.cursor with
  | none => st
  | some cursor => h.release cursor st

/-- The next batch; `none` at the end, where the cursor is closed. -/
def nextBatch (h : Handle σ κ) (s : BatchStream κ) (st : σ) :
    Except QueryError (Option (List Row)) × BatchStream κ × σ :=
  match s.cursor with
  | none => (.ok none, s, st)
  | some cursor =>
    let (r, after) := (h.fetch cursor s.batchSize st).within s.timeout
    let s := { s with cursor := some after.cursor }
    match r with
    | .error e => (.error e, s.ended, s.drop h after.state)
    | .ok [] =>
      let (r, st) := s.close h after.state
      (r.map fun _ => none, s.ended, st)
    | .ok rows => (.ok (some rows), { s with rowsFetched := s.rowsFetched + rows.length }, after.state)

/-- The sizes of the batches up to the end, `fuel` of them at most, or the error that ends the
stream. -/
def drain (h : Handle σ κ) : (fuel : Nat) → BatchStream κ → σ →
    Except QueryError (List Nat) × BatchStream κ × σ
  | 0, s, st => (.ok [], s, st)
  | fuel + 1, s, st =>
    match s.nextBatch h st with
    | (.error e, s, st) => (.error e, s, st)
    | (.ok none, s, st) => (.ok [], s, st)
    | (.ok (some rows), s, st) =>
      let (r, s, st) := drain h fuel s st
      (r.map (rows.length :: ·), s, st)

end BatchStream

end Profiling
