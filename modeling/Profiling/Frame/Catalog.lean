import Profiling.Frame.Evaluation
import Profiling.Frame.Grammar
import Profiling.Frame.Planning
import Profiling.Handle

/-!
# The in-memory engine

A registry holds frames by name, beside the tables that statements are planned over. A statement
that names the random column is planned over the frames with a fresh one each; behind it the frames
stand in the tables again as they were registered. A cursor plans its statement when it is opened,
evaluates the plan at the first fetch and pages through that one result.
-/

namespace Profiling.Frame

structure Library (π : Type) where
  scan : Frame → π
  /-- The plan of a statement, or `none` if planning fails, and the tables after that. -/
  plan : String → Tables π → Option π × Tables π
  collect? : π → Option Frame

structure Registry (π : Type) where
  tables : Tables π := fun _ => none
  frames : List (String × Frame) := []
  draw : Nat → Float
  drawn : Nat := 0

def contains (word : List Char) : List Char → Bool
  | [] => word.isEmpty
  | c :: rest => word.isPrefixOf (c :: rest) || contains word rest

/-- Whether a statement names the random column. -/
def namesRandom (sql : String) : Bool := contains randomColumn.toList sql.toList

/-- The random column of some rows, with the random numbers from the `start`-th on. -/
def randomSeries (draw : Nat → Float) (start count : Nat) : Series :=
  ⟨randomColumn, .float64, (List.range count).map fun i => .float (draw (start + i))⟩

/-- A value, or the error of the engine. -/
def orEngine : Option α → Except QueryError α
  | some a => .ok a
  | none => .error .engine

namespace Library

variable (lib : Library π)

/-- Adds a frame, in place of a table of the same name. -/
def register (r : Registry π) (name : String) (f : Frame) : Registry π :=
  { r with
    tables := r.tables.put name (lib.scan f)
    frames := (name, f) :: r.frames.filter (·.1 != name) }

/-- The tables with some frames in place of others of their names. -/
def scanAll (frames : List (String × Frame)) (t : Tables π) : Tables π :=
  frames.foldl (fun t e => t.put e.1 (lib.scan e.2)) t

/-- Puts each frame with a random column in its place among the tables, up to one that does not take
such a column. -/
def tagAll : List (String × Frame) → Registry π → Except QueryError Unit × Registry π
  | [], r => (.ok (), r)
  | (name, f) :: rest, r =>
    let drawn := r.drawn + f.height
    match f.withColumn? (randomSeries r.draw r.drawn f.height) with
    | none => (.error .engine, { r with drawn })
    | some tagged => tagAll rest { r with tables := r.tables.put name (lib.scan tagged), drawn }

def planIn (r : Registry π) (sql : String) : Except QueryError π × Registry π :=
  if namesRandom sql then
    match lib.tagAll r.frames r with
    | (.error e, r) => (.error e, r)
    | (.ok (), r) =>
      let (p, tables) := lib.plan sql r.tables
      (orEngine p, { r with tables := lib.scanAll r.frames tables })
  else
    let (p, tables) := lib.plan sql r.tables
    (orEngine p, { r with tables })

end Library

/-- The rows of a frame, without the random column. -/
def rows (f : Frame) : Except QueryError (List Row) := orEngine (f.toRows? randomColumn)

/-- A cursor before and after its plan is evaluated. -/
inductive PlanCursor (π : Type) where
  | planned (p : π)
  | paging (rest : Frame)

namespace PlanCursor

/-- The next rows of a frame, and the cursor behind them. -/
def page (f : Frame) (n : Nat) : Except QueryError (List Row) × PlanCursor π :=
  let batch := f.slice 0 (some n)
  (rows batch, paging (f.slice batch.height none))

/-- The next rows of a cursor. A plan that fails does so once, and has no rows then. -/
def fetch (lib : Library π) (cursor : PlanCursor π) (n : Nat) :
    Except QueryError (List Row) × PlanCursor π :=
  match cursor with
  | planned p =>
    match lib.collect? p with
    | some f => page f n
    | none => (.error .engine, paging ⟨[]⟩)
  | paging rest => page rest n

end PlanCursor

def Library.engine (lib : Library π) : Engine (Registry π) (PlanCursor π) where
  dialect := .polars
  execute sql r :=
    let (p, r) := lib.planIn r sql
    (p.bind (fun p => orEngine (lib.collect? p)) >>= rows, r)
  openCursor sql r :=
    let (p, r) := lib.planIn r sql
    (p.map .planned, r)
  fetch cursor n := cursor.fetch lib n

/-! ### The library of queries -/

/-- Plans the query of a text. Its derived tables stay among the tables, also if planning fails. -/
def Query.planText (sql : String) (tables : Tables (Option Plan)) :
    Option (Option Plan) × Tables (Option Plan) :=
  match Query.ofText? sql with
  | none => (none, tables)
  | some q =>
    let (p, scope) := (q.plan true).run.run { tables }
    (p, scope.tables)

/-- A statement can have no plan without failing; its plan then has no result. -/
def library : Library (Option Plan) where
  scan f := some (.frame f)
  plan := Query.planText
  collect? p := p.bind Plan.collect?

abbrev Catalog := Registry (Option Plan)

def Registry.register (c : Catalog) : String → Frame → Catalog := library.register c

def engine : Engine Catalog (PlanCursor (Option Plan)) := library.engine

end Profiling.Frame
