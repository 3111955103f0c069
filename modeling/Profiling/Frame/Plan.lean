import Profiling.Frame.Term

/-!
# Plans

A plan is what a query does with the rows of frames, with every name resolved, so what it gives
does not depend on anything else. Its operations are built by the functions `filter?`, `select?`
and so on, which give no plan where terms make no sense over its columns.
-/

namespace Profiling.Frame

structure Projection where
  name : String
  /-- Whether the query gives the name, so that it belongs to no column that is read. -/
  isLabelled : Bool
  type : CellType
  formula : Formula

inductive Plan where
  | frame (f : Frame)
  | filter (condition : Formula) (input : Plan)
  /-- Columns of one height, those of one cell being repeated. -/
  | select (columns : List Projection) (input : Plan)
  /-- The columns of the input, and further ones beside them or in place of those of their names. -/
  | extend (columns : List Projection) (input : Plan)
  /-- Each key with whether it ascends. -/
  | sort (keys : List (Formula × Bool)) (input : Plan)
  /-- One row for each group of rows: its keys, and columns that have one value on the group. -/
  | group (keys columns : List Projection) (input : Plan)
  | slice (offset : Nat) (count : Option Nat) (input : Plan)

structure Selected where
  term : Term
  label : Option String := none

namespace Selected

def name (s : Selected) : String := s.label.getD s.term.name

def projection? (h : Header) (s : Selected) : Option Projection := do
  let r ← s.term.resolve? h
  return ⟨s.name, s.label.isSome, ← r.type, r.formula⟩

/-- The selected terms that one stands for. -/
def expand? (h : Header) (s : Selected) : Option (List Selected) := do
  return (← s.term.expand? (h.map (·.1))).map fun t => ⟨t, s.label⟩

def projections? (h : Header) (items : List Selected) : Option (List Projection) := do
  (← items.mapM (expand? h)).flatten.mapM (projection? h)

end Selected

namespace Projection

/-- The column that is read as it is, if that is all, whatever it is called then. -/
def source? (c : Projection) : Option String :=
  match c.formula with
  | .column n => some n
  | _ => none

/-- The columns with one of each name. A name that is used twice fails. -/
def distinct : List Projection → List Projection
  | [] => []
  | c :: rest =>
    let others := (distinct rest).filter (·.name != c.name)
    (if rest.any (·.name == c.name) then { c with formula := .failure } else c) :: others

def header (columns : List Projection) : Header := columns.map fun c => (c.name, c.type)

end Projection

/-- A header with further columns, in place of those of their names. -/
def Header.extend (h added : Header) : Header :=
  h.map (fun c => (c.1, (added.lookup c.1).getD c.2)) ++ added.filter fun a => !h.any (·.1 == a.1)

namespace Plan

def header : Plan → Header
  | frame f => f.header
  | filter _ p | sort _ p | slice _ _ p => header p
  | select columns _ => Projection.header columns
  | extend columns p => Header.extend (header p) (Projection.header columns)
  | group keys columns _ => Projection.header (keys ++ columns)

def names (p : Plan) : List String := p.header.map (·.1)

/-- The rows on which a term is true. All its columns have to be there. -/
def filter? (t : Term) (p : Plan) : Option Plan := do
  match ← t.expand? p.names with
  | [t] =>
    if t.columns.all p.names.contains then do
      let r ← t.resolve? p.header
      return .filter (if r.type = some .boolean then r.formula else .failure) p
    else none
  | _ => none

def select? (items : List Selected) (p : Plan) : Option Plan := do
  return .select (Projection.distinct (← Selected.projections? p.header items)) p

/-- The selected columns beside those that are there, each name once at most. -/
def extend? (items : List Selected) (p : Plan) : Option Plan := do
  let columns ← Selected.projections? p.header items
  if allDistinct (columns.map (·.name)) then return .extend columns p else none

def drop (names : List String) (p : Plan) : Plan :=
  .select ((p.header.filter fun c => !names.contains c.1).map
    fun (n, type) => ⟨n, false, type, .column n⟩) p

def sort? (keys : List (Term × Bool)) (p : Plan) : Option Plan := do
  let keys ← keys.mapM fun (t, ascending) => do
    (← t.expand? p.names).mapM fun t => do return ((← t.resolve? p.header).formula, ascending)
  return .sort keys.flatten p

/-- One row for each group of rows with equal keys; `none` inside if the columns make no sense
there. A selected term of the name of a key is evaluated on the rows of the groups, and so is a
column with a label; any other is evaluated on each group. -/
def group? (keys items : List Selected) (p : Plan) : Option (Option Plan) := do
  let keys ← keys.mapM (Selected.projection? p.header)
  let fields ← items.mapM (Selected.projection? p.header)
  let isKey (n : String) : Bool := keys.any (·.name == n)
  let isRenamed (s : Selected) : Bool := match s with
    | ⟨.column _, some _⟩ => true
    | _ => false
  let grouped := (items.map fun s => if isRenamed s then ⟨s.term, none⟩ else s).filter
    fun s => !isKey s.name
  let names := (fields.map (·.name)).eraseDups
  let results := (names.zip items).map fun (n, s) =>
    if isKey n || isRenamed s then s else ⟨.column n, none⟩
  return do
    let columns ← Selected.projections? p.header grouped
    if allDistinct ((keys ++ columns).map (·.name)) then
      (Plan.group keys columns p).select? results
    else none

end Plan

end Profiling.Frame
