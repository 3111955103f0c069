import Profiling.Proofs.Sql.Meaning

/-!
# The rows of statements

A statement as a relation, in the list semantics of SQL: WHERE keeps the rows where its condition
is true, ORDER BY sorts them, LIMIT takes the first ones, and the name of a common table expression
stands for the rows of its query. Groups have no rows of their own here.
-/

namespace Profiling

structure Tuple (V K : Type) where
  values : List V
  draw : K
deriving DecidableEq

structure Relation (V K : Type) where
  columns : List String
  tuples : List (Tuple V K)
  aligned : ∀ t ∈ tuples, t.values.length = columns.length

/-- What a database makes of statements: besides the values of expressions, the rows of its tables
and their order. -/
structure Database (V K : Type) extends Interpretation V where
  number : K → V
  /-- All of a row as a value. -/
  record : List V → V
  label : Expr → String
  precedes : V → V → Bool
  precedes_trans : ∀ {a b c}, precedes a b = true → precedes b c = true → precedes a c = true
  precedes_total : ∀ a b, precedes a b = true ∨ precedes b a = true
  table : TableRef → Relation V K
  /-- Whether a sampling clause leaves the row at a place of a table. -/
  leaves : TableRef → TableSample → Nat → Bool
  subquery : String → Relation V K

variable {V K : Type} (db : Database V K)

namespace Database

/-- What expressions see of a row under a header; of columns of one name they see the first. -/
def view (columns : List String) (t : Tuple V K) : RowView V where
  cell name := ((columns.zip t.values).lookup name).getD (db.literal .null)
  whole := db.record t.values
  random := db.number t.draw

/-! ### Order -/

def keyPrecedes (o : OrderBy) (a b : RowView V) : Bool :=
  let x := o.expr.value db.toInterpretation a
  let y := o.expr.value db.toInterpretation b
  if o.ascending then db.precedes x y else db.precedes y x

/-- The order of several keys, of which each decides where those in front of it do not. -/
def rowPrecedes : List OrderBy → RowView V → RowView V → Bool
  | [], _, _ => true
  | o :: os, a, b => db.keyPrecedes o a b && (!db.keyPrecedes o b a || rowPrecedes os a b)

theorem keyPrecedes_trans {o : OrderBy} {a b c : RowView V} (ab : db.keyPrecedes o a b = true)
    (bc : db.keyPrecedes o b c = true) : db.keyPrecedes o a c = true := by
  unfold keyPrecedes at ab bc ⊢
  cases up : o.ascending with
  | true =>
    simp only [up, if_true] at ab bc ⊢
    exact db.precedes_trans ab bc
  | false =>
    simp only [up, Bool.false_eq_true, if_false] at ab bc ⊢
    exact db.precedes_trans bc ab

theorem keyPrecedes_total (o : OrderBy) (a b : RowView V) :
    db.keyPrecedes o a b = true ∨ db.keyPrecedes o b a = true := by
  unfold keyPrecedes
  cases o.ascending with
  | true => exact db.precedes_total _ _
  | false => exact db.precedes_total _ _

theorem rowPrecedes_cons {o : OrderBy} {os : List OrderBy} {a b : RowView V} :
    db.rowPrecedes (o :: os) a b = true ↔
      db.keyPrecedes o a b = true ∧ (db.keyPrecedes o b a = true → db.rowPrecedes os a b = true) := by
  rw [rowPrecedes, Bool.and_eq_true, Bool.or_eq_true, Bool.not_eq_true']
  cases db.keyPrecedes o b a <;> simp

theorem rowPrecedes_trans {os : List OrderBy} {a b c : RowView V} (ab : db.rowPrecedes os a b = true)
    (bc : db.rowPrecedes os b c = true) : db.rowPrecedes os a c = true := by
  induction os with
  | nil => rfl
  | cons o os ih =>
    rw [rowPrecedes_cons] at ab bc ⊢
    -- Where the first key does not tell the outer rows apart, it does not tell the middle one either.
    refine ⟨db.keyPrecedes_trans ab.1 bc.1, fun ca => ?_⟩
    have ba := db.keyPrecedes_trans bc.1 ca
    have cb := db.keyPrecedes_trans ca ab.1
    exact ih (ab.2 ba) (bc.2 cb)

theorem rowPrecedes_total (os : List OrderBy) (a b : RowView V) :
    db.rowPrecedes os a b = true ∨ db.rowPrecedes os b a = true := by
  induction os with
  | nil => exact .inl rfl
  | cons o os ih =>
    rw [rowPrecedes_cons, rowPrecedes_cons]
    by_cases ab : db.keyPrecedes o a b = true
    · by_cases ba : db.keyPrecedes o b a = true
      · exact ih.imp (fun rest => ⟨ab, fun _ => rest⟩) fun rest => ⟨ba, fun _ => rest⟩
      · exact .inl ⟨ab, fun h => absurd h ba⟩
    · exact .inr ⟨(db.keyPrecedes_total o a b).resolve_left ab, fun h => absurd h ab⟩

end Database

/-! ### Projections -/

namespace Expr

def shownColumns (columns : List String) : Expr → List String
  | wildcard => columns
  | e => [e.ownName?.getD (db.label e)]

def shownValues (columns : List String) (t : Tuple V K) : Expr → List V
  | wildcard => t.values
  | e => [e.value db.toInterpretation (db.view columns t)]

theorem length_shownValues {columns : List String} {t : Tuple V K} (aligned : t.values.length = columns.length)
    (e : Expr) : (e.shownValues db columns t).length = (e.shownColumns db columns).length := by
  cases e with
  | wildcard => exact aligned
  | _ => rfl

end Expr

namespace Select

def items (q : Select) : List Expr := if q.projection.isEmpty then [.wildcard] else q.projection

def shownColumns (q : Select) (columns : List String) : List String :=
  q.items.flatMap (Expr.shownColumns db columns)

def shown (q : Select) (columns : List String) (t : Tuple V K) : Tuple V K :=
  ⟨q.items.flatMap (Expr.shownValues db columns t), t.draw⟩

theorem length_shown (q : Select) {columns : List String} {t : Tuple V K}
    (aligned : t.values.length = columns.length) :
    (q.shown db columns t).values.length = (q.shownColumns db columns).length := by
  unfold shown shownColumns
  rw [List.length_flatMap, List.length_flatMap]
  exact congrArg _ (List.map_congr_left fun e _ => e.length_shownValues db aligned)

/-! ### Rows -/

instance (q : Select) (db : Interpretation V) (row : RowView V) : Decidable (q.Selects db row) :=
  inferInstanceAs (Decidable (∀ e ∈ q.selection, e.Holds db row))

/-- What the keys of an order see of a row: what the statement shows of it, and behind that the row. -/
def keyView (q : Select) (columns : List String) (t : Tuple V K) : RowView V :=
  db.view (q.shownColumns db columns ++ columns) ⟨(q.shown db columns t).values ++ t.values, t.draw⟩

def selected (q : Select) (r : Relation V K) : List (Tuple V K) :=
  r.tuples.filter fun t => q.Selects db.toInterpretation (db.view r.columns t)

def sorted (q : Select) (r : Relation V K) : List (Tuple V K) :=
  (q.selected db r).mergeSort fun a b =>
    db.rowPrecedes q.orderBy (q.keyView db r.columns a) (q.keyView db r.columns b)

def kept (q : Select) (r : Relation V K) : List (Tuple V K) :=
  match q.limit with
  | some n => (q.sorted db r).take n
  | none => q.sorted db r

theorem sorted_perm (q : Select) (r : Relation V K) : (q.sorted db r).Perm (q.selected db r) :=
  List.mergeSort_perm _ _

theorem pairwise_sorted (q : Select) (r : Relation V K) :
    (q.sorted db r).Pairwise fun a b =>
      db.rowPrecedes q.orderBy (q.keyView db r.columns a) (q.keyView db r.columns b) = true := by
  apply List.pairwise_mergeSort
  · intro a b c
    exact db.rowPrecedes_trans
  · intro a b
    rw [Bool.or_eq_true]
    exact db.rowPrecedes_total _ _ _

theorem kept_of_unordered {q : Select} (unordered : q.orderBy = []) (unlimited : q.limit = none)
    (r : Relation V K) : q.kept db r = q.selected db r := by
  unfold kept
  rw [unlimited]
  -- Without keys every order is in order, and the sort is stable.
  apply List.mergeSort_of_pairwise
  rw [unordered]
  exact List.pairwise_of_forall fun _ _ => rfl

/-- A limit takes as many rows as it can, and leaves none that should stand in front of one of them. -/
theorem kept_of_limit {q : Select} {n : Nat} (limited : q.limit = some n) (r : Relation V K) :
    (q.kept db r).length = min n (q.selected db r).length ∧
      ∃ others, (q.kept db r ++ others).Perm (q.selected db r) ∧ ∀ a ∈ q.kept db r, ∀ b ∈ others,
        db.rowPrecedes q.orderBy (q.keyView db r.columns a) (q.keyView db r.columns b) = true := by
  have kept : q.kept db r = (q.sorted db r).take n := by
    unfold kept
    rw [limited]
  have split : (q.sorted db r).take n ++ (q.sorted db r).drop n = q.sorted db r := List.take_append_drop _ _
  have inOrder := q.pairwise_sorted db r
  rw [← split] at inOrder
  obtain ⟨-, -, across⟩ := List.pairwise_append.mp inOrder
  rw [kept]
  refine ⟨?_, (q.sorted db r).drop n, ?_, across⟩
  · rw [List.length_take, (q.sorted_perm db r).length_eq]
  · rw [split]
    exact q.sorted_perm db r

theorem mem_of_mem_kept {q : Select} {r : Relation V K} {t : Tuple V K} (member : t ∈ q.kept db r) :
    t ∈ r.tuples := by
  have inSorted : t ∈ q.sorted db r := by
    unfold kept at member
    split at member
    · exact List.mem_of_mem_take member
    · exact member
  exact (List.mem_filter.mp ((q.sorted_perm db r).mem_iff.mp inSorted)).1

def rows (q : Select) (r : Relation V K) : Relation V K where
  columns := q.shownColumns db r.columns
  tuples := (q.kept db r).map (q.shown db r.columns)
  aligned := by
    intro t member
    obtain ⟨t, keep, rfl⟩ := List.mem_map.mp member
    exact q.length_shown db (r.aligned t (mem_of_mem_kept db keep))

theorem tuples_rows (q : Select) (r : Relation V K) :
    (q.rows db r).tuples = (q.kept db r).map (q.shown db r.columns) := rfl

end Select

/-! ### Statements -/

def Database.sampled (ref : TableRef) (clause : TableSample) : Relation V K where
  columns := (db.table ref).columns
  tuples := ((db.table ref).tuples.zipIdx.filter fun t => db.leaves ref clause t.2).map Prod.fst
  aligned := by
    intro t member
    obtain ⟨⟨t, place⟩, left, rfl⟩ := List.mem_map.mp member
    have inTable := List.fst_mem_of_mem_zipIdx (List.mem_filter.mp left).1
    exact (db.table ref).aligned t inTable

/-- What common table expressions have been read so far, the last one first. -/
abbrev Scope (V K : Type) := List (String × Relation V K)

def FromItem.relation? (scope : Scope V K) : FromItem → Option (Relation V K)
  | table ref none => some (db.table ref)
  | table ref (some clause) => some (db.sampled ref clause)
  | cte name => scope.lookup name
  | subquery sql _ => some (db.subquery sql)

mutual

def Select.relation? (scope : Scope V K) : Select → Option (Relation V K)
  | ⟨ctes, projection, source, selection, groupBy, orderBy, limit⟩ => do
    let scope ← Cte.scope? scope ctes
    let read ← (← source).relation? db scope
    if groupBy.isEmpty then
      some (Select.rows db ⟨[], projection, source, selection, [], orderBy, limit⟩ read)
    else none

def Cte.scope? (scope : Scope V K) : List Cte → Option (Scope V K)
  | [] => some scope
  | ⟨name, query⟩ :: rest => do
    let read ← Select.relation? scope query
    Cte.scope? ((name, read) :: scope) rest

end

theorem Cte.scope?_cons {scope : Scope V K} {c : Cte} {read : Relation V K}
    (found : c.query.relation? db scope = some read) (rest : List Cte) :
    Cte.scope? db scope (c :: rest) = Cte.scope? db ((c.name, read) :: scope) rest := by
  obtain ⟨name, query⟩ := c
  rw [Cte.scope?, found]
  rfl

theorem Select.relation?_of_source {q : Select} {scope : Scope V K} {source : FromItem} {read : Relation V K}
    (ctes : q.ctes = []) (groups : q.groupBy = []) (reads : q.source = some source)
    (found : source.relation? db scope = some read) : q.relation? db scope = some (q.rows db read) := by
  obtain ⟨_, projection, _, selection, _, orderBy, limit⟩ := q
  subst ctes groups reads
  rw [relation?, Cte.scope?]
  simp only [Option.bind_eq_bind, Option.bind_some, found]
  rfl

end Profiling
