import Profiling.Sql.Select

/-!
# Parts of statements

Every expression in an expression and every select in a select, with the names they use, and the
inductions that go with them.
-/

namespace Profiling

namespace Expr

mutual

def parts : Expr → List Expr
  | call name args => call name args :: partsOf args
  | binary op a b => binary op a b :: (parts a ++ parts b)
  | all terms => all terms :: partsOf terms
  | any terms => any terms :: partsOf terms
  | not e => not e :: parts e
  | inList e items negated => inList e items negated :: (parts e ++ partsOf items)
  | between e low high => between e low high :: (parts e ++ (parts low ++ parts high))
  | isNull e negated => isNull e negated :: parts e
  | named e name => named e name :: parts e
  | e => [e]

def partsOf : List Expr → List Expr
  | [] => []
  | e :: es => parts e ++ partsOf es

end

/-- The column or the new name that an expression shows. -/
def ownName? : Expr → Option String
  | column name => some name
  | named _ name => some name
  | _ => none

def ownCall? : Expr → Option String
  | call name _ => some name
  | _ => none

def identifiers (e : Expr) : List String := e.parts.filterMap ownName?

def callees (e : Expr) : List String := e.parts.filterMap ownCall?

def children : Expr → List Expr
  | call _ args => args
  | binary _ a b => [a, b]
  | all terms | any terms => terms
  | not e => [e]
  | inList e items _ => e :: items
  | between e low high => [e, low, high]
  | isNull e _ => [e]
  | named e _ => [e]
  | _ => []

theorem partsOf_eq_flatMap (es : List Expr) : partsOf es = es.flatMap parts := by
  induction es with
  | nil => rfl
  | cons e es ih => simp [partsOf, ih]

theorem parts_eq (e : Expr) : e.parts = e :: e.children.flatMap parts := by
  cases e <;> simp [parts, children, partsOf_eq_flatMap]

/-- Induction over expressions, with lists of them by membership. -/
@[elab_as_elim]
theorem induct {motive : Expr → Prop}
    (column : ∀ name, motive (column name))
    (wildcard : motive wildcard)
    (literal : ∀ value, motive (literal value))
    (random : motive random)
    (call : ∀ name args, (∀ e ∈ args, motive e) → motive (call name args))
    (binary : ∀ op a b, motive a → motive b → motive (binary op a b))
    (all : ∀ terms, (∀ e ∈ terms, motive e) → motive (all terms))
    (any : ∀ terms, (∀ e ∈ terms, motive e) → motive (any terms))
    (not : ∀ e, motive e → motive (not e))
    (inList : ∀ e items negated, motive e → (∀ x ∈ items, motive x) →
      motive (inList e items negated))
    (between : ∀ e low high, motive e → motive low → motive high → motive (between e low high))
    (isNull : ∀ e negated, motive e → motive (isNull e negated))
    (named : ∀ e name, motive e → motive (named e name)) (e : Expr) : motive e :=
  @Expr.rec motive (fun es => ∀ e ∈ es, motive e) column wildcard literal random call binary all any
    not inList between isNull named (by simp) (fun _ _ he hes => List.forall_mem_cons.mpr ⟨he, hes⟩) e

/-! ### Names -/

/-- Whether all quoted names in an expression meet one condition, and all functions that it calls
another. -/
def NamesMeet (name callee : String → Prop) (e : Expr) : Prop :=
  (∀ n ∈ e.identifiers, name n) ∧ ∀ n ∈ e.callees, callee n

/-- Whether the name that an expression shows meets a condition, and the function that it calls
another. -/
def OwnNamesMeet (name callee : String → Prop) (e : Expr) : Prop :=
  (∀ n, e.ownName? = some n → name n) ∧ ∀ n, e.ownCall? = some n → callee n

theorem namesMeet_iff_parts {name callee : String → Prop} {e : Expr} :
    NamesMeet name callee e ↔ ∀ x ∈ e.parts, OwnNamesMeet name callee x := by
  simp only [NamesMeet, identifiers, callees, List.mem_filterMap]
  constructor
  · rintro ⟨names, calls⟩ x member
    exact ⟨fun n own => names n ⟨x, member, own⟩, fun n own => calls n ⟨x, member, own⟩⟩
  · intro h
    exact ⟨fun n ⟨x, member, own⟩ => (h x member).1 n own, fun n ⟨x, member, own⟩ => (h x member).2 n own⟩

/-- The names in an expression are its own and those in its children. -/
theorem namesMeet_iff_children {name callee : String → Prop} {e : Expr} :
    NamesMeet name callee e ↔ OwnNamesMeet name callee e ∧ ∀ c ∈ e.children, NamesMeet name callee c := by
  simp only [namesMeet_iff_parts, parts_eq e, List.forall_mem_cons, List.mem_flatMap]
  constructor
  · rintro ⟨own, inside⟩
    exact ⟨own, fun c hc x hx => inside x ⟨c, hc, hx⟩⟩
  · rintro ⟨own, inside⟩
    exact ⟨own, fun x ⟨c, hc, hx⟩ => inside c hc x hx⟩

theorem NamesMeet.own {name callee : String → Prop} {e : Expr} (h : NamesMeet name callee e) :
    OwnNamesMeet name callee e := (namesMeet_iff_children.mp h).1

theorem NamesMeet.inside {name callee : String → Prop} {e c : Expr} (h : NamesMeet name callee e)
    (member : c ∈ e.children) : NamesMeet name callee c := (namesMeet_iff_children.mp h).2 c member

end Expr

namespace Select

/-- The expressions that a select itself is written with. -/
def ownExprs (q : Select) : List Expr :=
  q.projection ++ q.selection.toList ++ q.groupBy ++ q.orderBy.map OrderBy.expr

mutual

def parts : Select → List Select
  | ⟨ctes, projection, source, selection, groupBy, orderBy, limit⟩ =>
    ⟨ctes, projection, source, selection, groupBy, orderBy, limit⟩ :: partsOfCtes ctes

def partsOfCte : Cte → List Select
  | ⟨_, query⟩ => parts query

def partsOfCtes : List Cte → List Select
  | [] => []
  | c :: cs => partsOfCte c ++ partsOfCtes cs

end

theorem partsOfCtes_eq_flatMap (cs : List Cte) : partsOfCtes cs = cs.flatMap fun c => c.query.parts := by
  induction cs with
  | nil => rfl
  | cons c cs ih => rw [partsOfCtes, ih, List.flatMap_cons]; cases c; rfl

theorem parts_eq (q : Select) : q.parts = q :: q.ctes.flatMap fun c => c.query.parts := by
  cases q
  rw [parts, partsOfCtes_eq_flatMap]

/-- Induction over selects by their common table expressions. -/
@[elab_as_elim]
theorem induct {motive : Select → Prop} (step : ∀ q, (∀ c ∈ q.ctes, motive c.query) → motive q) (q : Select) :
    motive q :=
  @Select.rec motive (fun c => motive c.query) (fun cs => ∀ c ∈ cs, motive c.query)
    (fun ctes projection source selection groupBy orderBy limit ih =>
      step ⟨ctes, projection, source, selection, groupBy, orderBy, limit⟩ ih)
    (fun _ _ ih => ih) (by simp) (fun _ _ hc hcs => List.forall_mem_cons.mpr ⟨hc, hcs⟩) q

end Select

end Profiling
