import Profiling.Frame.Catalog

/-!
# Tables under planning

Planning a statement adds its derived tables to the tables that there are, and changes no other.
-/

namespace Profiling.Frame

/-! ### Plans that keep a table -/

namespace Planner

variable {α β : Type} {name : String}

/-- Whether a plan leaves the table of a name as it is, also where it fails. -/
def Keeps (name : String) (x : Planner α) : Prop := ∀ s, (x.run.run s).2.tables name = s.tables name

theorem keeps_pure (a : α) : Keeps name (pure a : Planner α) := fun _ => rfl

theorem keeps_get : Keeps name (get : Planner Scope) := fun _ => rfl

theorem keeps_modify {f : Scope → Scope} (same : ∀ s, (f s).tables name = s.tables name) :
    Keeps name (modify f : Planner PUnit) := same

theorem keeps_bind {x : Planner α} {f : α → Planner β} (first : Keeps name x) (next : ∀ a, Keeps name (f a)) :
    Keeps name (x >>= f) := by
  intro s
  have kept := first s
  rw [OptionT.run_bind, Option.elimM, StateT.run_bind]
  cases ran : x.run.run s with
  | mk a? after =>
    rw [ran] at kept
    cases a? with
    | none => exact kept
    | some a => exact (next a after).trans kept

theorem keeps_ask (a : Option α) : Keeps name (ask a) := fun _ => rfl

/-- Where there is no value, a plan goes on no further. -/
theorem keeps_ask_bind {a? : Option α} {f : α → Planner β} (next : ∀ a, a? = some a → Keeps name (f a)) :
    Keeps name (ask a? >>= f) := by
  cases a? with
  | none => exact fun _ => rfl
  | some a => exact next a rfl

end Planner

/-! ### Names of derived tables -/

mutual

def Query.derivedNames : Query → List String
  | ⟨ctes, body, _, _, _⟩ => NamedQuery.derivedNamesAll ctes ++ body.derivedNames

def NamedQuery.derivedNamesAll : List NamedQuery → List String
  | [] => []
  | c :: rest => c.derivedNames ++ NamedQuery.derivedNamesAll rest

def NamedQuery.derivedNames : NamedQuery → List String
  | ⟨_, query⟩ => query.derivedNames

def Body.derivedNames : Body → List String
  | .select _ source _ _ => source.derivedNames
  | .nested query => query.derivedNames

def Source.derivedNames : Source → List String
  | .named .. => []
  | .derived query label => label.toList ++ query.derivedNames

end

/-! ### Planning -/

variable {name : String}

open Planner

mutual

/-- Planning a query leaves every table as it is that is not one of its derived tables. -/
theorem Query.plan_keeps (named : Bool) :
    (q : Query) → name ∉ q.derivedNames → Keeps name (q.plan named)
  | ⟨ctes, body, orderBy, limit, offset⟩, other => by
    simp only [Query.derivedNames, List.mem_append, not_or] at other
    obtain ⟨otherCtes, otherBody⟩ := other
    have planned := Body.plan_keeps orderBy body otherBody
    unfold Query.plan
    cases named with
    | false =>
      exact keeps_bind planned fun _ => keeps_bind (keeps_ask _) fun _ => keeps_pure _
    | true =>
      exact keeps_bind (NamedQuery.planAll_keeps ctes otherCtes) fun _ =>
        keeps_bind planned fun _ => keeps_bind (keeps_ask _) fun _ => keeps_pure _

theorem NamedQuery.planAll_keeps : (ctes : List NamedQuery) → name ∉ NamedQuery.derivedNamesAll ctes →
    Keeps name (NamedQuery.planAll ctes)
  | [], _ => keeps_pure ()
  | c :: rest, other => by
    simp only [NamedQuery.derivedNamesAll, List.mem_append, not_or] at other
    exact keeps_bind (NamedQuery.plan_keeps c other.1) fun _ => NamedQuery.planAll_keeps rest other.2

theorem NamedQuery.plan_keeps : (c : NamedQuery) → name ∉ c.derivedNames → Keeps name c.plan
  | ⟨_, query⟩, other =>
    keeps_bind (Query.plan_keeps true query other) fun _ => keeps_modify fun _ => rfl

theorem Body.plan_keeps (orderBy : List SortKey) :
    (b : Body) → name ∉ b.derivedNames → Keeps name (b.plan orderBy)
  | .select _ source _ _, other =>
    keeps_bind (Source.plan_keeps source other) fun _ => keeps_bind (keeps_ask _) fun _ =>
      keeps_bind keeps_get fun _ => keeps_ask _
  | .nested query, other => Query.plan_keeps true query other

theorem Source.plan_keeps : (s : Source) → name ∉ s.derivedNames → Keeps name s.plan
  | .named n label, _ => by
    refine keeps_bind keeps_get fun scope => keeps_bind (keeps_ask _) fun p => ?_
    cases label with
    | none => exact keeps_pure p
    | some label => exact keeps_bind (keeps_modify fun _ => rfl) fun _ => keeps_pure p
  | .derived query label, other => by
    simp only [Source.derivedNames, List.mem_append, Option.mem_toList, not_or] at other
    obtain ⟨otherLabel, otherQuery⟩ := other
    refine keeps_ask_bind fun l isLabel => keeps_bind (Query.plan_keeps false query otherQuery) fun p => ?_
    -- The one place where a table is added.
    have differs : name ≠ l := fun same => otherLabel (same ▸ isLabel)
    exact keeps_bind (keeps_modify fun _ => if_neg differs) fun _ => keeps_pure p

end

theorem Query.planText_keeps {sql : String} (other : ∀ q, Query.ofText? sql = some q → name ∉ q.derivedNames)
    (t : Tables (Option Plan)) : (Query.planText sql t).2 name = t name := by
  unfold Query.planText
  cases read : Query.ofText? sql with
  | none => rfl
  | some q => exact Query.plan_keeps true q (other q read) { tables := t }

end Profiling.Frame
