import Mathlib.Data.List.Nodup
import Profiling.Row

/-!
# Two views of a row

Looked up by a name, a row shows its first column of that name, and the object of the row shows the
last one. Both know the same names, and they agree on every row of a result exactly if no two of its
columns share a name.
-/

namespace Profiling

/-! ### Members of objects -/

namespace Json

def member? : Json → String → Option Json
  | .obj members, name => members.lookup name
  | _, _ => none

theorem lookup_cons (key name : String) (value : Json) (members : List (String × Json)) :
    ((name, value) :: members).lookup key = if key = name then some value else members.lookup key := by
  rw [List.lookup_cons]
  by_cases same : key = name
  · rw [if_pos same, beq_iff_eq.mpr same]
  · rw [if_neg same, beq_false_of_ne same]

theorem lookup_insert (name : String) (value : Json) (members : List (String × Json)) (key : String) :
    (insert name value members).lookup key = if key = name then some value else members.lookup key := by
  induction members with
  | nil => exact lookup_cons key name value []
  | cons m members ih =>
    obtain ⟨n, v⟩ := m
    rw [insert, lookup_cons]
    split
    · next here =>
      subst here
      rw [lookup_cons]
      split <;> rfl
    · next other =>
      split
      · rw [lookup_cons, lookup_cons]
      · rw [lookup_cons, ih]
        by_cases first : key = n
        · have differs : key ≠ name := fun same => other (same.symm.trans first)
          rw [if_pos first, if_neg differs, if_pos first]
        · rw [if_neg first, if_neg first]

theorem lookup_foldl_insert (members acc : List (String × Json)) (key : String) :
    (members.foldl (fun acc m => insert m.1 m.2 acc) acc).lookup key =
      (members.reverse.lookup key).or (acc.lookup key) := by
  induction members generalizing acc with
  | nil => rfl
  | cons m members ih =>
    have last : ([m] ++ acc).lookup key = ([m].lookup key).or (acc.lookup key) := List.lookup_append
    rw [List.singleton_append] at last
    rw [List.foldl_cons, ih, lookup_insert, ← lookup_cons, last, List.reverse_cons, List.lookup_append,
      Option.or_assoc]

/-- Of the members of one name, the last one counts. -/
theorem member?_ofMembers (members : List (String × Json)) (name : String) :
    (ofMembers members).member? name = members.reverse.lookup name := by
  show (members.foldl (fun acc m => insert m.1 m.2 acc) []).lookup name = _
  rw [lookup_foldl_insert, List.lookup_nil, Option.or_none]

end Json

namespace Row

/-! ### The columns of a name -/

def valuesOf (r : Row) (name : String) : List Json :=
  (r.columns.zip r.values).filterMap fun p => if name == p.1 then some p.2 else none

variable {columns : List String} {values : List Json}

theorem valuesOf_cons (c : String) (columns : List String) (v : Json) (values : List Json) (name : String) :
    (Row.mk (c :: columns) (v :: values)).valuesOf name =
      (if name = c then [v] else []) ++ (Row.mk columns values).valuesOf name := by
  unfold valuesOf
  rw [List.zip_cons_cons, List.filterMap_cons]
  by_cases same : name = c <;> simp [same]

theorem valuesOf_append {columns' : List String} {values' : List Json} (aligned : columns.length = values.length)
    (name : String) : (Row.mk (columns ++ columns') (values ++ values')).valuesOf name =
      (Row.mk columns values).valuesOf name ++ (Row.mk columns' values').valuesOf name := by
  unfold valuesOf
  rw [List.zip_append aligned, List.filterMap_append]

theorem lookup_zip (r : Row) (name : String) : (r.columns.zip r.values).lookup name = (r.valuesOf name).head? := by
  rw [valuesOf, List.head?_filterMap, List.lookup_eq_findSome?]

theorem lookup_zip_reverse (r : Row) (name : String) :
    (r.columns.zip r.values).reverse.lookup name = (r.valuesOf name).getLast? := by
  rw [valuesOf, List.getLast?_eq_head?_reverse, ← List.filterMap_reverse, List.head?_filterMap,
    List.lookup_eq_findSome?]

/-- Looked up by its name, a column is the first of that name. -/
theorem get?_eq_head? (r : Row) (name : String) : r.get? name = (r.valuesOf name).head? := by
  obtain ⟨columns, values⟩ := r
  rw [← lookup_zip, get?]
  dsimp only
  induction columns generalizing values with
  | nil => rfl
  | cons c columns ih =>
    rw [List.idxOf?_cons]
    cases values with
    | nil => simp
    | cons v values =>
      rw [List.zip_cons_cons, List.lookup_cons]
      by_cases same : c = name
      · subst same
        simp
      · have differs : (name == c) = false := beq_false_of_ne (Ne.symm same)
        rw [beq_false_of_ne same, differs, ← ih values]
        cases columns.idxOf? name <;> rfl

/-- In the object of a row, a member is the last column of its name. -/
theorem member?_toJson (r : Row) (name : String) : r.toJson.member? name = (r.valuesOf name).getLast? := by
  rw [toJson, Json.member?_ofMembers, lookup_zip_reverse]

theorem length_valuesOf_le (columns : List String) (values : List Json) (name : String) :
    ((Row.mk columns values).valuesOf name).length ≤ columns.count name := by
  induction columns generalizing values with
  | nil => exact Nat.zero_le _
  | cons c columns ih =>
    cases values with
    | nil => exact Nat.zero_le _
    | cons v values =>
      rw [valuesOf_cons, List.length_append, List.count_cons]
      have rest := ih values
      by_cases same : name = c
      · subst same
        simp
        omega
      · have differs : (c == name) = false := beq_false_of_ne (Ne.symm same)
        simp [same, differs, rest]

theorem valuesOf_replicate (columns : List String) (v : Json) (name : String) :
    (Row.mk columns (List.replicate columns.length v)).valuesOf name = List.replicate (columns.count name) v := by
  induction columns with
  | nil => rfl
  | cons c columns ih =>
    rw [List.length_cons, List.replicate_succ, valuesOf_cons, ih, List.count_cons]
    by_cases same : name = c
    · subst same
      simp [List.replicate_succ]
    · have differs : (c == name) = false := beq_false_of_ne (Ne.symm same)
      simp [same, differs]

/-! ### Agreement -/

/-- Whether both views show the same value under a name. -/
def ViewsAgree (r : Row) (name : String) : Prop := r.toJson.member? name = r.get? name

theorem viewsAgree_iff {r : Row} {name : String} :
    r.ViewsAgree name ↔ (r.valuesOf name).getLast? = (r.valuesOf name).head? := by
  rw [ViewsAgree, member?_toJson, get?_eq_head?]

/-- One value in the columns up to some place and another behind it tell the first of a name from the
last, where there are columns of that name on both sides. -/
theorem not_viewsAgree_of_mem {front back : List String} {name : String} {v w : Json} (differ : v ≠ w)
    (first : name ∈ front) (again : name ∈ back) :
    ¬ (Row.mk (front ++ back) (List.replicate front.length v ++ List.replicate back.length w)).ViewsAgree name := by
  obtain ⟨m, before⟩ := Nat.exists_eq_succ_of_ne_zero (Nat.ne_of_gt (List.count_pos_iff.mpr first))
  obtain ⟨n, behind⟩ := Nat.exists_eq_succ_of_ne_zero (Nat.ne_of_gt (List.count_pos_iff.mpr again))
  have aligned : front.length = (List.replicate front.length v).length := List.length_replicate.symm
  rw [viewsAgree_iff, valuesOf_append aligned, valuesOf_replicate, valuesOf_replicate, before, behind,
    List.replicate_succ, List.replicate_succ', ← List.append_assoc, List.getLast?_concat]
  intro same
  exact differ (Option.some.inj same).symm

theorem nodup_of_splits {l : List String} (apart : ∀ front back, l = front ++ back → ∀ a ∈ front, a ∉ back) :
    l.Nodup := by
  induction l with
  | nil => exact List.nodup_nil
  | cons a l ih =>
    refine List.nodup_cons.mpr ⟨apart [a] l rfl a List.mem_cons_self, ih fun front back split b member => ?_⟩
    exact apart (a :: front) back (congrArg (a :: ·) split) b (List.mem_cons_of_mem a member)

/-- Both views of a row know the same names. Under each the row shows its first column and the object
its last, so that they agree on all rows with some columns exactly if these have distinct names. -/
theorem views_agree_iff_nodup (columns : List String) :
    (∀ values name, let r : Row := ⟨columns, values⟩
      ((r.toJson.member? name).isSome ↔ (r.get? name).isSome) ∧
        r.toJson.member? name = (r.valuesOf name).getLast? ∧ r.get? name = (r.valuesOf name).head?) ∧
    ((∀ values, values.length = columns.length → ∀ name, (Row.mk columns values).ViewsAgree name) ↔
      columns.Nodup) := by
  constructor
  · intro values name r
    have last := r.member?_toJson name
    have first := r.get?_eq_head? name
    refine ⟨?_, last, first⟩
    rw [last, first, List.getLast?_isSome, List.isSome_head?]
  · constructor
    · intro agree
      refine nodup_of_splits fun front back split name first again => ?_
      subst split
      have marked := agree (List.replicate front.length (.bool true) ++ List.replicate back.length (.bool false))
        (by simp) name
      exact not_viewsAgree_of_mem (by simp) first again marked
    · intro distinct values _ name
      have once : ((Row.mk columns values).valuesOf name).length ≤ 1 :=
        Nat.le_trans (length_valuesOf_le columns values name) (List.nodup_iff_count_le_one.mp distinct name)
      rw [viewsAgree_iff]
      match (Row.mk columns values).valuesOf name, once with
      | [], _ => rfl
      | [v], _ => rfl

/-- A column of the table with the name of a sample's tags is shown by the row, and the tag in its place
by the object. -/
theorem repeated_name_differs :
    let r : Row := ⟨["id", "random", "random"], [.int 7, .int 1, .int 2]⟩
    r.values.length = r.columns.length ∧ r.get? "random" = some (.int 1) ∧
      r.toJson.member? "random" = some (.int 2) ∧ ¬ r.ViewsAgree "random" := by
  intro r
  have shown : r.get? "random" = some (.int 1) := rfl
  have member : r.toJson.member? "random" = some (.int 2) := rfl
  refine ⟨rfl, shown, member, ?_⟩
  rw [ViewsAgree, shown, member]
  intro same
  cases same

end Row

end Profiling
