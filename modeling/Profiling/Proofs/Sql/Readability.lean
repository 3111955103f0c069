import Profiling.Proofs.Sql.Reading

/-!
# Unique readability

Two expressions have one text exactly when they are alike: equal up to the few things that no text
shows.
-/

namespace Profiling

def Dialect.randomExpr : Dialect → Expr
  | bigQuery => .call "RAND" []
  | generic | postgres => .call "RANDOM" []
  | polars => .column randomColumn

namespace Expr

/-- An expression with one of its children left out. -/
inductive Place where
  | arg (name : String) (before after : List Expr)
  | left (op : BinaryOp) (b : Expr)
  | right (op : BinaryOp) (a : Expr)
  | conjunct (before after : List Expr)
  | disjunct (before after : List Expr)
  | negand
  | subject (items : List Expr) (negated : Bool)
  | item (e : Expr) (before after : List Expr) (negated : Bool)
  | middle (low high : Expr)
  | low (e high : Expr)
  | high (e low : Expr)
  | tested (negated : Bool)
  | renamed (name : String)

def Place.fill : Place → Expr → Expr
  | arg name before after, e => call name (before ++ e :: after)
  | left op b, e => binary op e b
  | right op a, e => binary op a e
  | conjunct before after, e => all (before ++ e :: after)
  | disjunct before after, e => any (before ++ e :: after)
  | negand, e => not e
  | subject items negated, e => inList e items negated
  | item x before after negated, e => inList x (before ++ e :: after) negated
  | middle least most, e => between e least most
  | low x most, e => between x e most
  | high x least, e => between x least e
  | tested negated, e => isNull e negated
  | renamed name, e => named e name

/-- Two ways to say what a dialect writes in one way. -/
inductive Respelled (d : Dialect) : Expr → Expr → Prop where
  | noConjunct : Respelled d (all []) (literal (.bool true))
  | noDisjunct : Respelled d (any []) (literal (.bool false))
  | oneConjunct (e : Expr) : Respelled d (all [e]) e
  | oneDisjunct (e : Expr) : Respelled d (any [e]) e
  | notFinite (x : Float) (h : x.isFinite = false) : Respelled d (literal (.float x)) (literal .null)
  | random : Respelled d random d.randomExpr
  | digits (x y : Float) (h : Literal.floatText x = Literal.floatText y) :
      Respelled d (literal (.float x)) (literal (.float y))
  | shownFields (t u : Instant) (h : t.date = u.date ∧ t.clock = u.clock) :
      Respelled d (literal (.timestamp t)) (literal (.timestamp u))

/-- The least equivalence that holds between two spellings, in any place. -/
inductive Alike (d : Dialect) : Expr → Expr → Prop where
  | spelling {a b : Expr} (h : Respelled d a b) : Alike d a b
  | inside (place : Place) {a b : Expr} (h : Alike d a b) : Alike d (place.fill a) (place.fill b)
  | refl (a : Expr) : Alike d a a
  | symm {a b : Expr} (h : Alike d a b) : Alike d b a
  | trans {a b c : Expr} (h : Alike d a b) (next : Alike d b c) : Alike d a c

variable {d : Dialect}

/-! ### Alike expressions have one text -/

theorem Dialect.sql_randomExpr (d : Dialect) : d.randomExpr.sql d = d.random := by
  cases d <;> rfl

theorem Respelled.sql_eq {a b : Expr} (h : Respelled d a b) : a.sql d = b.sql d := by
  cases h with
  | noConjunct => rfl
  | noDisjunct => rfl
  | oneConjunct e => rfl
  | oneDisjunct e => rfl
  | notFinite x h => exact Literal.floatText_of_not_finite h
  | random => exact (Dialect.sql_randomExpr d).symm
  | digits x y h => exact h
  | shownFields t u h =>
    show (Literal.timestamp t).sql d = (Literal.timestamp u).sql d
    rw [Literal.sql_timestamp, Literal.sql_timestamp, Instant.text_eq_iff.mpr h]

theorem Place.sql_fill (place : Place) {a b : Expr} (same : a.sql d = b.sql d) :
    (place.fill a).sql d = (place.fill b).sql d := by
  cases place <;> simp [fill, sql, sqls_eq_map, same]

theorem Alike.sql_eq {a b : Expr} (h : Alike d a b) : a.sql d = b.sql d := by
  induction h with
  | spelling h => exact h.sql_eq
  | inside place _ same => exact place.sql_fill same
  | refl a => rfl
  | symm _ same => exact same.symm
  | trans _ _ first second => exact first.trans second

/-! ### Literals of one form -/

theorem alike_null {v : Literal} (h : v.form = Literal.null.form) : Alike d (literal v) (literal .null) := by
  cases v with
  | null => exact .refl _
  | bool b => cases b <;> exact absurd h (by simp [Literal.form])
  | int n => exact absurd (Form.word.inj h).symm (intText_ne_word n _ (by decide) (by decide))
  | float x =>
    cases finite : x.isFinite with
    | true => exact absurd ((Form.word.inj h) ▸ Literal.point_mem_floatText finite) (by decide)
    | false => exact .spelling (.notFinite x finite)
  | string s => cases h
  | date day => cases h
  | timestamp t => cases h

theorem eq_bool {v : Literal} {b : Bool} (h : v.form = (Literal.bool b).form) : v = .bool b := by
  cases v with
  | null => cases b <;> exact absurd h (by simp [Literal.form])
  | bool a => cases a <;> cases b <;> simp [Literal.form] at h ⊢
  | int n => cases b <;> exact absurd (Form.word.inj h).symm (intText_ne_word n _ (by decide) (by decide))
  | float x => cases b <;> exact absurd (Form.word.inj h) (Literal.floatText_ne_of_letters (by decide) (by decide))
  | string s => cases b <;> cases h
  | date day => cases b <;> cases h
  | timestamp t => cases b <;> cases h

theorem eq_int {v : Literal} {n : Int} (h : v.form = (Literal.int n).form) : v = .int n := by
  cases v with
  | null => exact absurd (Form.word.inj h) (intText_ne_word n _ (by decide) (by decide))
  | bool b => cases b <;> exact absurd (Form.word.inj h) (intText_ne_word n _ (by decide) (by decide))
  | int m => exact congrArg Literal.int (intText_injective (Form.word.inj h))
  | float x => exact absurd (Form.word.inj h) (Literal.floatText_ne_intText x n)
  | string s => cases h
  | date day => cases h
  | timestamp t => cases h

/-- Literals of one form are alike. -/
theorem alike_literal {v w : Literal} (h : v.form = w.form) : Alike d (literal v) (literal w) := by
  cases w with
  | null => exact alike_null h
  | bool b => exact eq_bool h ▸ .refl _
  | int n => exact eq_int h ▸ .refl _
  | float x =>
    cases v with
    | null => exact (alike_null h.symm).symm
    | bool b => exact eq_bool h.symm ▸ .refl _
    | int n => exact eq_int h.symm ▸ .refl _
    | float y => exact .spelling (.digits y x (Form.word.inj h))
    | _ => cases h
  | string s =>
    cases v with
    | bool b => cases b <;> cases h
    | string r => exact String.toList_injective (Form.string.inj h) ▸ .refl _
    | _ => cases h
  | date day =>
    cases v with
    | bool b => cases b <;> cases h
    | date day' => exact Date.text_injective (Form.tagged.inj h).2 ▸ .refl _
    | timestamp t => exact absurd (Form.tagged.inj h).1 (by decide)
    | _ => cases h
  | timestamp t =>
    cases v with
    | bool b => cases b <;> cases h
    | date day => exact absurd (Form.tagged.inj h).1 (by decide)
    | timestamp u => exact .spelling (.shownFields u t (Instant.text_eq_iff.mp (Form.tagged.inj h).2))
    | _ => cases h

end Expr

/-! ### Expressions of one form -/

instance : Inhabited Literal := ⟨.null⟩

noncomputable def Form.literal (f : Form) : Literal := Classical.epsilon fun v => v.form = f

theorem Literal.form_literal (v : Literal) : v.form.literal.form = v.form :=
  Classical.epsilon_spec (p := fun w : Literal => w.form = v.form) ⟨v, rfl⟩

mutual

/-- The expression that stands for those of one form. -/
noncomputable def Form.expr : Form → Expr
  | name text => .column (String.ofList text)
  | wildcard => .wildcard
  | word text => .literal (literal (word text))
  | string text => .literal (.string (String.ofList text))
  | tagged tag text => .literal (literal (tagged tag text))
  | call callee args => .call (String.ofList callee) (exprs args)
  | binary op a b => .binary op (expr a) (expr b)
  | joined true terms => .all (exprs terms)
  | joined false terms => .any (exprs terms)
  | not f => .not (expr f)
  | inList f items negated => .inList (expr f) (exprs items) negated
  | between f low high => .between (expr f) (expr low) (expr high)
  | isNull f negated => .isNull (expr f) negated
  | named f text => .named (expr f) (String.ofList text)

noncomputable def Form.exprs : List Form → List Expr
  | [] => []
  | f :: fs => expr f :: exprs fs

end

namespace Expr

theorem exprs_form (es : List Expr) : Form.exprs (es.map (form d)) = es.map fun e => (e.form d).expr := by
  induction es with
  | nil => simp [Form.exprs]
  | cons e es ih => simp [Form.exprs, ih]

theorem expr_randomForm (d : Dialect) : d.randomForm.expr = d.randomExpr := by
  cases d <;> simp [Dialect.randomForm, Dialect.randomExpr, Form.expr, Form.exprs]

theorem alike_expr_literal (v : Literal) : Alike d (literal v) v.form.expr := by
  have chosen : Alike d (literal v) (literal v.form.literal) := alike_literal v.form_literal.symm
  cases shape : v.form with
  | word text =>
    rw [shape] at chosen
    simpa only [Form.expr] using chosen
  | tagged tag text =>
    rw [shape] at chosen
    simpa only [Form.expr] using chosen
  | string text =>
    rw [Form.expr]
    apply alike_literal
    rw [shape, Literal.form, String.toList_ofList]
  | _ => cases v <;> first | cases shape | (rename_i b; cases b <;> cases shape)

/-- What takes a list of children takes one that is alike child by child. -/
theorem alike_map {f : List Expr → Expr} {g : Expr → Expr}
    (place : ∀ before after, ∃ p : Place, ∀ e, p.fill e = f (before ++ e :: after))
    {es : List Expr} (h : ∀ e ∈ es, Alike d e (g e)) (before : List Expr) :
    Alike d (f (before ++ es)) (f (before ++ es.map g)) := by
  -- The children are exchanged from the left, and `before` holds those that are exchanged already.
  induction es generalizing before with
  | nil => exact .refl _
  | cons e es ih =>
    obtain ⟨first, others⟩ := List.forall_mem_cons.mp h
    obtain ⟨p, fills⟩ := place before es
    have changed := Alike.inside p first
    rw [fills, fills] at changed
    have rest := ih others (before ++ [g e])
    simp only [List.append_assoc, List.singleton_append] at rest
    exact changed.trans rest

theorem alike_joined (conjunction : Bool) {terms : List Expr} {g : Expr → Expr}
    (h : ∀ e ∈ terms, Alike d e (g e)) :
    Alike d (joined conjunction terms) (joined conjunction (terms.map g)) := by
  cases conjunction with
  | true => exact alike_map (fun before after => ⟨.conjunct before after, fun _ => rfl⟩) h []
  | false => exact alike_map (fun before after => ⟨.disjunct before after, fun _ => rfl⟩) h []

theorem alike_joined_nil (conjunction : Bool) : Alike d (joined conjunction [])
    (literal (.bool conjunction)) := by
  cases conjunction with
  | true => exact .spelling .noConjunct
  | false => exact .spelling .noDisjunct

theorem alike_joined_one (conjunction : Bool) (e : Expr) : Alike d (joined conjunction [e]) e := by
  cases conjunction with
  | true => exact .spelling (.oneConjunct e)
  | false => exact .spelling (.oneDisjunct e)

theorem expr_joined (conjunction : Bool) (fs : List Form) :
    (Form.joined conjunction fs).expr = joined conjunction (Form.exprs fs) := by
  cases conjunction <;> rw [Form.expr] <;> rfl

theorem alike_expr_joined (conjunction : Bool) {terms : List Expr}
    (h : ∀ e ∈ terms, Alike d e (e.form d).expr) :
    Alike d (joined conjunction terms) ((joined conjunction terms).form d).expr := by
  rw [form_joined]
  match terms with
  | [] => exact (alike_joined_nil conjunction).trans (alike_expr_literal (.bool conjunction))
  | [e] => exact (alike_joined_one conjunction e).trans (h e List.mem_cons_self)
  | x :: y :: zs =>
    show Alike d _ (Form.joined conjunction ((x :: y :: zs).map (form d))).expr
    rw [expr_joined, exprs_form]
    exact alike_joined conjunction h

/-- An expression is alike to the one that stands for its form. -/
theorem alike_expr (e : Expr) : Alike d e (e.form d).expr := by
  induction e using Expr.induct with
  | column name => simpa [form, Form.expr] using .refl _
  | wildcard => simpa [form, Form.expr] using .refl _
  | literal value => simpa [form] using alike_expr_literal value
  | random =>
    rw [form, expr_randomForm]
    exact .spelling .random
  | call name args ih =>
    rw [form, Form.expr, forms_eq_map, exprs_form, String.ofList_toList]
    exact alike_map (fun before after => ⟨.arg name before after, fun _ => rfl⟩) ih []
  | binary op a b ihA ihB =>
    rw [form, Form.expr]
    exact (Alike.inside (.left op b) ihA).trans (.inside (.right op _) ihB)
  | all terms ih => exact alike_expr_joined true ih
  | any terms ih => exact alike_expr_joined false ih
  | not e ih =>
    rw [form, Form.expr]
    exact .inside .negand ih
  | inList e items negated ih ihItems =>
    rw [form, Form.expr, forms_eq_map, exprs_form]
    exact (Alike.inside (.subject items negated) ih).trans
      (alike_map (f := fun xs => inList _ xs negated)
        (fun before after => ⟨.item _ before after negated, fun _ => rfl⟩) ihItems [])
  | between e low high ih ihLow ihHigh =>
    rw [form, Form.expr]
    exact (Alike.inside (.middle low high) ih).trans
      ((Alike.inside (.low _ high) ihLow).trans (.inside (.high _ _) ihHigh))
  | isNull e negated ih =>
    rw [form, Form.expr]
    exact .inside (.tested negated) ih
  | named e name ih =>
    rw [form, Form.expr, String.ofList_toList]
    exact .inside (.renamed name) ih

theorem alike_of_form_eq {a b : Expr} (h : a.form d = b.form d) : Alike d a b :=
  (alike_expr a).trans (h ▸ (alike_expr b).symm)

/-- Expressions of plain names have one text in a dialect exactly when they are alike in it. -/
theorem sql_eq_iff_alike {a b : Expr} (plainA : a.PlainNames d) (plainB : b.PlainNames d) :
    a.sql d = b.sql d ↔ Alike d a b :=
  ⟨fun same => alike_of_form_eq (form_eq_of_sql_eq plainA plainB same), Alike.sql_eq⟩

/-- No disjunct is the constant `FALSE`, and the string of these letters is not. -/
theorem no_disjunct_alike_false :
    (all [any [], column "a"]).PlainNames .bigQuery ∧
      Alike .bigQuery (all [any [], column "a"]) (all [literal (.bool false), any [column "a"]]) ∧
      ¬Alike .bigQuery (all [any [], column "a"]) (all [literal (.string "FALSE"), column "a"]) := by
  have plain : (all [any [], column "a"]).PlainNames .bigQuery := by decide
  refine ⟨plain, (sql_eq_iff_alike plain (by decide)).mp (by decide), fun alike => ?_⟩
  have same := (sql_eq_iff_alike plain (by decide)).mpr alike
  exact absurd same (by decide)

end Expr

end Profiling
