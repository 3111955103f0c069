import Profiling.Proofs.Sql.Parts
import Profiling.Proofs.Sql.Scanner

/-!
# Clauses of statements

Nothing that a statement is written with gets out of its clause: the scanner cuts the text of a
statement into its clauses, and their texts are the renderings of what they hold.
-/

namespace Profiling

open Text Position

/-- A name without the quote of the dialect and without a backslash. -/
def Dialect.PlainName (d : Dialect) (name : String) : Prop :=
  d.nameQuote ∉ name.toList ∧ '\\' ∉ name.toList

instance (d : Dialect) : DecidablePred d.PlainName := fun name =>
  inferInstanceAs (Decidable (d.nameQuote ∉ name.toList ∧ '\\' ∉ name.toList))

/-- A word that is no keyword of a clause. -/
def PlainWord (s : String) : Prop := isWord s.toList = true ∧ Clause.ofWord? s.toList = none

instance : DecidablePred PlainWord := fun s =>
  inferInstanceAs (Decidable (isWord s.toList = true ∧ Clause.ofWord? s.toList = none))

def Expr.Enclosed (d : Dialect) : Expr → Prop := Expr.NamesMeet d.PlainName PlainWord

instance (d : Dialect) : DecidablePred (Expr.Enclosed d) := fun e =>
  inferInstanceAs (Decidable ((∀ n ∈ e.identifiers, d.PlainName n) ∧ ∀ n ∈ e.callees, PlainWord n))

/-- The text of a query must be closed, since it is written as it is. -/
def FromItem.Enclosed (d : Dialect) : FromItem → Prop
  | table ref _ => (∀ s ∈ ref.schema, d.PlainName s) ∧ d.PlainName ref.name
  | cte name => d.PlainName name
  | subquery text name => scan d top text.toList = some top ∧ PlainWord name

instance (d : Dialect) : DecidablePred (FromItem.Enclosed d)
  | .table ref _ => inferInstanceAs (Decidable ((∀ s ∈ ref.schema, d.PlainName s) ∧ d.PlainName ref.name))
  | .cte name => inferInstanceAs (Decidable (d.PlainName name))
  | .subquery text name => inferInstanceAs (Decidable (scan d top text.toList = some top ∧ PlainWord name))

structure Select.OwnEnclosed (d : Dialect) (q : Select) : Prop where
  exprs : ∀ e ∈ q.ownExprs, e.Enclosed d
  source : ∀ s ∈ q.source, s.Enclosed d
  names : ∀ c ∈ q.ctes, d.PlainName c.name

instance (d : Dialect) : DecidablePred (Select.OwnEnclosed d) := fun q =>
  decidable_of_iff
    ((∀ e ∈ q.ownExprs, e.Enclosed d) ∧ (∀ s ∈ q.source, s.Enclosed d) ∧ ∀ c ∈ q.ctes, d.PlainName c.name)
    ⟨fun h => ⟨h.1, h.2.1, h.2.2⟩, fun h => ⟨h.exprs, h.source, h.names⟩⟩

/-- Selects of plain names and closed texts, at any depth. -/
def Select.Enclosed (d : Dialect) (q : Select) : Prop := ∀ p ∈ q.parts, p.OwnEnclosed d

instance (d : Dialect) : DecidablePred (Select.Enclosed d) := fun q =>
  inferInstanceAs (Decidable (∀ p ∈ q.parts, p.OwnEnclosed d))

variable {d : Dialect}

/-! ### Literals -/

/-- The marks that statements are written with. -/
def marks : List Char := [' ', ',', '.', ':', '-', '+', '*', '/', '%', '=', '<', '>']

theorem isMark_of_mem {c : Char} (h : c ∈ marks) : d.isMark c = true :=
  List.all_eq_true.mp (by cases d <;> decide) c h

theorem Passes.behind_blank {x y : List Char} (hx : Passes d x) (hy : Passes d y) :
    Passes d (x ++ ' ' :: y) :=
  hx.behind_mark (isMark_of_mem (by decide)) hy

theorem passes_marks {x : List Char} (h : x.all marks.contains = true) : Passes d x :=
  .digits fun c member => .inr (isMark_of_mem (by simpa using List.all_eq_true.mp h c member))

theorem passes_word {w : List Char} (h : (w.all isWordChar && (Clause.ofWord? w).isNone) = true) :
    Passes d w := by
  obtain ⟨chars, noClause⟩ := Bool.and_eq_true_iff.mp h
  exact .word (List.all_eq_true.mp chars) (Option.isNone_iff_eq_none.mp noClause)

theorem passes_plainWord {s : String} (h : PlainWord s) : Passes d s.toList := by
  obtain ⟨word, noClause⟩ := h
  simp only [isWord, Bool.and_eq_true] at word
  exact .word (List.all_eq_true.mp word.2) noClause

theorem passes_natText (n : Nat) : Passes d (natText n) := .digits fun _ h => .inl (isDigit_of_mem_natText h)

theorem passes_intText (n : Int) : Passes d (intText n) := by
  refine .digits fun c h => ?_
  rcases mem_intText h with rfl | digit
  · exact .inr (isMark_of_mem (by decide))
  · exact .inl digit

theorem passes_plainText (x : Float) : Passes d (plainText x) := by
  rcases plainText_cases x with nan | inf | number
  · rw [nan]
    exact passes_word (by decide)
  · rw [inf]
    unfold signText
    split
    · exact (passes_word (by decide)).mark (isMark_of_mem (by decide))
    · exact passes_word (by decide)
  · refine .digits fun c h => ?_
    rcases number c h with digit | rfl | rfl
    · exact .inl digit
    · exact .inr (isMark_of_mem (by decide))
    · exact .inr (isMark_of_mem (by decide))

theorem passes_floatText (x : Float) : Passes d (Literal.floatText x) := by
  cases finite : x.isFinite with
  | false =>
    rw [Literal.floatText_of_not_finite finite]
    exact passes_word (by decide)
  | true =>
    rw [Literal.floatText, if_pos finite]
    dsimp only
    split
    · exact passes_plainText x
    · exact (passes_plainText x).behind_mark (isMark_of_mem (by decide)) (passes_word (by decide))

theorem passes_ident {name : String} (plain : d.PlainName name) : Passes d (d.ident name) := by
  rw [Dialect.ident, quoteName_of_not_mem plain.1, ← doubleAll_of_not_mem plain.1]
  exact .quoteDoubled (by simp [Dialect.isQuote]) fun _ => plain.2

theorem passes_string (s : String) : Passes d (d.string s) := by
  cases d with
  | bigQuery => exact .quoteEscaped rfl rfl s.toList
  | _ => exact .quoteDoubled rfl nofun

/-- Digits with marks in quotes, behind the word that tells their kind. -/
theorem passes_tagged {tag text : List Char} (word : Passes d tag) (noQuote : '\'' ∉ text)
    (noEscape : '\\' ∉ text) : Passes d (tag ++ ' ' :: '\'' :: text ++ ['\'']) := by
  have quoted : Passes d (quoteDoubled '\'' text) := .quoteDoubled rfl fun _ => noEscape
  rw [quoteDoubled, doubleAll_of_not_mem noQuote] at quoted
  rw [List.append_assoc]
  exact word.behind_blank quoted

theorem passes_literal (v : Literal) : Passes d (v.sql d) := by
  cases v with
  | null => exact passes_word (w := ['N', 'U', 'L', 'L']) (by decide)
  | bool b =>
    cases b with
    | true => exact passes_word (w := ['T', 'R', 'U', 'E']) (by decide)
    | false => exact passes_word (w := ['F', 'A', 'L', 'S', 'E']) (by decide)
  | int n => exact passes_intText n
  | float x => exact passes_floatText x
  | string s => exact passes_string s
  | date day =>
    show Passes d (['D', 'A', 'T', 'E'] ++ ' ' :: '\'' :: day.text ++ ['\''])
    refine passes_tagged (passes_word (by decide)) day.quote_not_mem_text fun h => ?_
    rcases Date.mem_text h with h | h | h <;> exact absurd h (by decide)
  | timestamp t =>
    show Passes d (['T', 'I', 'M', 'E', 'S', 'T', 'A', 'M', 'P'] ++ ' ' :: '\'' :: t.text ++ ['\''])
    refine passes_tagged (passes_word (by decide)) t.quote_not_mem_text fun h => ?_
    rcases Instant.mem_text h with h | h | h | h | h <;> exact absurd h (by decide)

/-! ### Expressions -/

structure Separator (d : Dialect) (sep : List Char) : Prop where
  stops : ∀ y, Stops (sep ++ y)
  passes : ∀ y, Passes d y → Passes d (sep ++ y)

theorem separator_comma : Separator d [',', ' '] where
  stops _ := stops_cons rfl _
  passes _ h := (h.mark (isMark_of_mem (by decide))).mark (isMark_of_mem (by decide))

/-- A word with a blank on either side. -/
theorem separator_word {w : List Char} (h : Passes d w) : Separator d (' ' :: w ++ [' ']) where
  stops _ := stops_cons rfl _
  passes y hy := by
    rw [List.append_assoc]
    exact (h.behind_blank hy).mark (isMark_of_mem (by decide))

theorem Separator.between {sep x y : List Char} (h : Separator d sep) (hx : Passes d x) (hy : Passes d y) :
    Passes d (x ++ (sep ++ y)) := hx.append (h.passes y hy) (h.stops y)

/-- Two texts around a word. -/
theorem Passes.around {w x y : List Char} (hx : Passes d x)
    (word : (w.all isWordChar && (Clause.ofWord? w).isNone) = true) (hy : Passes d y) :
    Passes d (x ++ ((' ' :: w ++ [' ']) ++ y)) :=
  (separator_word (passes_word word)).between hx hy

theorem Separator.intercalate {sep : List Char} (h : Separator d sep) {xs : List (List Char)}
    (passes : ∀ x ∈ xs, Passes d x) : Passes d (List.intercalate sep xs) := by
  induction xs with
  | nil => exact .nil
  | cons x xs ih =>
    obtain ⟨first, others⟩ := List.forall_mem_cons.mp passes
    cases xs with
    | nil => simpa using first
    | cons y ys =>
      rw [List.intercalate_cons_cons, List.append_assoc]
      exact h.between first (ih others)

theorem passes_commaSep {xs : List (List Char)} (passes : ∀ x ∈ xs, Passes d x) :
    Passes d (Expr.commaSep xs) :=
  separator_comma.intercalate passes

namespace Expr

theorem passes_sqls {es : List Expr} (passes : ∀ e ∈ es, Passes d (e.sql d)) :
    ∀ x ∈ sqls d es, Passes d x := by
  rw [sqls_eq_map]
  exact List.forall_mem_map.mpr passes

theorem passes_joinTerms {word empty : String} (separator : Separator d word.toList)
    (none : Passes d empty.toList) {xs : List (List Char)} (passes : ∀ x ∈ xs, Passes d x) :
    Passes d (joinTerms word empty xs) := by
  unfold joinTerms
  split
  · exact none
  · exact passes _ List.mem_cons_self
  · exact .group (separator.intercalate passes).closed

theorem passes_symbol (op : BinaryOp) : Passes d op.symbol := by
  cases op with
  | like => exact passes_word (by decide)
  | _ => exact passes_marks (by decide)

theorem passes_notWord (negated : Bool) {x : List Char} (h : Passes d x) :
    Passes d (notWord negated ++ x) := by
  cases negated with
  | true => exact (passes_word (w := ['N', 'O', 'T']) (by decide)).behind_blank h
  | false => exact h

theorem passes_random (d : Dialect) : Passes d d.random := by
  have called {w : List Char} (word : Passes d w) : Passes d (w ++ ['(', ')']) :=
    word.append (.group Passes.nil.closed) (stops_cons rfl _)
  cases d with
  | polars => exact passes_ident (by decide)
  | bigQuery => exact called (w := ['R', 'A', 'N', 'D']) (passes_word (by decide))
  | generic => exact called (w := ['R', 'A', 'N', 'D', 'O', 'M']) (passes_word (by decide))
  | postgres => exact called (w := ['R', 'A', 'N', 'D', 'O', 'M']) (passes_word (by decide))

/-! ### Spelling

Each expression as its pieces with the words between them. -/

theorem sql_binary (d : Dialect) (op : BinaryOp) (a b : Expr) : (binary op a b).sql d =
    '(' :: (a.sql d ++ ((' ' :: op.symbol ++ [' ']) ++ b.sql d)) ++ [')'] := by simp [sql]

theorem sql_not (d : Dialect) (e : Expr) : (not e).sql d = '(' :: (['N', 'O', 'T', ' '] ++ e.sql d) ++ [')'] := by
  simp [sql]

theorem sql_inList (d : Dialect) (e : Expr) (items : List Expr) (negated : Bool) : (inList e items negated).sql d =
    '(' :: (e.sql d ++ ([' '] ++ (notWord negated ++ (['I', 'N', ' '] ++
      ('(' :: commaSep (sqls d items) ++ [')']))))) ++ [')'] := by simp [sql]

theorem sql_between (d : Dialect) (e low high : Expr) : (between e low high).sql d =
    '(' :: (e.sql d ++ ((' ' :: ['B', 'E', 'T', 'W', 'E', 'E', 'N'] ++ [' ']) ++
      (low.sql d ++ ((' ' :: ['A', 'N', 'D'] ++ [' ']) ++ high.sql d)))) ++ [')'] := by simp [sql]

theorem sql_isNull (d : Dialect) (e : Expr) (negated : Bool) : (isNull e negated).sql d =
    '(' :: (e.sql d ++ ((' ' :: ['I', 'S'] ++ [' ']) ++ (notWord negated ++ ['N', 'U', 'L', 'L']))) ++ [')'] := by
  simp [sql]

theorem sql_named (d : Dialect) (e : Expr) (name : String) :
    (named e name).sql d = e.sql d ++ ((' ' :: ['A', 'S'] ++ [' ']) ++ d.ident name) := by simp [sql]

theorem passes_binary {op : BinaryOp} {a b : Expr} (passesA : Passes d (a.sql d))
    (passesB : Passes d (b.sql d)) : Passes d ((binary op a b).sql d) := by
  rw [sql_binary]
  exact .group ((separator_word (passes_symbol op)).between passesA passesB).closed

theorem passes_not {e : Expr} (passes : Passes d (e.sql d)) : Passes d ((not e).sql d) := by
  rw [sql_not]
  exact .group ((passes_word (w := ['N', 'O', 'T']) (by decide)).behind_blank passes).closed

theorem passes_inList {e : Expr} {items : List Expr} {negated : Bool} (passes : Passes d (e.sql d))
    (passesItems : ∀ x ∈ items, Passes d (x.sql d)) : Passes d ((inList e items negated).sql d) := by
  have list : Passes d ('(' :: commaSep (sqls d items) ++ [')']) :=
    .group (passes_commaSep (passes_sqls passesItems)).closed
  rw [sql_inList]
  exact .group (passes.behind_blank
    (passes_notWord negated ((passes_word (w := ['I', 'N']) (by decide)).behind_blank list))).closed

theorem passes_between {e low high : Expr} (passes : Passes d (e.sql d)) (passesLow : Passes d (low.sql d))
    (passesHigh : Passes d (high.sql d)) : Passes d ((between e low high).sql d) := by
  rw [sql_between]
  exact .group (passes.around (by decide) (passesLow.around (by decide) passesHigh)).closed

theorem passes_isNull {e : Expr} {negated : Bool} (passes : Passes d (e.sql d)) :
    Passes d ((isNull e negated).sql d) := by
  rw [sql_isNull]
  exact .group (passes.around (by decide) (passes_notWord negated (passes_word (by decide)))).closed

theorem passes_named {e : Expr} {name : String} (passes : Passes d (e.sql d)) (plain : d.PlainName name) :
    Passes d ((named e name).sql d) := by
  rw [sql_named]
  exact passes.around (by decide) (passes_ident plain)

/-- The scanner gets through an expression, whatever its values are. -/
theorem Enclosed.passes {e : Expr} (enclosed : e.Enclosed d) : Passes d (e.sql d) := by
  induction e using Expr.induct with
  | column name => exact passes_ident (enclosed.own.1 name rfl)
  | wildcard => exact passes_marks (x := ['*']) (by decide)
  | literal value => exact passes_literal value
  | random => exact passes_random d
  | call name args ih =>
    have passesArgs := passes_commaSep (passes_sqls fun e member => ih e member (enclosed.inside member))
    rw [sql, List.append_assoc]
    exact (passes_plainWord (enclosed.own.2 name rfl)).append (.group passesArgs.closed) (stops_cons rfl _)
  | binary op a b ihA ihB =>
    exact passes_binary (ihA (enclosed.inside (by simp [children])))
      (ihB (enclosed.inside (by simp [children])))
  | all terms ih =>
    exact passes_joinTerms (separator_word (w := ['A', 'N', 'D']) (passes_word (by decide)))
      (passes_word (w := ['T', 'R', 'U', 'E']) (by decide))
      (passes_sqls fun e member => ih e member (enclosed.inside member))
  | any terms ih =>
    exact passes_joinTerms (separator_word (w := ['O', 'R']) (passes_word (by decide)))
      (passes_word (w := ['F', 'A', 'L', 'S', 'E']) (by decide))
      (passes_sqls fun e member => ih e member (enclosed.inside member))
  | not e ih => exact passes_not (ih (enclosed.inside List.mem_cons_self))
  | inList e items negated ih ihItems =>
    exact passes_inList (ih (enclosed.inside List.mem_cons_self))
      fun x member => ihItems x member (enclosed.inside (List.mem_cons_of_mem e member))
  | between e low high ih ihLow ihHigh =>
    exact passes_between (ih (enclosed.inside (by simp [children])))
      (ihLow (enclosed.inside (by simp [children]))) (ihHigh (enclosed.inside (by simp [children])))
  | isNull e negated ih => exact passes_isNull (ih (enclosed.inside List.mem_cons_self))
  | named e name ih =>
    exact passes_named (ih (enclosed.inside List.mem_cons_self)) (enclosed.own.1 name rfl)

theorem passes_list {es : List Expr} (enclosed : ∀ e ∈ es, e.Enclosed d) :
    Passes d (commaSep (es.map (sql d))) :=
  passes_commaSep (List.forall_mem_map.mpr fun e member => (enclosed e member).passes)

end Expr

/-! ### Selects -/

theorem passes_qualified {names : List String} (plain : ∀ n ∈ names, d.PlainName n) :
    Passes d (d.qualified names) := by
  have point : Separator d ['.'] :=
    ⟨fun _ => stops_cons rfl _, fun _ h => h.mark (isMark_of_mem (by decide))⟩
  exact point.intercalate (List.forall_mem_map.mpr fun n member => passes_ident (plain n member))

theorem passes_tableRef {ref : TableRef} (schema : ∀ s ∈ ref.schema, d.PlainName s)
    (name : d.PlainName ref.name) : Passes d (ref.sql d) := by
  unfold TableRef.sql
  cases found : ref.schema with
  | none => exact passes_ident name
  | some s => exact passes_qualified (by simpa using ⟨schema s found, name⟩)

theorem TableSample.sql_systemPercent (percent : Float) :
    (systemPercent percent).sql =
      "TABLESAMPLE SYSTEM (".toList ++ plainText percent ++ " PERCENT)".toList := rfl

theorem passes_tableSample (sample : TableSample) : Passes d sample.sql := by
  obtain ⟨percent⟩ := sample
  have spelled : (TableSample.systemPercent percent).sql =
      ['T', 'A', 'B', 'L', 'E', 'S', 'A', 'M', 'P', 'L', 'E'] ++ ' ' ::
        (['S', 'Y', 'S', 'T', 'E', 'M'] ++ ' ' ::
          ('(' :: (plainText percent ++ ' ' :: ['P', 'E', 'R', 'C', 'E', 'N', 'T']) ++ [')'])) := by
    rw [TableSample.sql_systemPercent]
    simp
  have share : Passes d (plainText percent ++ ' ' :: ['P', 'E', 'R', 'C', 'E', 'N', 'T']) :=
    (passes_plainText percent).behind_blank (passes_word (by decide))
  rw [spelled]
  exact (passes_word (by decide)).behind_blank ((passes_word (by decide)).behind_blank (.group share.closed))

theorem passes_fromItem {s : FromItem} (enclosed : s.Enclosed d) : Passes d (s.sql d) := by
  cases s with
  | table ref sample =>
    have table := passes_tableRef enclosed.1 enclosed.2
    cases sample with
    | none => exact table
    | some sample => exact table.behind_blank (passes_tableSample sample)
  | cte name => exact passes_ident enclosed
  | subquery text name =>
    have spelled : (FromItem.subquery text name).sql d =
        ('(' :: text.toList ++ [')']) ++ ((' ' :: ['A', 'S'] ++ [' ']) ++ name.toList) := by
      simp [FromItem.sql]
    rw [spelled]
    exact (Passes.group enclosed.1).around (by decide) (passes_plainWord enclosed.2)

theorem passes_orderBy {o : OrderBy} (enclosed : o.expr.Enclosed d) : Passes d (o.sql d) := by
  unfold OrderBy.sql
  cases o.ascending with
  | true => exact enclosed.passes.behind_blank (passes_word (w := ['A', 'S', 'C']) (by decide))
  | false => exact enclosed.passes.behind_blank (passes_word (w := ['D', 'E', 'S', 'C']) (by decide))

namespace Select

def has (q : Select) : Clause → Bool
  | .ctes => !q.ctes.isEmpty
  | .projection => true
  | .source => q.source.isSome
  | .selection => q.selection.isSome
  | .groupBy => !q.groupBy.isEmpty
  | .orderBy => !q.orderBy.isEmpty
  | .limit => q.limit.isSome

def content (d : Dialect) (q : Select) : Clause → List Char
  | .ctes => Expr.commaSep (q.ctes.map (Cte.sql d))
  | .projection => if q.projection.isEmpty then ['*'] else Expr.commaSep (q.projection.map (Expr.sql d))
  | .source => (q.source.map (FromItem.sql d)).getD []
  | .selection => (q.selection.map (Expr.sql d)).getD []
  | .groupBy => Expr.commaSep (q.groupBy.map (Expr.sql d))
  | .orderBy => Expr.commaSep (q.orderBy.map (OrderBy.sql d))
  | .limit => (q.limit.map natText).getD []

def clauses (q : Select) : List Clause := Clause.all.filter q.has

theorem OwnEnclosed.passes_content {q : Select} (own : q.OwnEnclosed d)
    (ctes : ∀ c ∈ q.ctes, Passes d (c.sql d)) (k : Clause) : Passes d (q.content d k) := by
  cases k with
  | ctes => exact passes_commaSep (List.forall_mem_map.mpr ctes)
  | projection =>
    unfold content
    dsimp only
    split
    · exact passes_marks (by decide)
    · exact Expr.passes_list fun e member => own.exprs e (by simp [ownExprs, member])
  | source =>
    cases found : q.source with
    | none => simpa [content, found] using .nil
    | some s => simpa [content, found] using passes_fromItem (own.source s found)
  | selection =>
    cases found : q.selection with
    | none => simpa [content, found] using .nil
    | some e => simpa [content, found] using (own.exprs e (by simp [ownExprs, found])).passes
  | groupBy => exact Expr.passes_list fun e member => own.exprs e (by simp [ownExprs, member])
  | orderBy =>
    refine passes_commaSep (List.forall_mem_map.mpr fun o member => passes_orderBy (own.exprs o.expr ?_))
    exact List.mem_append_right _ (List.mem_map_of_mem member)
  | limit =>
    cases found : q.limit with
    | none => simpa [content, found] using .nil
    | some n => simpa [content, found] using passes_natText n

/-- A clause behind the projection, with the blank in front of it, if the select has it. -/
def later (d : Dialect) (q : Select) (k : Clause) : List Char :=
  if q.has k then ' ' :: k.text (q.content d k) else []

theorem later_source (q : Select) : q.fromClause d = q.later d .source := by
  cases found : q.source <;> simp [fromClause, later, has, content, Clause.text, Clause.keyword, found]

theorem later_selection (q : Select) : q.whereClause d = q.later d .selection := by
  cases found : q.selection <;> simp [whereClause, later, has, content, Clause.text, Clause.keyword, found]

theorem later_groupBy (q : Select) : q.groupByClause d = q.later d .groupBy := by
  cases found : q.groupBy.isEmpty <;>
    simp [groupByClause, later, has, content, Clause.text, Clause.keyword, found]

theorem later_orderBy (q : Select) : q.orderByClause d = q.later d .orderBy := by
  cases found : q.orderBy.isEmpty <;>
    simp [orderByClause, later, has, content, Clause.text, Clause.keyword, found]

theorem later_limit (q : Select) : q.limitClause = q.later d .limit := by
  cases found : q.limit <;> simp [limitClause, later, has, content, Clause.text, Clause.keyword, found]

def laterClauses : List Clause := [.source, .selection, .groupBy, .orderBy, .limit]

theorem projectionClause_eq (q : Select) :
    q.projectionClause d = Clause.projection.text (q.content d .projection) := rfl

theorem body_eq (q : Select) :
    q.body d = Clause.projection.text (q.content d .projection) ++ laterClauses.flatMap (q.later d) := by
  rw [body, projectionClause_eq, later_source, later_selection, later_groupBy, later_orderBy,
    later_limit (d := d)]
  simp [laterClauses]

theorem flatMap_later (q : Select) (ks : List Clause) :
    ks.flatMap (q.later d) = (ks.filter q.has).flatMap fun k => ' ' :: k.text (q.content d k) := by
  induction ks with
  | nil => rfl
  | cons k ks ih =>
    rw [List.flatMap_cons, ih, later]
    cases has : q.has k with
    | true => simp [has]
    | false => simp [has]

theorem intercalate_blank (x : List Char) (xs : List (List Char)) :
    List.intercalate [' '] (x :: xs) = x ++ xs.flatMap (' ' :: ·) := by
  induction xs generalizing x with
  | nil => simp
  | cons y ys ih => rw [List.intercalate_cons_cons, ih]; simp

/-- A statement is written as its clauses with blanks between them. -/
theorem sql_eq_clauses (q : Select) :
    q.sql d = List.intercalate [' '] (q.clauses.map fun k => k.text (q.content d k)) := by
  have main : List.intercalate [' ']
      ((Clause.projection :: laterClauses.filter q.has).map fun k => k.text (q.content d k)) = q.body d := by
    rw [List.map_cons, intercalate_blank, body_eq, flatMap_later, List.flatMap_map]
  have always : q.has .projection = true := rfl
  rw [sql_eq, ← main]
  cases found : q.ctes with
  | nil =>
    have only : q.clauses = .projection :: laterClauses.filter q.has := by
      have none : q.has .ctes = false := by simp [has, found]
      rw [clauses, Clause.all, List.filter_cons_of_neg (by simp [none]), List.filter_cons_of_pos always]
      rfl
    rw [only]
    rfl
  | cons c cs =>
    have all : q.clauses = .ctes :: .projection :: laterClauses.filter q.has := by
      have some : q.has .ctes = true := by simp [has, found]
      rw [clauses, Clause.all, List.filter_cons_of_pos some, List.filter_cons_of_pos always]
      rfl
    have ctes : withClause ((c :: cs).map (Cte.sql d)) = Clause.ctes.text (q.content d .ctes) ++ [' '] := by
      rw [content, found]
      rfl
    rw [all, ctes, List.map_cons, List.map_cons, List.map_cons, List.intercalate_cons_cons]

theorem passes_cte {c : Cte} (name : d.PlainName c.name) (closed : scan d top (c.query.sql d) = some top) :
    Passes d (c.sql d) := by
  have spelled : c.sql d =
      d.ident c.name ++ ((' ' :: ['A', 'S'] ++ [' ']) ++ ('(' :: c.query.sql d ++ [')'])) := by
    cases c
    simp [Cte.sql]
  rw [spelled]
  exact (passes_ident name).around (by decide) (.group closed)

theorem Enclosed.own {q : Select} (h : q.Enclosed d) : q.OwnEnclosed d :=
  h q (by rw [parts_eq]; exact List.mem_cons_self)

theorem Enclosed.query {q : Select} (h : q.Enclosed d) {c : Cte} (member : c ∈ q.ctes) :
    c.query.Enclosed d := by
  intro p part
  refine h p ?_
  rw [parts_eq]
  exact List.mem_cons_of_mem _ (List.mem_flatMap.mpr ⟨c, member, part⟩)

/-- The cuts through a statement are those between its clauses. The common table expressions are
closed, so that they stand in their brackets. -/
theorem Enclosed.cut_sql {q : Select} (enclosed : q.Enclosed d) :
    cut d top false (q.sql d) = some ⟨[], spaced (q.clauses.map fun k => (k, k.text (q.content d k)))⟩ := by
  induction q using Select.induct with
  | step q ih =>
    have ctes : ∀ c ∈ q.ctes, Passes d (c.sql d) := fun c member =>
      passes_cte (enclosed.own.names c member) (scan_of_cut (ih c member (enclosed.query member)))
    rw [sql_eq_clauses]
    exact cut_clauses fun k _ => enclosed.own.passes_content ctes k

/-- Nothing in a statement escapes its clause: brackets and quotes are closed, and the text is cut
into the clauses of the statement, each with the rendering of what it holds. -/
theorem scan_sql {q : Select} (enclosed : q.Enclosed d) :
    scan d top (q.sql d) = some top ∧
      cut d top false (q.sql d) = some ⟨[], spaced (q.clauses.map fun k => (k, k.text (q.content d k)))⟩ :=
  ⟨scan_of_cut enclosed.cut_sql, enclosed.cut_sql⟩

/-- A select whose values are written to look like the end of their clauses. -/
def hostile : Select where
  ctes :=
    [⟨"recent", (ofProjection [.literal (.string "a') FROM (b")]).withSource (.table ⟨some "m", "t"⟩ none)⟩]
  projection := [.column "x) WHERE (y"]
  source := some (.cte "recent")
  selection := some ((Expr.column "z").eq (.literal (.string "' LIMIT \\' (")))
  groupBy := []
  orderBy := []
  limit := some 3

theorem hostile_cut :
    hostile.Enclosed .bigQuery ∧ scan .bigQuery top (hostile.sql .bigQuery) = some top ∧
      (cut .bigQuery top false (hostile.sql .bigQuery)).map (·.clauses.map Prod.fst) =
        some [.ctes, .projection, .source, .selection, .limit] := by
  have enclosed : hostile.Enclosed .bigQuery := by decide
  refine ⟨enclosed, (scan_sql enclosed).1, ?_⟩
  rw [(scan_sql enclosed).2]
  rfl

end Select

end Profiling
