import Profiling.Proofs.Sql.Clauses
import Profiling.Proofs.Sql.Comments
import Profiling.Proofs.Sql.Numerals

/-!
# Statements without comments

Nothing that a statement is written with begins a comment: blanks stand around the signs of operators,
and the sign of a number stands in front of a digit. What else a statement holds stands in quotes.
-/

namespace Profiling

open Text Lexer

variable {l : Lexer}

namespace Lexer

/-! ### Literals -/

theorem Balanced.word {w : List Char} (word : ∀ c ∈ w, isWordChar c = true) : l.Balanced w :=
  run_inert (fun c member => isInert_of_isWordChar (word c member)) 0

theorem balanced_natText (n : Nat) : l.Balanced (natText n) :=
  .word fun _ member => isWordChar_of_isDigit (isDigit_of_mem_natText member)

theorem isInert_of_mem_natText {n : Nat} {c : Char} (member : c ∈ natText n) : isInert c = true :=
  isInert_of_isWordChar (isWordChar_of_isDigit (isDigit_of_mem_natText member))

theorem balanced_intText (n : Int) : l.Balanced (intText n) := by
  unfold intText
  split
  · exact .minus (fun _ => isInert_of_mem_natText) (natText_ne_nil _)
  · exact balanced_natText _

/-- A number behind its sign. -/
theorem balanced_signed (x : Float) {m : List Char} (chars : ∀ c ∈ m, isInert c = true) (nonempty : m ≠ []) :
    l.Balanced (signText x ++ m) := by
  unfold signText
  split
  · exact .minus chars nonempty
  · exact run_inert chars 0

theorem isInert_of_mem_magnitude {x : Float} {c : Char} (member : c ∈ plainLayout.magnitude x) :
    isInert c = true := by
  rcases mem_magnitude member with digit | rfl
  · exact isInert_of_isWordChar (isWordChar_of_isDigit digit)
  · rfl

theorem balanced_floatText (x : Float) : l.Balanced (Literal.floatText x) := by
  cases finite : x.isFinite with
  | false =>
    rw [Literal.floatText_of_not_finite finite]
    exact .inert (by decide)
  | true =>
    have digits : plainText x = signText x ++ plainLayout.magnitude x := plainText_of_finite finite
    rw [Literal.floatText, if_pos finite, digits]
    dsimp only
    split
    · next pointed =>
      refine balanced_signed x (fun _ => isInert_of_mem_magnitude) ?_
      intro empty
      rw [empty, List.append_nil, List.contains_iff_mem] at pointed
      exact absurd (mem_signText pointed) (by decide)
    · rw [List.append_assoc]
      refine balanced_signed x ?_ (by simp)
      intro c member
      rcases List.mem_append.mp member with digit | zero
      · exact isInert_of_mem_magnitude digit
      · exact List.all_eq_true.mp (by decide : ['.', '0'].all isInert = true) c zero

theorem balanced_ident {name : String} (plain : l.dialect.PlainName name) : l.Balanced (l.dialect.ident name) := by
  rw [Dialect.ident, quoteName_of_not_mem plain.1, ← doubleAll_of_not_mem plain.1]
  exact .quoteDoubled (by simp [Dialect.isQuote]) fun _ => plain.2

theorem balanced_string (s : String) : l.Balanced (l.dialect.string s) := by
  have quote : l.dialect.isQuote '\'' = true := by simp [Dialect.isQuote]
  unfold Dialect.string
  split
  · next bigQuery => exact .quoteEscaped quote (by rw [bigQuery]; rfl) s.toList
  · next other => exact .quoteDoubled quote (by cases found : l.dialect <;> simp_all [Dialect.escapes])

/-- A text without quotes and backslashes in quotes, behind the word that tells its kind. -/
theorem balanced_tagged {w text : List Char} (word : w.all isInert = true) (noQuote : '\'' ∉ text)
    (noEscape : '\\' ∉ text) : l.Balanced (w ++ '\'' :: text ++ ['\'']) := by
  have quoted : l.Balanced (quoteDoubled '\'' text) := .quoteDoubled (by simp [Dialect.isQuote]) fun _ => noEscape
  rw [quoteDoubled, doubleAll_of_not_mem noQuote] at quoted
  rw [List.append_assoc]
  exact (Balanced.inert word).append quoted

theorem balanced_literal (v : Literal) : l.Balanced (v.sql l.dialect) := by
  cases v with
  | null => exact .inert (x := ['N', 'U', 'L', 'L']) (by decide)
  | bool b =>
    cases b with
    | true => exact .inert (x := ['T', 'R', 'U', 'E']) (by decide)
    | false => exact .inert (x := ['F', 'A', 'L', 'S', 'E']) (by decide)
  | int n => exact balanced_intText n
  | float x => exact balanced_floatText x
  | string s => exact balanced_string s
  | date day =>
    refine balanced_tagged (w := ['D', 'A', 'T', 'E', ' ']) (by decide) day.quote_not_mem_text ?_
    intro back
    rcases Date.mem_text back with h | h | h <;> exact absurd h (by decide)
  | timestamp t =>
    refine balanced_tagged (w := ['T', 'I', 'M', 'E', 'S', 'T', 'A', 'M', 'P', ' ']) (by decide)
      t.quote_not_mem_text ?_
    intro back
    rcases Instant.mem_text back with h | h | h | h | h <;> exact absurd h (by decide)

/-! ### Expressions -/

theorem balanced_random (l : Lexer) : l.Balanced l.dialect.random := by
  have called {w : List Char} (word : w.all isInert = true) : l.Balanced (w ++ ['(', ')']) :=
    (Balanced.inert word).append (.group (x := []) rfl)
  unfold Dialect.random
  split
  · exact called (w := ['R', 'A', 'N', 'D']) (by decide)
  · exact called (w := ['R', 'A', 'N', 'D', 'O', 'M']) (by decide)
  · exact called (w := ['R', 'A', 'N', 'D', 'O', 'M']) (by decide)
  · next polars =>
    rw [← polars]
    exact balanced_ident (by rw [polars]; decide)

theorem balanced_commaSep {xs : List (List Char)} (balanced : ∀ x ∈ xs, l.Balanced x) :
    l.Balanced (Expr.commaSep xs) := .intercalate (.inert (by decide)) balanced

theorem balanced_symbol (l : Lexer) (op : BinaryOp) : l.Balanced (' ' :: op.symbol ++ [' ']) := by
  have blank : l.Balanced [' '] := .inert (by decide)
  cases op with
  | minus => exact blank.append (.sign (.inl rfl))
  | divide => exact blank.append (.sign (.inr rfl))
  | _ => exact .inert (by decide)

theorem balanced_joinTerms {word empty : String} (separator : l.Balanced word.toList) (none : l.Balanced empty.toList)
    {xs : List (List Char)} (balanced : ∀ x ∈ xs, l.Balanced x) : l.Balanced (Expr.joinTerms word empty xs) := by
  unfold Expr.joinTerms
  split
  · exact none
  · exact balanced _ List.mem_cons_self
  · exact .group (Balanced.intercalate separator balanced)

theorem balanced_notWord (negated : Bool) : l.Balanced (Expr.notWord negated) := by
  cases negated with
  | true => exact .inert (x := ['N', 'O', 'T', ' ']) (by decide)
  | false => exact .nil

end Lexer

namespace Expr

theorem balanced_sqls {es : List Expr} (balanced : ∀ e ∈ es, l.Balanced (e.sql l.dialect)) :
    ∀ x ∈ sqls l.dialect es, l.Balanced x := by
  rw [sqls_eq_map]
  exact List.forall_mem_map.mpr balanced

/-- No expression begins a comment, whatever its values are. -/
theorem Enclosed.balanced {e : Expr} (enclosed : e.Enclosed l.dialect) : l.Balanced (e.sql l.dialect) := by
  induction e using Expr.induct with
  | column name => exact balanced_ident (enclosed.own.1 name rfl)
  | wildcard => exact .inert (x := ['*']) (by decide)
  | literal value => exact balanced_literal value
  | random => exact balanced_random l
  | call name args ih =>
    have inside := balanced_commaSep (balanced_sqls fun e member => ih e member (enclosed.inside member))
    obtain ⟨word, -⟩ := enclosed.own.2 name rfl
    simp only [isWord, Bool.and_eq_true] at word
    rw [sql, List.append_assoc]
    exact (Balanced.word (List.all_eq_true.mp word.2)).append (.group inside)
  | binary op a b ihA ihB =>
    have first := ihA (enclosed.inside (by simp [children]))
    have second := ihB (enclosed.inside (by simp [children]))
    rw [sql_binary]
    exact .group (first.append ((balanced_symbol l op).append second))
  | all terms ih =>
    exact balanced_joinTerms (.inert (by decide)) (.inert (by decide))
      (balanced_sqls fun e member => ih e member (enclosed.inside member))
  | any terms ih =>
    exact balanced_joinTerms (.inert (by decide)) (.inert (by decide))
      (balanced_sqls fun e member => ih e member (enclosed.inside member))
  | not e ih =>
    rw [sql_not]
    exact .group ((Balanced.inert (by decide)).append (ih (enclosed.inside List.mem_cons_self)))
  | inList e items negated ih ihItems =>
    have first := ih (enclosed.inside List.mem_cons_self)
    have list := balanced_commaSep
      (balanced_sqls fun x member => ihItems x member (enclosed.inside (List.mem_cons_of_mem e member)))
    rw [sql_inList]
    exact .group (first.between (by decide)
      ((balanced_notWord negated).between (by decide) (.group list)))
  | between e low high ih ihLow ihHigh =>
    have first := ih (enclosed.inside (by simp [children]))
    have second := ihLow (enclosed.inside (by simp [children]))
    have third := ihHigh (enclosed.inside (by simp [children]))
    rw [sql_between]
    exact .group (first.between (by decide) (second.between (by decide) third))
  | isNull e negated ih =>
    have first := ih (enclosed.inside List.mem_cons_self)
    rw [sql_isNull]
    exact .group (first.between (by decide) ((balanced_notWord negated).append (.inert (by decide))))
  | named e name ih =>
    rw [sql_named]
    exact (ih (enclosed.inside List.mem_cons_self)).between (by decide)
      (balanced_ident (enclosed.own.1 name rfl))

theorem balanced_list {es : List Expr} (enclosed : ∀ e ∈ es, e.Enclosed l.dialect) :
    l.Balanced (commaSep (es.map (sql l.dialect))) :=
  balanced_commaSep (List.forall_mem_map.mpr fun e member => (enclosed e member).balanced)

end Expr

/-! ### Clauses -/

theorem balanced_orderBy {o : OrderBy} (enclosed : o.expr.Enclosed l.dialect) : l.Balanced (o.sql l.dialect) := by
  unfold OrderBy.sql
  cases o.ascending with
  | true => exact enclosed.balanced.append (.inert (x := [' ', 'A', 'S', 'C']) (by decide))
  | false => exact enclosed.balanced.append (.inert (x := [' ', 'D', 'E', 'S', 'C']) (by decide))

namespace Select

/-- The clauses of a select without common table expressions are balanced if its source is. -/
theorem balanced_content {q : Select} (exprs : ∀ e ∈ q.ownExprs, e.Enclosed l.dialect) (ctes : q.ctes = [])
    (source : l.Balanced (q.content l.dialect .source)) (k : Clause) : l.Balanced (q.content l.dialect k) := by
  cases k with
  | ctes =>
    rw [content, ctes]
    exact .nil
  | projection =>
    unfold content
    dsimp only
    split
    · exact .inert (by decide)
    · exact Expr.balanced_list fun e member => exprs e (by simp [ownExprs, member])
  | source => exact source
  | selection =>
    cases found : q.selection with
    | none => simpa [content, found] using .nil
    | some e => simpa [content, found] using (exprs e (by simp [ownExprs, found])).balanced
  | groupBy => exact Expr.balanced_list fun e member => exprs e (by simp [ownExprs, member])
  | orderBy =>
    refine balanced_commaSep (List.forall_mem_map.mpr ?_)
    intro o member
    exact balanced_orderBy (exprs o.expr (List.mem_append_right _ (List.mem_map_of_mem member)))
  | limit =>
    cases found : q.limit with
    | none => simpa [content, found] using .nil
    | some n => simpa [content, found] using balanced_natText n

end Select

theorem Clause.balanced_text (k : Clause) {x : List Char} (balanced : l.Balanced x) : l.Balanced (k.text x) := by
  have spelled : k.text x = (k.keyword ++ [' ']) ++ x := by simp [text]
  rw [spelled]
  exact (Balanced.inert (by cases k <;> decide)).append balanced

theorem Select.intercalate_split {α : Type} (f : α → List Char) (before : List α) (x : α) (after : List α) :
    List.intercalate [' '] ((before ++ x :: after).map f) =
      before.flatMap (fun y => f y ++ [' ']) ++ f x ++ after.flatMap fun y => ' ' :: f y := by
  induction before with
  | nil => simp [intercalate_blank, List.flatMap_map]
  | cons y before ih =>
    rw [List.cons_append, List.map_cons, List.intercalate_cons_of_ne_nil (by simp), ih, List.flatMap_cons]
    simp only [List.append_assoc]

/-- The lexer stands in front of each clause, and behind the last, where it stood in front of the first. -/
theorem Select.balanced_clauses {q : Select} (balanced : ∀ k, l.Balanced (q.content l.dialect k)) :
    l.Balanced (q.sql l.dialect) ∧ ∀ k ∈ q.clauses, ∃ before after,
      q.sql l.dialect = before ++ k.text (q.content l.dialect k) ++ after ∧ l.Balanced before := by
  have texts (k : Clause) : l.Balanced (k.text (q.content l.dialect k)) := k.balanced_text (balanced k)
  have blank : l.Balanced [' '] := .inert (by decide)
  rw [sql_eq_clauses]
  refine ⟨.intercalate blank (List.forall_mem_map.mpr fun k _ => texts k), ?_⟩
  intro k member
  obtain ⟨before, after, split⟩ := List.append_of_mem member
  rw [split]
  exact ⟨_, _, intercalate_split (fun k => k.text (q.content l.dialect k)) before k after,
    .flatMap fun k _ => (texts k).append blank⟩

end Profiling
