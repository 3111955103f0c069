import Profiling.Proofs.Runner.CustomQuery
import Profiling.Proofs.Runner.Resolution
import Profiling.Proofs.Sql.CommentFree

/-!
# Custom queries in brackets

The text of a custom query stands in brackets as it is. The bracket behind it closes the one in front of
it unless the query ends in a comment, which then takes in the bracket and what follows it in the line.
-/

namespace Profiling

open Text Lexer

variable {l : Lexer}

/-! ### Normalised texts -/

namespace Lexer

def QuotesIn (d : Dialect) : Mode → Prop
  | .quoted q _ => d.isQuote q = true
  | _ => True

theorem quotesIn_next {mode : Mode} (quotes : QuotesIn l.dialect mode) (c : Char) :
    QuotesIn l.dialect (l.next mode c) := by
  cases mode with
  | code half =>
    simp only [next]
    split_ifs with line block quote
    exacts [trivial, trivial, quote, trivial]
  | quoted q escaped =>
    cases escaped with
    | true => exact quotes
    | false =>
      simp only [next]
      split_ifs
      exacts [quotes, trivial, quotes]
  | line =>
    simp only [next]
    split_ifs <;> trivial
  | block outer half =>
    simp only [next]
    split_ifs
    · cases outer <;> trivial
    · trivial
    · trivial

theorem quotesIn_run {s t : State} {x : List Char} (quotes : QuotesIn l.dialect s.mode) (h : l.run s x = some t) :
    QuotesIn l.dialect t.mode := by
  induction x generalizing s with
  | nil =>
    obtain rfl := Option.some.inj h
    exact quotes
  | cons c x ih =>
    rw [run_cons] at h
    obtain ⟨middle, first, rest⟩ := Option.bind_eq_some_iff.mp h
    obtain ⟨depth, -, rfl⟩ := Option.map_eq_some_iff.mp first
    exact ih (quotesIn_next quotes c) rest

theorem plain_of_isFiller {c : Char} (filler : isFiller c = true) :
    isInert c = true ∧ c ≠ '\\' ∧ c ≠ '*' := by
  have noFiller : special.all (fun c => !isFiller c) = true := by decide
  refine ⟨?_, ?_, ?_⟩
  · rw [isInert, Bool.not_eq_true', ← Bool.not_eq_true, List.contains_iff_mem]
    intro meant
    have other := List.all_eq_true.mp noFiller c meant
    rw [filler] at other
    cases other
  · rintro rfl
    cases filler
  · rintro rfl
    cases filler

/-- Filler opens and closes nothing: where a text may end behind it, it may end in front of it. -/
theorem mayEnd_of_next {mode : Mode} {c : Char} (filler : isFiller c = true) (quotes : QuotesIn l.dialect mode)
    (ends : mayEnd (l.next mode c) = true) : mayEnd mode = true := by
  obtain ⟨inert, back, star⟩ := plain_of_isFiller filler
  cases mode with
  | code half => rfl
  | line => rfl
  | quoted q escaped =>
    have other : c ≠ q := by
      rintro rfl
      rw [QuotesIn, isQuote_of_isInert inert] at quotes
      cases quotes
    cases escaped with
    | true => cases ends
    | false => simp [next, back, other, mayEnd] at ends
  | block outer half =>
    have slash : c ≠ '/' := by
      rintro rfl
      cases inert
    simp [next, slash, star, mayEnd] at ends

theorem mayEnd_of_run {s t : State} {x : List Char} (filler : ∀ c ∈ x, isFiller c = true)
    (quotes : QuotesIn l.dialect s.mode) (h : l.run s x = some t) (ends : mayEnd t.mode = true) :
    mayEnd s.mode = true ∧ s.depth = t.depth := by
  induction x generalizing s with
  | nil =>
    obtain rfl := Option.some.inj h
    exact ⟨ends, rfl⟩
  | cons c x ih =>
    obtain ⟨first, others⟩ := List.forall_mem_cons.mp filler
    rw [run_cons] at h
    obtain ⟨middle, moved, rest⟩ := Option.bind_eq_some_iff.mp h
    obtain ⟨depth, behind, rfl⟩ := Option.map_eq_some_iff.mp moved
    obtain ⟨later, same⟩ := ih others (quotesIn_next quotes c) rest
    rw [depthBehind_of_isInert (plain_of_isFiller first).1] at behind
    exact ⟨mayEnd_of_next first quotes later, (Option.some.inj behind).trans same⟩

/-- What normalising takes off a complete text leaves a complete one. -/
theorem Complete.inner {x : List Char} (complete : l.Complete x) : l.Complete (Text.inner x) := by
  obtain ⟨mode, read, ends⟩ := complete
  obtain ⟨before, gap, semicolons, after, split, leading, blanks, semis, trailing⟩ := exists_around x
  have skipped : l.run top before = some top := by
    refine run_inert ?_ 0
    intro c member
    exact (plain_of_isFiller (by simp [isFiller, leading c member])).1
  rw [split, run_append, run_append, skipped] at read
  obtain ⟨s, alone, rest⟩ := Option.bind_eq_some_iff.mp read
  have quotes : QuotesIn l.dialect s.mode := quotesIn_run (s := top) trivial alone
  obtain ⟨mayEnd, depth⟩ := mayEnd_of_run (fun c => isFiller_around blanks semis trailing) quotes rest ends
  obtain ⟨n, mode'⟩ := s
  obtain rfl : n = 0 := depth
  exact ⟨mode', alone, mayEnd⟩

end Lexer

/-! ### Statements -/

namespace Select

/-- The text of a statement up to the bracket in front of a custom query. -/
def front (d : Dialect) (q : Select) : List Char := q.projectionClause d ++ " FROM ".toList

/-- The text of a statement from the bracket behind a custom query on. -/
def tail (d : Dialect) (q : Select) : List Char :=
  ") AS ".toList ++ customQueryAlias.toList ++ q.whereClause d ++ q.groupByClause d ++ q.orderByClause d ++
    q.limitClause

theorem ReadsQuery.sql_eq {q : Select} {query : String} (reads : q.ReadsQuery query) (d : Dialect) :
    q.sql d = q.front d ++ '(' :: query.toList ++ q.tail d := by
  have clause : q.fromClause d = " FROM ".toList ++
      ('(' :: query.toList ++ ") AS ".toList ++ customQueryAlias.toList) := by
    rw [fromClause, reads.source]
    rfl
  have noCtes : q.sql d = q.body d := by
    rw [Select.sql_eq, reads.ctes]
    rfl
  rw [noCtes, body, clause]
  unfold front tail
  simp only [List.append_assoc, List.cons_append]

structure Wraps (l : Lexer) (q : Select) (query : String) : Prop where
  text : q.sql l.dialect = q.front l.dialect ++ '(' :: query.toList ++ q.tail l.dialect
  closes_iff : l.ReadsGroup (q.front l.dialect) query.toList ↔
    (∃ n half, l.run top (q.front l.dialect) = some ⟨n, .code half⟩) ∧ ¬ l.EndsInComment query.toList
  /-- A comment at the end of the query takes in what stands in its line, the bracket first. -/
  swallows : l.EndsInComment query.toList →
    ∀ n half, l.run top (q.front l.dialect) = some ⟨n, .code half⟩ → ∀ x, x <+: q.tail l.dialect →
      (∀ c ∈ x, endsLine c = false) →
        l.run top (q.front l.dialect ++ '(' :: query.toList ++ x) = some ⟨n + 1, .line⟩
  /-- Where names are plain, the bracket stands outside of quotes, brackets and comments. -/
  front : (∀ e ∈ q.projection, e.Enclosed l.dialect) → l.run top (q.front l.dialect) = some top
  clauses : (∀ e ∈ q.ownExprs, e.Enclosed l.dialect) → ¬ l.EndsInComment query.toList →
    l.Balanced (q.sql l.dialect) ∧ ∀ k ∈ q.clauses, ∃ before after,
      q.sql l.dialect = before ++ k.text (q.content l.dialect k) ++ after ∧ l.Balanced before

theorem balanced_front {q : Select} (plain : ∀ e ∈ q.projection, e.Enclosed l.dialect) :
    l.Balanced (q.front l.dialect) := by
  have shown : l.Balanced (q.content l.dialect .projection) := by
    unfold content
    dsimp only
    split
    · exact .inert (by decide)
    · exact Expr.balanced_list plain
  rw [front, projectionClause_eq]
  exact (Clause.projection.balanced_text shown).append (.inert (by decide))

theorem balanced_source {q : Select} {query : String} (reads : q.ReadsQuery query)
    (complete : l.Complete query.toList) (noComment : ¬ l.EndsInComment query.toList) :
    l.Balanced (q.content l.dialect .source) := by
  obtain ⟨half, alone⟩ := code_of_complete complete noComment
  have spelled : q.content l.dialect .source =
      ('(' :: query.toList ++ [')']) ++ [' ', 'A', 'S', ' ', 's', 'u', 'b', 'q', 'u', 'e', 'r', 'y'] := by
    rw [content, reads.source]
    show '(' :: query.toList ++ ") AS ".toList ++ customQueryAlias.toList = _
    rw [List.append_assoc, List.append_assoc]
    rfl
  rw [spelled]
  exact (Balanced.group alone).append (.inert (by decide))

theorem ReadsQuery.wraps {q : Select} {query : String} (reads : q.ReadsQuery query)
    (complete : l.Complete query.toList) : q.Wraps l query where
  text := reads.sql_eq l.dialect
  closes_iff := readsGroup_iff complete
  swallows comment _ _ stands _ _ line := run_behind_comment stands comment line
  front := balanced_front
  clauses plain noComment :=
    balanced_clauses (balanced_content plain reads.ctes (balanced_source reads complete noComment))

end Select

namespace Runner

theorem customQuery_withCustomQuery (r : Runner) (sql : Option String) :
    (r.withCustomQuery sql).customQuery = sql.bind normalizeCustomQuery := rfl

theorem withCustomQuery_eq {text query : String} (normalized : normalizeCustomQuery text = some query) (r : Runner) :
    r.withCustomQuery (some text) = { r with customQuery := some query } := by
  rw [withCustomQuery, Option.bind_some, normalized]

/-- In every statement over a custom query that closes what it opens, the bracket behind the query closes
the one in front of it exactly if code stands there and the query does not end in a comment. -/
theorem wraps_custom_query {r : Runner} {text query : String} (complete : l.Complete text.toList)
    (accepted : (r.withCustomQuery (some text)).customQuery = some query) {policy : FetchPolicy}
    {entities : List Expr} {args : QueryArgs} {now : Instant} {q : Select}
    (built : (r.withCustomQuery (some text)).statement policy entities args now = .ok q) : q.Wraps l query := by
  obtain ⟨source, ctes⟩ := sources_of_statement built
  rw [target_of_customQuery accepted] at source ctes
  rw [customQuery_withCustomQuery, Option.bind_some] at accepted
  obtain ⟨-, kept⟩ := normalizeCustomQuery_eq_some.mp accepted
  have whole : l.Complete query.toList := kept ▸ complete.inner
  exact (Select.readsQuery source ctes).wraps whole

/-- A comment that ends with a line of the query leaves the bracket to close it, and the condition of a
partition to narrow it. -/
theorem inner_comment_wrapped :
    let l : Lexer := ⟨.polars, true⟩
    let text := "SELECT id -- the key\nFROM orders;"
    let query := "SELECT id -- the key\nFROM orders"
    let r : Runner :=
      { table := { name := "orders", columns := [⟨"id", .integer⟩] }, partition := some ⟨"id", .integerRange 1 9⟩ }
    let now := Instant.ofSeconds 0 0 (by decide)
    ∃ q, l.Complete text.toList ∧ (r.withCustomQuery (some text)).customQuery = some query ∧
      (r.withCustomQuery (some text)).statement ⟨.table, .first, true⟩ [.column "id"] {} now = .ok q ∧
      l.ReadsGroup (q.front .polars) query.toList ∧
      q.clauses = [.projection, .source, .selection, .limit] ∧ l.Balanced (q.sql .polars) := by
  intro l text query r now
  have complete : l.Complete text.toList := ⟨.code .none, by decide, rfl⟩
  have bound : r.withCustomQuery (some text) = { r with customQuery := some query } :=
    withCustomQuery_eq (by decide) r
  have accepted : (r.withCustomQuery (some text)).customQuery = some query := by rw [bound]
  obtain ⟨q, built, plain, clauses⟩ :
      ∃ q, ({ r with customQuery := some query } : Runner).statement ⟨.table, .first, true⟩ [.column "id"] {} now =
        .ok q ∧ (∀ e ∈ q.ownExprs, e.Enclosed .polars) ∧ q.clauses = [.projection, .source, .selection, .limit] :=
    ⟨_, rfl, by decide, by decide⟩
  rw [← bound] at built
  have noComment : ¬ l.EndsInComment query.toList := by
    unfold EndsInComment
    decide
  have wraps := wraps_custom_query complete accepted built
  have front := wraps.front fun e member => plain e (by simp [Select.ownExprs, member])
  exact ⟨q, complete, accepted, built, wraps.closes_iff.mpr ⟨⟨0, .none, front⟩, noComment⟩, clauses,
    (wraps.clauses plain noComment).1⟩

/-- A comment in the last line of a query takes in the bracket behind it and the limit of the statement. -/
theorem last_comment_swallows :
    let l : Lexer := ⟨.polars, true⟩
    let text := "SELECT id FROM orders -- all of them\n"
    let query := "SELECT id FROM orders -- all of them"
    let r : Runner := { table := { name := "orders", columns := [⟨"id", .integer⟩] } }
    let now := Instant.ofSeconds 0 0 (by decide)
    ∃ q, l.Complete text.toList ∧ (r.withCustomQuery (some text)).customQuery = some query ∧
      (r.withCustomQuery (some text)).statement ⟨.table, .first, true⟩ [] {} now = .ok q ∧
      q.toSql .polars = "SELECT * FROM (SELECT id FROM orders -- all of them) AS subquery LIMIT 1" ∧
      ¬ l.ReadsGroup (q.front .polars) query.toList ∧ l.run top (q.sql .polars) = some ⟨1, .line⟩ := by
  intro l text query r now
  have complete : l.Complete text.toList := ⟨.code .none, by decide, rfl⟩
  have comment : l.EndsInComment query.toList := by
    unfold EndsInComment
    decide
  have bound : r.withCustomQuery (some text) = { r with customQuery := some query } :=
    withCustomQuery_eq (by decide) r
  rw [bound]
  obtain ⟨q, built, written⟩ :
      ∃ q, ({ r with customQuery := some query } : Runner).statement ⟨.table, .first, true⟩ [] {} now = .ok q ∧
        q.sql .polars = "SELECT * FROM (SELECT id FROM orders -- all of them) AS subquery LIMIT 1".toList :=
    ⟨_, rfl, by decide⟩
  refine ⟨q, complete, rfl, built, ?_, ?_, ?_⟩
  · rw [Select.toSql, written, String.ofList_toList]
  · intro closed
    exact ((readsGroup_iff ⟨.line, comment, rfl⟩).mp closed).2 comment
  · rw [written]
    decide

end Runner

end Profiling
