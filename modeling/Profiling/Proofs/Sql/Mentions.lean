import Profiling.Proofs.Sql.Clauses

/-!
# Words that statements mention

Statements are written in capitals, digits and signs, but for the names, the strings and the queries that
are put into them, and signs stand around each of these. So a word of small letters and low lines is found
in the text of a statement only where one of these has it, or where random numbers are spelled with it.
-/

namespace Profiling

namespace Text

variable {w a b x : List Char} {c : Char}

/-! ### Words beside other characters -/

theorem prefix_append_cons (outside : c ∉ w) (a b : List Char) : w <+: a ++ c :: b ↔ w <+: a := by
  induction a generalizing w with
  | nil =>
    rw [List.nil_append, List.prefix_cons_iff, List.prefix_nil]
    constructor
    · rintro (none | ⟨rest, rfl, -⟩)
      · exact none
      · exact absurd List.mem_cons_self outside
    · exact .inl
  | cons d a ih =>
    cases w with
    | nil => simp
    | cons e w =>
      rw [List.cons_append, List.cons_prefix_cons, List.cons_prefix_cons,
        ih fun member => outside (List.mem_cons_of_mem e member)]

/-- No occurrence of a word goes past a character that it does not have. -/
theorem infix_append_cons (outside : c ∉ w) (a b : List Char) : w <:+: a ++ c :: b ↔ w <:+: a ∨ w <:+: b := by
  induction a with
  | nil =>
    have first : w <+: c :: b ↔ w <+: [] := prefix_append_cons outside [] b
    rw [List.nil_append, List.infix_cons_iff, first, List.prefix_nil, List.infix_nil]
  | cons d a ih =>
    rw [List.cons_append, List.infix_cons_iff, List.infix_cons_iff, ih, ← List.cons_append,
      prefix_append_cons outside, or_assoc]

theorem infix_cons_of_outside (outside : c ∉ w) (x : List Char) : w <:+: c :: x ↔ w <:+: x := by
  have split := infix_append_cons outside [] x
  rw [List.nil_append, List.infix_nil] at split
  rw [split]
  constructor
  · rintro (rfl | there)
    · exact List.nil_infix
    · exact there
  · exact .inr

theorem infix_append_of_outside (outside : ∀ c ∈ a, c ∉ w) (b : List Char) : w <:+: a ++ b ↔ w <:+: b := by
  induction a with
  | nil => rfl
  | cons c a ih =>
    obtain ⟨first, later⟩ := List.forall_mem_cons.mp outside
    rw [List.cons_append, infix_cons_of_outside first, ih later]

theorem infix_concat_of_outside (outside : c ∉ w) (x : List Char) : w <:+: x ++ [c] ↔ w <:+: x := by
  rw [infix_append_cons outside, List.infix_nil]
  constructor
  · rintro (there | rfl)
    · exact there
    · exact List.nil_infix
  · exact .inl

/-! ### Words in quotes -/

/-- A text with a character more in front of some, where a word has neither of the two. -/
inductive Guards (w : List Char) : List Char → List Char → Prop where
  | nil : Guards w [] []
  | keep (c : Char) {s x : List Char} : Guards w s x → Guards w (c :: s) (c :: x)
  | guard {c d : Char} {s x : List Char} : c ∉ w → d ∉ w → Guards w s x → Guards w (c :: s) (d :: c :: x)

theorem Guards.prefix_iff {s v : List Char} (guards : Guards w s x) (inside : ∀ c ∈ v, c ∈ w) :
    v <+: x ↔ v <+: s := by
  induction guards generalizing v with
  | nil => rfl
  | keep c _ ih =>
    cases v with
    | nil => simp
    | cons e v =>
      rw [List.cons_prefix_cons, List.cons_prefix_cons, ih fun c member => inside c (List.mem_cons_of_mem e member)]
  | guard own before _ _ =>
    -- Neither text begins with a character of the word.
    cases v with
    | nil => simp
    | cons e v =>
      have first : e ∈ w := inside e List.mem_cons_self
      rw [List.cons_prefix_cons, List.cons_prefix_cons]
      exact iff_of_false (fun h => before (h.1 ▸ first)) fun h => own (h.1 ▸ first)

theorem Guards.infix_iff {s : List Char} (guards : Guards w s x) : w <:+: x ↔ w <:+: s := by
  induction guards with
  | nil => rfl
  | keep c rest ih =>
    rw [List.infix_cons_iff, List.infix_cons_iff, (rest.keep c).prefix_iff fun _ => id, ih]
  | guard own before _ ih =>
    rw [infix_cons_of_outside before, infix_cons_of_outside own, infix_cons_of_outside own, ih]

theorem guards_doubleLone {q : Char} (quote : q ∉ w) (escaped : Bool) (s : List Char) :
    Guards w s (doubleLone q escaped s) := by
  fun_induction doubleLone q escaped s with
  | case1 => exact .nil
  | case2 rest ih => exact .keep _ ih
  | case3 c rest _ ih => exact .keep c ih
  | case4 => exact .guard quote quote .nil
  | case5 c => exact .keep c .nil
  | case6 rest ih => exact .keep _ (.keep _ ih)
  | case7 d rest _ ih => exact .guard quote quote (.keep d ih)
  | case8 c d rest _ ih => exact .keep c ih

theorem guards_doubleAll {q : Char} (quote : q ∉ w) (s : List Char) : Guards w s (doubleAll q s) := by
  induction s with
  | nil => exact .nil
  | cons c s ih =>
    rw [doubleAll_cons]
    split
    · next same =>
      subst same
      exact .guard quote quote ih
    · exact .keep c ih

theorem guards_escapeAll {q : Char} (quote : q ∉ w) (backslash : '\\' ∉ w) (s : List Char) :
    Guards w s (escapeAll q s) := by
  induction s with
  | nil => exact .nil
  | cons c s ih =>
    rw [escapeAll_cons]
    split
    · next marked =>
      have own : c ∉ w := by
        simp only [Bool.or_eq_true, decide_eq_true_eq] at marked
        rcases marked with rfl | rfl
        · exact quote
        · exact backslash
      exact .guard own backslash ih
    · exact .keep c ih

theorem infix_quoted {q : Char} {s : List Char} (quote : q ∉ w) (guards : Guards w s x) :
    w <:+: q :: x ++ [q] ↔ w <:+: s := by
  rw [List.cons_append, infix_cons_of_outside quote, infix_concat_of_outside quote, guards.infix_iff]

end Text

open Text

/-! ### Words that are only put into statements -/

/-- A character that no statement is written with, its numbers apart. -/
def isInner (c : Char) : Bool := c == '_' || c.isLower

/-- Whether a text has only characters that statements are written with. -/
def isOuter (x : List Char) : Bool := x.all fun c => !isInner c

structure IsInnerWord (w : List Char) : Prop where
  chars : ∀ c ∈ w, isInner c = true
  lowLine : '_' ∈ w

namespace IsInnerWord

variable {w a b x sep : List Char}

theorem outside (word : IsInnerWord w) {c : Char} (other : isInner c = false) : c ∉ w := by
  intro member
  rw [word.chars c member] at other
  cases other

theorem outside_of_isOuter (word : IsInnerWord w) (others : isOuter x = true) : ∀ c ∈ x, c ∉ w := fun c member =>
  word.outside ((Bool.not_eq_true' _).mp (List.all_eq_true.mp others c member))

theorem not_infix (word : IsInnerWord w) (none : '_' ∉ x) : ¬ w <:+: x :=
  fun there => none (there.subset word.lowLine)

theorem infix_group (word : IsInnerWord w) (x : List Char) : w <:+: '(' :: x ++ [')'] ↔ w <:+: x := by
  rw [List.cons_append, infix_cons_of_outside (word.outside (by decide)),
    infix_concat_of_outside (word.outside (by decide))]

theorem infix_behind (word : IsInnerWord w) (others : isOuter sep = true) (x : List Char) :
    w <:+: sep ++ x ↔ w <:+: x :=
  infix_append_of_outside (word.outside_of_isOuter others) x

/-- On both sides of signs and capitals a word is found on its own. -/
theorem infix_between (word : IsInnerWord w) (filled : sep ≠ []) (others : isOuter sep = true)
    (a b : List Char) : w <:+: a ++ (sep ++ b) ↔ w <:+: a ∨ w <:+: b := by
  cases sep with
  | nil => exact absurd rfl filled
  | cons c sep =>
    obtain ⟨first, later⟩ := List.forall_mem_cons.mp (word.outside_of_isOuter others)
    rw [List.cons_append, infix_append_cons first, infix_append_of_outside later]

theorem infix_intercalate (word : IsInnerWord w) (filled : sep ≠ []) (others : isOuter sep = true)
    (xs : List (List Char)) : w <:+: List.intercalate sep xs ↔ ∃ x ∈ xs, w <:+: x := by
  induction xs with
  | nil => simpa using List.ne_nil_of_mem word.lowLine
  | cons x xs ih =>
    cases xs with
    | nil => simp
    | cons y ys =>
      rw [List.intercalate_cons_cons, List.append_assoc, word.infix_between filled others, ih]
      simp only [List.mem_cons, or_and_right, exists_or, exists_eq_left]

end IsInnerWord

namespace Expr

variable {d : Dialect} {w : List Char}

theorem infix_commaSep (word : IsInnerWord w) (xs : List (List Char)) : w <:+: commaSep xs ↔ ∃ x ∈ xs, w <:+: x :=
  word.infix_intercalate (by decide) (by decide) xs

theorem infix_joinTerms (word : IsInnerWord w) {separator empty : String} (filled : separator.toList ≠ [])
    (others : isOuter separator.toList = true) (none : '_' ∉ empty.toList) (xs : List (List Char)) :
    w <:+: joinTerms separator empty xs ↔ ∃ x ∈ xs, w <:+: x := by
  unfold joinTerms
  split
  · simpa using word.not_infix none
  · simp
  · rw [word.infix_group, word.infix_intercalate filled others]

/-- The text that an expression itself puts into a statement. -/
def ownText? : Expr → Option String
  | column name => some name
  | named _ name => some name
  | call name _ => some name
  | literal (.string s) => some s
  | _ => none

/-- Whether a word is in what an expression itself is written with. -/
def Brings (d : Dialect) (w : List Char) (e : Expr) : Prop :=
  (∃ t, e.ownText? = some t ∧ w <:+: t.toList) ∨ (e = random ∧ w <:+: d.random)

/-- Whether a word is in what an expression or a part of it is written with. -/
def Mentions (d : Dialect) (w : List Char) (e : Expr) : Prop := ∃ p ∈ e.parts, p.Brings d w

theorem mentions_iff {e : Expr} : e.Mentions d w ↔ e.Brings d w ∨ ∃ c ∈ e.children, c.Mentions d w := by
  unfold Mentions
  simp only [parts_eq e, List.mem_cons, or_and_right, exists_or, exists_eq_left, List.mem_flatMap]
  refine or_congr_right ⟨?_, ?_⟩
  · rintro ⟨p, ⟨c, child, part⟩, brings⟩
    exact ⟨c, child, p, part, brings⟩
  · rintro ⟨c, child, p, part, brings⟩
    exact ⟨p, ⟨c, child, part⟩, brings⟩

theorem infix_ident (word : IsInnerWord w) (d : Dialect) (name : String) : w <:+: d.ident name ↔ w <:+: name.toList := by
  have quote : d.nameQuote ∉ w := word.outside (by cases d <;> decide)
  exact infix_quoted quote (guards_doubleLone quote false name.toList)

theorem infix_string (word : IsInnerWord w) (d : Dialect) (s : String) : w <:+: d.string s ↔ w <:+: s.toList := by
  have quote : '\'' ∉ w := word.outside (by decide)
  cases d with
  | bigQuery => exact infix_quoted quote (guards_escapeAll quote (word.outside (by decide)) s.toList)
  | _ => exact infix_quoted quote (guards_doubleAll quote s.toList)

theorem lowLine_not_mem_plainText (x : Float) : '_' ∉ plainText x := by
  rcases plainText_cases x with nan | inf | number
  · rw [nan]
    decide
  · rw [inf, List.mem_append, not_or]
    refine ⟨fun sign => ?_, by decide⟩
    exact absurd (mem_signText sign) (by decide)
  · intro member
    rcases number _ member with h | h | h <;> exact absurd h (by decide)

theorem lowLine_not_mem_floatText (x : Float) : '_' ∉ Literal.floatText x := by
  cases finite : x.isFinite with
  | false =>
    rw [Literal.floatText_of_not_finite finite]
    decide
  | true =>
    have digits := lowLine_not_mem_plainText x
    rw [Literal.floatText, if_pos finite]
    dsimp only
    split
    · exact digits
    · rw [List.mem_append, not_or]
      exact ⟨digits, by decide⟩

theorem lowLine_not_mem_tagged {kind text : List Char} (inKind : '_' ∉ kind) (inText : '_' ∉ text) :
    '_' ∉ kind ++ text ++ ['\''] := by
  simp [inKind, inText]

/-- No literal but a string has a low line. -/
theorem infix_literal (word : IsInnerWord w) (d : Dialect) (v : Literal) :
    w <:+: v.sql d ↔ (literal v).Brings d w := by
  have others (none : '_' ∉ v.sql d) (noText : (literal v).ownText? = Option.none) :
      w <:+: v.sql d ↔ (literal v).Brings d w := by
    simp [Brings, noText, word.not_infix none]
  cases v with
  | string s =>
    have brings : (literal (.string s)).Brings d w ↔ w <:+: s.toList := by simp [Brings, ownText?]
    rw [brings]
    exact infix_string word d s
  | null => exact others (by show '_' ∉ "NULL".toList; decide) rfl
  | bool b =>
    refine others ?_ rfl
    cases b
    · show '_' ∉ "FALSE".toList
      decide
    · show '_' ∉ "TRUE".toList
      decide
  | int n =>
    refine others (fun member => ?_) rfl
    rcases mem_intText member with h | h <;> exact absurd h (by decide)
  | float x => exact others (lowLine_not_mem_floatText x) rfl
  | date day =>
    refine others (lowLine_not_mem_tagged (by decide) fun member => ?_) rfl
    rcases Date.mem_text member with h | h | h <;> exact absurd h (by decide)
  | timestamp t =>
    refine others (lowLine_not_mem_tagged (by decide) fun member => ?_) rfl
    rcases Instant.mem_text member with h | h | h | h | h <;> exact absurd h (by decide)

theorem infix_sqls {es : List Expr} (each : ∀ e ∈ es, (w <:+: e.sql d ↔ e.Mentions d w)) :
    (∃ x ∈ sqls d es, w <:+: x) ↔ ∃ e ∈ es, e.Mentions d w := by
  simp only [sqls_eq_map, List.mem_map, exists_exists_and_eq_and]
  exact exists_congr fun e => and_congr_right (each e)

theorem isOuter_notWord (negated : Bool) : isOuter (notWord negated) = true := by
  cases negated <;> decide

/-- A word is in the text of an expression exactly if it is in what the expression or a part of it is written
with. -/
theorem infix_sql (word : IsInnerWord w) (d : Dialect) (e : Expr) : w <:+: e.sql d ↔ e.Mentions d w := by
  -- Each constructor spells its children with capitals and signs between them, so the word is in one of them.
  induction e using Expr.induct with
  | column name =>
    have brings : (column name).Brings d w ↔ w <:+: name.toList := by simp [Brings, ownText?]
    rw [mentions_iff, sql, infix_ident word, brings]
    simp [children]
  | wildcard =>
    have star : ¬ w <:+: wildcard.sql d := word.not_infix (by show '_' ∉ ['*']; decide)
    rw [mentions_iff]
    simp [star, Brings, ownText?, children]
  | literal value =>
    rw [mentions_iff, sql, infix_literal word]
    simp [children]
  | random =>
    rw [mentions_iff]
    simp [Brings, ownText?, children, sql]
  | call name args ih =>
    have spelled : (call name args).sql d = name.toList ++ (['('] ++ (commaSep (sqls d args) ++ [')'])) := by
      simp [sql]
    rw [mentions_iff, spelled, word.infix_between (by decide) (by decide),
      infix_concat_of_outside (word.outside (by decide)), infix_commaSep word, infix_sqls ih]
    simp [Brings, ownText?, children]
  | binary op a b ihA ihB =>
    have sign : isOuter (' ' :: op.symbol ++ [' ']) = true := by cases op <;> decide
    rw [mentions_iff, sql_binary, word.infix_group, word.infix_between (by simp) sign, ihA, ihB]
    simp [Brings, ownText?, children]
  | all terms ih =>
    rw [mentions_iff, sql, infix_joinTerms word (by decide) (by decide) (by decide), infix_sqls ih]
    simp [Brings, ownText?, children]
  | any terms ih =>
    rw [mentions_iff, sql, infix_joinTerms word (by decide) (by decide) (by decide), infix_sqls ih]
    simp [Brings, ownText?, children]
  | not e ih =>
    rw [mentions_iff, sql_not, word.infix_group, word.infix_behind (by decide), ih]
    simp [Brings, ownText?, children]
  | inList e items negated ih ihItems =>
    rw [mentions_iff, sql_inList, word.infix_group, word.infix_between (by decide) (by decide),
      word.infix_behind (isOuter_notWord negated), word.infix_behind (by decide), word.infix_group,
      infix_commaSep word, infix_sqls ihItems, ih]
    simp [Brings, ownText?, children]
  | between e low high ih ihLow ihHigh =>
    rw [mentions_iff, sql_between, word.infix_group, word.infix_between (by decide) (by decide),
      word.infix_between (by decide) (by decide), ih, ihLow, ihHigh]
    simp [Brings, ownText?, children]
  | isNull e negated ih =>
    have null : ¬ w <:+: ['N', 'U', 'L', 'L'] := word.not_infix (by decide)
    rw [mentions_iff, sql_isNull, word.infix_group, word.infix_between (by decide) (by decide),
      word.infix_behind (isOuter_notWord negated), ih]
    simp [null, Brings, ownText?, children]
  | named e name ih =>
    have brings : (named e name).Brings d w ↔ w <:+: name.toList := by simp [Brings, ownText?]
    rw [mentions_iff, sql_named, word.infix_between (by decide) (by decide), ih, infix_ident word, brings, or_comm]
    simp [children]

end Expr

/-! ### Selects -/

variable {d : Dialect} {w : List Char}

def FromItem.texts : FromItem → List String
  | table ref _ => ref.schema.toList ++ [ref.name]
  | cte name => [name]
  | subquery text name => [text, name]

theorem infix_tableRef (word : IsInnerWord w) (ref : TableRef) :
    w <:+: ref.sql d ↔ ∃ t ∈ ref.schema.toList ++ [ref.name], w <:+: t.toList := by
  unfold TableRef.sql
  cases ref.schema with
  | none => simp [Expr.infix_ident word]
  | some schema =>
    have spelled : d.qualified [schema, ref.name] =
        List.intercalate ['.'] ([schema, ref.name].map d.ident) := rfl
    dsimp only
    rw [spelled, word.infix_intercalate (by decide) (by decide)]
    simp [Expr.infix_ident word]

theorem lowLine_not_mem_tableSample (sample : TableSample) : '_' ∉ sample.sql := by
  obtain ⟨percent⟩ := sample
  rw [TableSample.sql_systemPercent, List.mem_append, List.mem_append, not_or, not_or]
  exact ⟨⟨by decide, Expr.lowLine_not_mem_plainText percent⟩, by decide⟩

theorem infix_fromItem (word : IsInnerWord w) (source : FromItem) :
    w <:+: source.sql d ↔ ∃ t ∈ source.texts, w <:+: t.toList := by
  cases source with
  | table ref sample =>
    cases sample with
    | none => exact infix_tableRef word ref
    | some sample =>
      have sampled : ¬ w <:+: sample.sql := word.not_infix (lowLine_not_mem_tableSample sample)
      rw [FromItem.sql, infix_append_cons (word.outside (by decide)), or_iff_left sampled]
      exact infix_tableRef word ref
  | cte name => simp [FromItem.sql, FromItem.texts, Expr.infix_ident word]
  | subquery text name =>
    have spelled : (FromItem.subquery text name).sql d =
        ['('] ++ (text.toList ++ (") AS ".toList ++ name.toList)) := by
      simp [FromItem.sql]
    rw [spelled, word.infix_behind (by decide), word.infix_between (by decide) (by decide)]
    simp [FromItem.texts]

theorem infix_orderBy (word : IsInnerWord w) (o : OrderBy) : w <:+: o.sql d ↔ o.expr.Mentions d w := by
  have direction : ∃ letters : List Char, '_' ∉ letters ∧ o.sql d = o.expr.sql d ++ ' ' :: letters := by
    unfold OrderBy.sql
    cases o.ascending with
    | true => exact ⟨['A', 'S', 'C'], by decide, rfl⟩
    | false => exact ⟨['D', 'E', 'S', 'C'], by decide, rfl⟩
  obtain ⟨letters, none, spelled⟩ := direction
  rw [spelled, infix_append_cons (word.outside (by decide)), or_iff_left (word.not_infix none), Expr.infix_sql word]

theorem infix_cte (word : IsInnerWord w) (c : Cte) :
    w <:+: c.sql d ↔ w <:+: c.name.toList ∨ w <:+: c.query.sql d := by
  obtain ⟨name, query⟩ := c
  have spelled : (Cte.mk name query).sql d = d.ident name ++ (" AS (".toList ++ (query.sql d ++ [')'])) := by
    simp [Cte.sql]
  rw [spelled, word.infix_between (by decide) (by decide), Expr.infix_ident word,
    infix_concat_of_outside (word.outside (by decide))]

theorem Expr.infix_list (word : IsInnerWord w) (es : List Expr) :
    w <:+: Expr.commaSep (es.map (Expr.sql d)) ↔ ∃ e ∈ es, e.Mentions d w := by
  simp only [infix_commaSep word, List.mem_map, exists_exists_and_eq_and, infix_sql word]

namespace Select

def ownTexts (q : Select) : List String :=
  q.ctes.map Cte.name ++ q.source.toList.flatMap FromItem.texts ++
    (q.ownExprs.flatMap Expr.parts).filterMap Expr.ownText?

/-- The names, the strings and the queries that a select puts into its statement. -/
def texts (q : Select) : List String := q.parts.flatMap ownTexts

def OwnDraws (q : Select) : Prop := ∃ e ∈ q.ownExprs, Expr.random ∈ e.parts

def Brings (d : Dialect) (w : List Char) (q : Select) : Prop :=
  (∃ t ∈ q.ownTexts, w <:+: t.toList) ∨ (q.OwnDraws ∧ w <:+: d.random)

theorem mentions_ownExprs {q : Select} : (∃ e ∈ q.ownExprs, e.Mentions d w) ↔
    (∃ t ∈ (q.ownExprs.flatMap Expr.parts).filterMap Expr.ownText?, w <:+: t.toList) ∨
      (q.OwnDraws ∧ w <:+: d.random) := by
  constructor
  · rintro ⟨e, own, p, part, ⟨t, text, there⟩ | ⟨rfl, there⟩⟩
    · exact .inl ⟨t, List.mem_filterMap.mpr ⟨p, List.mem_flatMap.mpr ⟨e, own, part⟩, text⟩, there⟩
    · exact .inr ⟨⟨e, own, part⟩, there⟩
  · rintro (⟨t, member, there⟩ | ⟨⟨e, own, part⟩, there⟩)
    · obtain ⟨p, inside, text⟩ := List.mem_filterMap.mp member
      obtain ⟨e, own, part⟩ := List.mem_flatMap.mp inside
      exact ⟨e, own, p, part, .inl ⟨t, text, there⟩⟩
    · exact ⟨e, own, .random, part, .inr ⟨rfl, there⟩⟩

theorem brings_iff {q : Select} : q.Brings d w ↔ (∃ c ∈ q.ctes, w <:+: c.name.toList) ∨
    (∃ t ∈ q.source.toList.flatMap FromItem.texts, w <:+: t.toList) ∨ ∃ e ∈ q.ownExprs, e.Mentions d w := by
  rw [Brings, mentions_ownExprs, ← or_assoc, ← or_assoc]
  simp only [ownTexts, List.mem_append, or_and_right, exists_or, List.mem_map, exists_exists_and_eq_and]

theorem infix_ctes (word : IsInnerWord w) (q : Select) : w <:+: q.content d .ctes ↔
    (∃ c ∈ q.ctes, w <:+: c.name.toList) ∨ ∃ c ∈ q.ctes, w <:+: c.query.sql d := by
  rw [content, Expr.infix_commaSep word]
  simp only [List.mem_map, exists_exists_and_eq_and, infix_cte word, and_or_left, exists_or]

theorem infix_projection (word : IsInnerWord w) (q : Select) :
    w <:+: q.content d .projection ↔ ∃ e ∈ q.projection, e.Mentions d w := by
  unfold content
  dsimp only
  split
  · next empty =>
    rw [List.isEmpty_iff.mp empty]
    simpa using word.not_infix (x := ['*']) (by decide)
  · exact Expr.infix_list word q.projection

theorem infix_source (word : IsInnerWord w) (q : Select) :
    w <:+: q.content d .source ↔ ∃ t ∈ q.source.toList.flatMap FromItem.texts, w <:+: t.toList := by
  unfold content
  cases q.source with
  | none => simpa using List.ne_nil_of_mem word.lowLine
  | some s => simpa using infix_fromItem word s

theorem infix_selection (word : IsInnerWord w) (q : Select) :
    w <:+: q.content d .selection ↔ ∃ e ∈ q.selection.toList, e.Mentions d w := by
  unfold content
  cases q.selection with
  | none => simpa using List.ne_nil_of_mem word.lowLine
  | some e => simpa using Expr.infix_sql word d e

theorem infix_orderBys (word : IsInnerWord w) (q : Select) :
    w <:+: q.content d .orderBy ↔ ∃ e ∈ q.orderBy.map OrderBy.expr, e.Mentions d w := by
  rw [content, Expr.infix_commaSep word]
  simp only [List.mem_map, exists_exists_and_eq_and, infix_orderBy word]

theorem not_infix_limit (word : IsInnerWord w) (q : Select) : ¬ w <:+: q.content d .limit := by
  refine word.not_infix fun member => ?_
  unfold content at member
  cases found : q.limit with
  | none => simp [found] at member
  | some n =>
    have digit : '_' ∈ natText n := by simpa [found] using member
    exact absurd (isDigit_of_mem_natText digit) (by decide)

theorem content_of_not_has {q : Select} {k : Clause} (absent : q.has k = false) : q.content d k = [] := by
  cases k with
  | ctes =>
    have none : q.ctes = [] := by simpa [has] using absent
    simp [content, none, Expr.commaSep]
  | projection => cases absent
  | source =>
    have none : q.source = .none := by simpa [has] using absent
    simp [content, none]
  | selection =>
    have none : q.selection = .none := by simpa [has] using absent
    simp [content, none]
  | groupBy =>
    have none : q.groupBy = [] := by simpa [has] using absent
    simp [content, none, Expr.commaSep]
  | orderBy =>
    have none : q.orderBy = [] := by simpa [has] using absent
    simp [content, none, Expr.commaSep]
  | limit =>
    have none : q.limit = .none := by simpa [has] using absent
    simp [content, none]

/-- A word in a select is in what one of its clauses holds. -/
theorem infix_clauses (word : IsInnerWord w) (q : Select) :
    w <:+: q.sql d ↔ ∃ k, w <:+: q.content d k := by
  have keyword (k : Clause) : w <:+: k.text (q.content d k) ↔ w <:+: q.content d k := by
    have spelled : k.text (q.content d k) = (k.keyword ++ [' ']) ++ q.content d k := by simp [Clause.text]
    rw [spelled, word.infix_behind (by cases k <;> decide)]
  rw [sql_eq_clauses, word.infix_intercalate (by decide) (by decide)]
  simp only [List.mem_map, exists_exists_and_eq_and, keyword]
  constructor
  · rintro ⟨k, -, there⟩
    exact ⟨k, there⟩
  · rintro ⟨k, there⟩
    have all : k ∈ Clause.all := by cases k <;> decide
    cases has : q.has k with
    | true => exact ⟨k, List.mem_filter.mpr ⟨all, has⟩, there⟩
    | false =>
      rw [content_of_not_has has, List.infix_nil] at there
      exact absurd there (List.ne_nil_of_mem word.lowLine)

theorem infix_sql_step (word : IsInnerWord w) (q : Select) :
    w <:+: q.sql d ↔ q.Brings d w ∨ ∃ c ∈ q.ctes, w <:+: c.query.sql d := by
  have clauses : (∃ k, w <:+: q.content d k) ↔ w <:+: q.content d .ctes ∨ w <:+: q.content d .projection ∨
      w <:+: q.content d .source ∨ w <:+: q.content d .selection ∨ w <:+: q.content d .groupBy ∨
      w <:+: q.content d .orderBy ∨ w <:+: q.content d .limit := by
    constructor
    · rintro ⟨k, there⟩
      cases k <;> simp [there]
    · rintro (h | h | h | h | h | h | h) <;> exact ⟨_, h⟩
  have groupBy : w <:+: q.content d .groupBy ↔ ∃ e ∈ q.groupBy, e.Mentions d w := Expr.infix_list word q.groupBy
  rw [infix_clauses word, clauses, infix_ctes word, infix_projection word, infix_source word,
    infix_selection word, groupBy, infix_orderBys word, brings_iff]
  simp only [ownExprs, List.mem_append, or_and_right, exists_or, not_infix_limit word, or_false]
  simp only [or_assoc, or_left_comm, or_comm]

theorem infix_sql (word : IsInnerWord w) (d : Dialect) (q : Select) :
    w <:+: q.sql d ↔ ∃ p ∈ q.parts, p.Brings d w := by
  induction q using Select.induct with
  | step q ih =>
    rw [infix_sql_step word, parts_eq]
    simp only [List.mem_cons, or_and_right, exists_or, exists_eq_left, List.mem_flatMap]
    refine or_congr_right ⟨?_, ?_⟩
    · rintro ⟨c, member, there⟩
      obtain ⟨p, part, brings⟩ := (ih c member).mp there
      exact ⟨p, ⟨c, member, part⟩, brings⟩
    · rintro ⟨p, ⟨c, member, part⟩, brings⟩
      exact ⟨c, member, (ih c member).mpr ⟨p, part, brings⟩⟩

end Select

end Profiling
