import Profiling.Proofs.Sql.Form
import Profiling.Proofs.Sql.Strings

/-!
# Reading expressions back

`Form.read` reads the text of an expression up to its end and gives its form, whatever follows
that cannot belong to it.
-/

namespace Profiling

open Text

/-- Names without the quote of the dialect, and functions that are called by words. -/
def Expr.PlainNames (d : Dialect) : Expr → Prop :=
  NamesMeet (fun name => d.nameQuote ∉ name.toList) (fun name => isWord name.toList = true)

instance (d : Dialect) : DecidablePred (Expr.PlainNames d) := fun e =>
  inferInstanceAs (Decidable ((∀ name ∈ e.identifiers, d.nameQuote ∉ name.toList) ∧
    ∀ name ∈ e.callees, isWord name.toList = true))

namespace Form

/-- Whether a text goes on behind an expression: at its end, with a bracket, a comma or a word. -/
def closes : List Char → Bool
  | [] => true
  | ' ' :: c :: _ => c != '\''
  | c :: _ => c == ')' || c == ','

theorem skip?_append (p s : List Char) : skip? p (p ++ s) = some s := by
  induction p with
  | nil => rfl
  | cons c p ih => simp [skip?, ih]

theorem skip?_eq_some {p s t : List Char} : skip? p s = some t ↔ s = p ++ t := by
  constructor
  · intro h
    fun_induction skip? p s <;> simp_all
  · rintro rfl
    exact skip?_append p t

theorem closes_head {c : Char} {s : List Char} (h : closes (c :: s) = true) :
    c = ' ' ∨ c = ')' ∨ c = ',' := by
  unfold closes at h
  split at h <;> simp_all

/-! ### Tokens -/

theorem readToken_of_stop {sub : Reader Form} {n : Nat} {token rest : List Char}
    (chars : ∀ c ∈ token, isTokenChar c = true) (ne : token ≠ [])
    (stop : ∀ c s, rest = c :: s → isTokenChar c = false) :
    readToken sub n (token ++ rest) = readBehind sub n token rest := by
  simp only [readToken, takeWhile_append_of_stop chars stop, List.drop_left, if_neg ne]

theorem stop_of_closes {rest : List Char} (h : closes rest = true) :
    ∀ c s, rest = c :: s → isTokenChar c = false := by
  rintro c s rfl
  rcases closes_head h with rfl | rfl | rfl <;> rfl

theorem readToken_word {sub : Reader Form} {n : Nat} {token rest : List Char}
    (chars : ∀ c ∈ token, isTokenChar c = true) (ne : token ≠ []) (h : closes rest = true) :
    readToken sub n (token ++ rest) = some (.word token, rest) := by
  have noCall : skip? ['('] rest = none := by
    cases rest with
    | nil => rfl
    | cons c s => rcases closes_head h with rfl | rfl | rfl <;> rfl
  have noText : skip? [' ', '\''] rest = none := by
    cases rest with
    | nil => rfl
    | cons c s =>
      rcases closes_head h with rfl | rfl | rfl
      · cases s with
        | nil => rfl
        | cons x s =>
          have other : x ≠ '\'' := by simpa [closes] using h
          simp [skip?, other.symm]
      · rfl
      · rfl
  rw [readToken_of_stop chars ne (stop_of_closes h), readBehind, noCall, noText]

theorem readToken_call {sub : Reader Form} {n : Nat} {token s : List Char}
    (chars : ∀ c ∈ token, isTokenChar c = true) (ne : token ≠ []) :
    readToken sub n (token ++ '(' :: s) =
      (readItems sub n s).map fun (args, s) => (.call token args, s) := by
  rw [readToken_of_stop chars ne (by rintro c t h; cases h; rfl)]
  rfl

theorem readToken_tagged {sub : Reader Form} {n : Nat} {token text rest : List Char}
    (chars : ∀ c ∈ token, isTokenChar c = true) (ne : token ≠ []) (plain : '\'' ∉ text)
    (h : rest.head? ≠ some '\'') :
    readToken sub n (token ++ ' ' :: '\'' :: (text ++ '\'' :: rest)) =
      some (.tagged token text, rest) := by
  rw [readToken_of_stop chars ne (by rintro c t h; cases h; rfl)]
  have read := readDoubledBody_doubleAll '\'' text rest h
  rw [doubleAll_of_not_mem plain] at read
  simp [readBehind, skip?, read]

/-! ### Unnamed forms -/

theorem nameQuote_eq (d : Dialect) : d.nameQuote = '"' ∨ d.nameQuote = Char.ofNat 0x60 := by
  cases d <;> simp [Dialect.nameQuote]

theorem nameQuote_ne_of_token (d : Dialect) {c : Char} (h : isTokenChar c = true) :
    c ≠ d.nameQuote ∧ c ≠ '\'' ∧ c ≠ '*' ∧ c ≠ '(' := by
  refine ⟨?_, ?_, ?_, ?_⟩
  · rintro rfl
    rcases nameQuote_eq d with q | q <;> rw [q] at h <;> exact absurd h (by decide)
  all_goals
    rintro rfl
    exact absurd h (by decide)

theorem head?_of_closes {c : Char} {rest : List Char} (h : closes rest = true)
    (other : c ≠ ' ' ∧ c ≠ ')' ∧ c ≠ ',') : rest.head? ≠ some c := by
  cases rest with
  | nil => simp
  | cons x s =>
    rintro ⟨⟩
    rcases closes_head h with same | same | same
    · exact other.1 same
    · exact other.2.1 same
    · exact other.2.2 same

theorem nameQuote_not_next (d : Dialect) {rest : List Char} (h : closes rest = true) :
    rest.head? ≠ some d.nameQuote :=
  head?_of_closes h (by cases d <;> decide)

theorem quote_not_next {rest : List Char} (h : closes rest = true) : rest.head? ≠ some '\'' :=
  head?_of_closes h (by decide)

variable {d : Dialect} {sub : Reader Form} {n : Nat}

theorem readUnnamed_token {token s : List Char} (chars : ∀ c ∈ token, isTokenChar c = true)
    (ne : token ≠ []) : readUnnamed d sub n (token ++ s) = readToken sub n (token ++ s) := by
  cases token with
  | nil => exact absurd rfl ne
  | cons c token =>
    obtain ⟨notName, notString, notStar, notGroup⟩ :=
      nameQuote_ne_of_token d (chars c List.mem_cons_self)
    simp [readUnnamed, notName, notString, notStar, notGroup]

theorem readUnnamed_name {name : String} {rest : List Char} (plain : d.nameQuote ∉ name.toList)
    (h : rest.head? ≠ some d.nameQuote) :
    readUnnamed d sub n (d.ident name ++ rest) = some (.name name.toList, rest) := by
  have read := readDoubledBody_doubleAll d.nameQuote name.toList rest h
  rw [doubleAll_of_not_mem plain] at read
  simp [Dialect.ident, quoteName_of_not_mem plain, readUnnamed, read]

theorem readUnnamed_group (s : List Char) : readUnnamed d sub n ('(' :: s) = readGroup sub n s := by
  cases d <;> rfl

theorem readUnnamed_wildcard (s : List Char) : readUnnamed d sub n ('*' :: s) = some (.wildcard, s) := by
  cases d <;> rfl

end Form

theorem Form.readUnnamed_string {d : Dialect} {sub : Reader Form} {n : Nat} (s : String) {rest : List Char}
    (h : rest.head? ≠ some '\'') :
    readUnnamed d sub n (d.string s ++ rest) = some (.string s.toList, rest) := by
  have read := d.readString_string s h
  cases d <;>
    simp_all [Dialect.string, quoteDoubled, quoteEscaped, readUnnamed, Dialect.nameQuote]


/-! ### Starts of expressions -/

namespace Form

/-- A text that starts neither with a negation nor with a closing bracket. -/
def Starts (s : List Char) : Prop := skip? "NOT ".toList s = none ∧ skip? [')'] s = none

theorem starts_token {token rest : List Char} (chars : ∀ c ∈ token, isTokenChar c = true) (ne : token ≠ [])
    (stop : ∀ c s, rest = c :: s → isTokenChar c = false)
    (other : token = ['N', 'O', 'T'] → rest.head? ≠ some ' ') : Starts (token ++ rest) := by
  constructor
  · apply Option.eq_none_iff_forall_not_mem.mpr
    intro t h
    -- A token that is longer than `NOT` has no blank where the negation has one.
    have split : token ++ rest = "NOT ".toList ++ t := skip?_eq_some.mp h
    have same : token = ['N', 'O', 'T'] := by
      have taken := congrArg (List.takeWhile isTokenChar) split
      rw [takeWhile_append_of_stop chars stop] at taken
      exact taken
    subst same
    exact other rfl (by simpa using congrArg (fun s => (s.drop 3).head?) split)
  · cases token with
    | nil => exact absurd rfl ne
    | cons c token =>
      have char := chars c List.mem_cons_self
      have noBracket : ')' ≠ c := by
        rintro rfl
        exact absurd char (by decide)
      simp [skip?, noBracket]

theorem starts_word {token rest : List Char} (chars : ∀ c ∈ token, isTokenChar c = true) (ne : token ≠ [])
    (other : token ≠ ['N', 'O', 'T']) (h : closes rest = true) : Starts (token ++ rest) :=
  starts_token chars ne (stop_of_closes h) (fun same => absurd same other)

theorem starts_char {c : Char} {s : List Char} (h : isTokenChar c = false) (noBracket : c ≠ ')') :
    Starts (c :: s) := by
  have noLetter : c ≠ 'N' := by
    rintro rfl
    exact absurd h (by decide)
  constructor
  · simp [skip?, noLetter.symm]
  · simp [skip?, noBracket.symm]

end Form

open Form

theorem Dialect.starts_ident (d : Dialect) (name : String) (rest : List Char) :
    Starts (d.ident name ++ rest) := by
  cases d <;> exact starts_char rfl (by decide)

theorem Literal.starts_sql (d : Dialect) (v : Literal) {rest : List Char} (h : closes rest = true) :
    Starts (v.sql d ++ rest) := by
  cases v with
  | null =>
    show Starts ("NULL".toList ++ rest)
    exact starts_word (List.all_eq_true.mp rfl) (by decide) (by decide) h
  | bool b =>
    cases b with
    | false =>
      show Starts ("FALSE".toList ++ rest)
      exact starts_word (List.all_eq_true.mp rfl) (by decide) (by decide) h
    | true =>
      show Starts ("TRUE".toList ++ rest)
      exact starts_word (List.all_eq_true.mp rfl) (by decide) (by decide) h
  | int n =>
    refine starts_word (fun _ member => isTokenChar_of_mem_intText member) (intText_ne_nil n) ?_ h
    intro same
    have letter : 'N' ∈ intText n := by
      rw [show intText n = _ from same]
      exact List.mem_cons_self
    rcases mem_intText letter with h | h <;> exact absurd h (by decide)
  | float x =>
    refine starts_word (fun _ member => isTokenChar_of_mem_floatText member) (floatText_ne_nil x) ?_ h
    intro same
    cases finite : x.isFinite with
    | false => exact absurd ((floatText_of_not_finite finite).symm.trans same) (by decide)
    | true =>
      have point := point_mem_floatText finite
      rw [show floatText x = _ from same] at point
      exact absurd point (by decide)
  | string s => cases d <;> exact starts_char rfl (by decide)
  | date day =>
    show Starts ("DATE".toList ++ ' ' :: _)
    exact starts_token (List.all_eq_true.mp rfl) (by decide) (by rintro c s h; cases h; rfl)
      (fun same => absurd same (by decide))
  | timestamp t =>
    show Starts ("TIMESTAMP".toList ++ ' ' :: _)
    exact starts_token (List.all_eq_true.mp rfl) (by decide) (by rintro c s h; cases h; rfl)
      (fun same => absurd same (by decide))

theorem isTokenChar_of_mem_word {s : List Char} (h : isWord s = true) : ∀ c ∈ s, isTokenChar c = true := by
  intro c member
  rw [isWord, Bool.and_eq_true, List.all_eq_true] at h
  exact isTokenChar_of_isWordChar (h.2 c member)

theorem ne_nil_of_isWord {s : List Char} (h : isWord s = true) : s ≠ [] := by
  rintro rfl
  exact absurd h (by decide)

theorem Expr.starts_sql {d : Dialect} {e : Expr} (plain : e.PlainNames d) {rest : List Char}
    (h : closes rest = true) : Starts (e.sql d ++ rest) := by
  induction e using Expr.induct generalizing rest with
  | column name => exact d.starts_ident name rest
  | wildcard => exact starts_char rfl (by decide)
  | literal value => exact value.starts_sql d h
  | random =>
    cases d with
    | polars => exact Dialect.starts_ident .polars randomColumn rest
    | bigQuery =>
      show Starts ("RAND".toList ++ '(' :: ')' :: rest)
      exact starts_token (List.all_eq_true.mp rfl) (by decide) (by rintro c s h; cases h; rfl)
        (by rintro - h; cases h)
    | _ =>
      show Starts ("RANDOM".toList ++ '(' :: ')' :: rest)
      exact starts_token (List.all_eq_true.mp rfl) (by decide) (by rintro c s h; cases h; rfl)
        (by rintro - h; cases h)
  | call name args =>
    have word := plain.own.2 name rfl
    simp only [sql, List.append_assoc, List.cons_append]
    exact starts_token (isTokenChar_of_mem_word word) (ne_nil_of_isWord word)
      (by rintro c s h; cases h; rfl) (by rintro - h; cases h)
  | all terms ih =>
    match terms, ih, plain with
    | [], _, _ =>
      show Starts ("TRUE".toList ++ rest)
      exact starts_word (List.all_eq_true.mp rfl) (by decide) (by decide) h
    | [x], ih, plain => exact ih x List.mem_cons_self (plain.inside List.mem_cons_self) h
    | _ :: _ :: _, _, _ => exact starts_char rfl (by decide)
  | any terms ih =>
    match terms, ih, plain with
    | [], _, _ =>
      show Starts ("FALSE".toList ++ rest)
      exact starts_word (List.all_eq_true.mp rfl) (by decide) (by decide) h
    | [x], ih, plain => exact ih x List.mem_cons_self (plain.inside List.mem_cons_self) h
    | _ :: _ :: _, _, _ => exact starts_char rfl (by decide)
  | named e name ih =>
    rw [sql, List.append_assoc, List.append_assoc]
    exact ih (plain.inside List.mem_cons_self) rfl
  | binary | not | inList | between | isNull => exact starts_char rfl (by decide)

/-! ### Lists and brackets -/

namespace Form

variable {d : Dialect} {sub : Reader Form}

/-- What may follow an expression and gives it no name. -/
def ends (d : Dialect) (rest : List Char) : Prop :=
  closes rest = true ∧ skip? (" AS ".toList ++ [d.nameQuote]) rest = none

/-- Whether a reader reads a text as a form. -/
def Reads (d : Dialect) (sub : Reader Form) (text : List Char) (f : Form) : Prop :=
  ∀ rest, ends d rest → sub (text ++ rest) = some (f, rest)

theorem ends_bracket (d : Dialect) (s : List Char) : ends d (')' :: s) := ⟨rfl, rfl⟩

/-- A separator between items: what follows it does not belong to the item before it. -/
def Separates (d : Dialect) (sep : List Char) : Prop :=
  ∀ s, ends d (sep ++ s) ∧ skip? [')'] (sep ++ s) = none

theorem separates_comma (d : Dialect) : Separates d [',', ' '] := fun _ => ⟨⟨rfl, rfl⟩, rfl⟩

theorem separates_and (d : Dialect) : Separates d " AND ".toList := fun _ => ⟨⟨rfl, rfl⟩, rfl⟩

theorem separates_or (d : Dialect) : Separates d " OR ".toList := fun _ => ⟨⟨rfl, rfl⟩, rfl⟩

theorem readMore_intercalate {sep : List Char} (separates : Separates d sep) {es : List Expr}
    (reads : ∀ e ∈ es, Reads d sub (e.sql d) (e.form d)) (ne : es ≠ []) {n : Nat} (fuel : es.length ≤ n)
    (rest : List Char) :
    readMore sub sep n (List.intercalate sep (es.map (Expr.sql d)) ++ ')' :: rest) =
      some (es.map (Expr.form d), rest) := by
  induction es generalizing n with
  | nil => exact absurd rfl ne
  | cons e es ih =>
    have first := reads e List.mem_cons_self
    cases n with
    | zero => simp at fuel
    | succ n =>
      cases es with
      | nil =>
        have read := first (')' :: rest) (ends_bracket d rest)
        simp [readMore, read, skip?]
      | cons x xs =>
        have others := ih (fun y member => reads y (List.mem_cons_of_mem _ member)) (List.cons_ne_nil _ _)
          (n := n) (by simpa using fuel)
        have read := first _ (separates (List.intercalate sep ((x :: xs).map (Expr.sql d)) ++ ')' :: rest)).1
        have goesOn := (separates (List.intercalate sep ((x :: xs).map (Expr.sql d)) ++ ')' :: rest)).2
        rw [List.map_cons, List.map_cons, List.intercalate_cons_cons, ← List.map_cons, List.append_assoc,
          List.append_assoc]
        generalize List.intercalate sep ((x :: xs).map (Expr.sql d)) ++ ')' :: rest = s at *
        simp only [readMore, read, goesOn, skip?_append, others, Option.bind_eq_bind, Option.bind_some,
          Option.pure_def, List.map_cons]

theorem readItems_commaSep {es : List Expr} (reads : ∀ e ∈ es, Reads d sub (e.sql d) (e.form d))
    (start : ∀ e ∈ es, ∀ s, closes s = true → skip? [')'] (e.sql d ++ s) = none) {n : Nat}
    (fuel : es.length ≤ n)
    (rest : List Char) :
    readItems sub n (Expr.commaSep (es.map (Expr.sql d)) ++ ')' :: rest) =
      some (es.map (Expr.form d), rest) := by
  cases es with
  | nil => rfl
  | cons e es =>
    have more := readMore_intercalate (separates_comma d) reads (List.cons_ne_nil _ _) fuel rest
    have goesOn : skip? [')'] (Expr.commaSep ((e :: es).map (Expr.sql d)) ++ ')' :: rest) = none := by
      cases es with
      | nil => simpa [Expr.commaSep] using start e List.mem_cons_self (')' :: rest) rfl
      | cons x xs =>
        rw [Expr.commaSep, List.map_cons, List.map_cons, List.intercalate_cons_cons, List.append_assoc,
          List.append_assoc]
        exact start e List.mem_cons_self _ rfl
    rw [readItems, goesOn]
    exact more

theorem readGroup_tail {text s : List Char} {f : Form} {n : Nat} (starts : Starts (text ++ s))
    (reads : Reads d sub text f) (h : ends d s) :
    readGroup sub n (text ++ s) = readTail sub n f s := by
  simp only [readGroup, starts.1, reads s h, Option.bind_eq_bind, Option.bind_some]

theorem readTail_word {n : Nat} {f : Form} (word : List Char) (noBlank : ∀ c ∈ word, (c != ' ') = true)
    (s : List Char) : readTail sub n f (' ' :: (word ++ ' ' :: s)) = readWord sub n f word s := by
  have taken : (word ++ ' ' :: s).takeWhile (· != ' ') = word := by
    rw [List.takeWhile_append_of_pos noBlank]
    simp
  have dropped : (word ++ ' ' :: s).drop (word.length + 1) = s := by
    rw [← List.drop_drop, List.drop_left]
    rfl
  simp only [readTail, skip?, if_true, Option.bind_eq_bind, Option.bind_some, taken, dropped]

theorem readWord_symbol (n : Nat) (f : Form) (op : BinaryOp) (s : List Char) :
    readWord sub n f op.symbol s = readRight sub op.symbol f s := by
  cases op <;> rfl

theorem readRight_symbol {f g : Form} (op : BinaryOp) {text : List Char} (reads : Reads d sub text g)
    (rest : List Char) :
    readRight sub op.symbol f (text ++ ')' :: rest) = some (.binary op f g, rest) := by
  have find : BinaryOp.list.find? (·.symbol == op.symbol) = some op := by
    cases op <;> rfl
  simp only [readRight, find, reads _ (ends_bracket d rest), skip?, if_true, Option.bind_eq_bind,
    Option.bind_some, Option.pure_def]

theorem readJoined_append {n : Nat} {f : Form} {fs : List Form} {conjunction : Bool} {s rest : List Char}
    (read : readMore sub (if conjunction then " AND ".toList else " OR ".toList) n s = some (fs, rest)) :
    readJoined sub n conjunction f s = some (.joined conjunction (f :: fs), rest) := by
  simp only [readJoined, read, Option.bind_eq_bind, Option.bind_some, Option.pure_def]

theorem readList_append {n : Nat} {f : Form} {fs : List Form} {negated : Bool} {s rest : List Char}
    (read : readItems sub n s = some (fs, ')' :: rest)) :
    readList sub n negated f ('(' :: s) = some (.inList f fs negated, rest) := by
  simp only [readList, skip?, if_true, read, Option.bind_eq_bind, Option.bind_some, Option.pure_def]

theorem readBounds_append {f low high : Form} {lowText highText : List Char}
    (readsLow : Reads d sub lowText low) (readsHigh : Reads d sub highText high) (rest : List Char) :
    readBounds sub f (lowText ++ (" AND ".toList ++ (highText ++ ')' :: rest))) =
      some (.between f low high, rest) := by
  have first := readsLow (" AND ".toList ++ (highText ++ ')' :: rest)) (separates_and d _).1
  have second := readsHigh (')' :: rest) (ends_bracket d rest)
  simp only [readBounds, first, second, skip?_append, skip?, if_true, Option.bind_eq_bind, Option.bind_some,
    Option.pure_def]

/-! ### Expressions -/

theorem readNames_of_ends {rest : List Char} (h : ends d rest) (n : Nat) (f : Form) :
    readNames d n f rest = (f, rest) := by
  cases n with
  | zero => rfl
  | succ n => simp only [readNames, h.2]

/-- Reading an expression that is given a name reads on behind it. -/
theorem readNames_named {name : String} (plain : d.nameQuote ∉ name.toList) {rest : List Char}
    (h : closes rest = true) (n : Nat) (f : Form) :
    readNames d (n + 1) f (" AS ".toList ++ (d.ident name ++ rest)) =
      readNames d n (.named f name.toList) rest := by
  have read := readDoubledBody_doubleAll d.nameQuote name.toList rest (nameQuote_not_next d h)
  rw [doubleAll_of_not_mem plain] at read
  have spelled : " AS ".toList ++ (d.ident name ++ rest) =
      (" AS ".toList ++ [d.nameQuote]) ++ (name.toList ++ d.nameQuote :: rest) := by
    simp [Dialect.ident, quoteName_of_not_mem plain]
  rw [spelled, readNames, skip?_append]
  simp only [read]

end Form

theorem length_lt_sizeOf (es : List Expr) : es.length < sizeOf es := by
  induction es with
  | nil => simp
  | cons e es ih => simp only [List.length_cons, List.cons.sizeOf_spec]; omega

/-- Whether an expression is read back as its form, whatever follows it. Names that follow are
read with the fuel that is left. -/
def Expr.ReadsBack (d : Dialect) (e : Expr) : Prop :=
  ∀ n rest, sizeOf e ≤ n → closes rest = true →
    ∃ m, n ≤ m + sizeOf e ∧ read d n (e.sql d ++ rest) = some (readNames d m (e.form d) rest)

namespace Expr

variable {d : Dialect}

theorem ReadsBack.reads {e : Expr} (h : e.ReadsBack d) {n : Nat} (fuel : sizeOf e ≤ n) :
    Reads d (read d n) (e.sql d) (e.form d) := by
  intro rest hends
  obtain ⟨m, -, read⟩ := h n rest fuel hends.1
  rw [read, readNames_of_ends hends]

theorem sizeOf_pos (e : Expr) : 0 < sizeOf e := by
  cases e <;> simp [Nat.pos_iff_ne_zero]

theorem readsBack_of_unnamed {e : Expr}
    (h : ∀ n rest, sizeOf e ≤ n + 1 → closes rest = true →
      readUnnamed d (read d n) n (e.sql d ++ rest) = some (e.form d, rest)) : e.ReadsBack d := by
  intro n rest fuel closed
  have positive := e.sizeOf_pos
  cases n with
  | zero => omega
  | succ n => exact ⟨n, by omega, by simp only [Form.read, h n rest fuel closed, Option.map_some]⟩

/-- An expression in brackets is read back if what follows its first part is. -/
theorem readsBack_of_group {e first : Expr} (plain : first.PlainNames d) (back : first.ReadsBack d)
    (smaller : sizeOf first < sizeOf e) (tail : List Char → List Char)
    (text : ∀ rest, e.sql d ++ rest = '(' :: (first.sql d ++ tail rest))
    (hends : ∀ rest, ends d (tail rest))
    (h : ∀ n rest, sizeOf e ≤ n + 1 →
      readTail (read d n) n (first.form d) (tail rest) = some (e.form d, rest)) : e.ReadsBack d := by
  refine readsBack_of_unnamed fun n rest fuel closed => ?_
  rw [text rest, readUnnamed_group,
    readGroup_tail (starts_sql plain (hends rest).1) (back.reads (by omega)) (hends rest)]
  exact h n rest fuel

theorem readUnnamed_literal (d : Dialect) {sub : Reader Form} {n : Nat} (v : Literal) {rest : List Char}
    (closed : closes rest = true) : readUnnamed d sub n (v.sql d ++ rest) = some (v.form, rest) := by
  have word (token : List Char) (chars : ∀ c ∈ token, isTokenChar c = true) (ne : token ≠ []) :
      readUnnamed d sub n (token ++ rest) = some (.word token, rest) := by
    rw [readUnnamed_token chars ne, readToken_word chars ne closed]
  have tagged (tag text : List Char) (chars : ∀ c ∈ tag, isTokenChar c = true) (ne : tag ≠ [])
      (plain : '\'' ∉ text) :
      readUnnamed d sub n (tag ++ ' ' :: '\'' :: (text ++ '\'' :: rest)) =
        some (.tagged tag text, rest) := by
    rw [readUnnamed_token chars ne, readToken_tagged chars ne plain (quote_not_next closed)]
  cases v with
  | null => exact word ['N', 'U', 'L', 'L'] (List.all_eq_true.mp rfl) (by decide)
  | bool b =>
    cases b with
    | true => exact word ['T', 'R', 'U', 'E'] (List.all_eq_true.mp rfl) (by decide)
    | false => exact word ['F', 'A', 'L', 'S', 'E'] (List.all_eq_true.mp rfl) (by decide)
  | int x => exact word (intText x) (fun _ member => isTokenChar_of_mem_intText member) (intText_ne_nil x)
  | float x =>
    exact word (Literal.floatText x) (fun _ member => Literal.isTokenChar_of_mem_floatText member)
      (Literal.floatText_ne_nil x)
  | string s => exact readUnnamed_string s (quote_not_next closed)
  | date day =>
    have spelled : (Literal.date day).sql d ++ rest =
        ['D', 'A', 'T', 'E'] ++ ' ' :: '\'' :: (day.text ++ '\'' :: rest) := by
      simp [Literal.sql_date]
    rw [spelled]
    exact tagged _ _ (List.all_eq_true.mp rfl) (by decide) day.quote_not_mem_text
  | timestamp t =>
    have spelled : (Literal.timestamp t).sql d ++ rest =
        ['T', 'I', 'M', 'E', 'S', 'T', 'A', 'M', 'P'] ++ ' ' :: '\'' :: (t.text ++ '\'' :: rest) := by
      simp [Literal.sql_timestamp]
    rw [spelled]
    exact tagged _ _ (List.all_eq_true.mp rfl) (by decide) t.quote_not_mem_text

theorem reads_of_mem {es : List Expr} (back : ∀ e ∈ es, e.ReadsBack d) {n : Nat} (fuel : sizeOf es ≤ n) :
    ∀ e ∈ es, Reads d (Form.read d n) (e.sql d) (e.form d) := by
  intro e member
  have smaller := List.sizeOf_lt_of_mem member
  exact (back e member).reads (by omega)

theorem readItems_exprs {es : List Expr} (plain : ∀ e ∈ es, e.PlainNames d)
    (back : ∀ e ∈ es, e.ReadsBack d) {n : Nat} (fuel : sizeOf es ≤ n) (rest : List Char) :
    readItems (Form.read d n) n (commaSep (sqls d es) ++ ')' :: rest) = some (forms d es, rest) := by
  have length := length_lt_sizeOf es
  rw [sqls_eq_map, forms_eq_map]
  exact readItems_commaSep (reads_of_mem back fuel)
    (fun e member _ closed => (starts_sql (plain e member) closed).2) (by omega) rest

theorem call_readsBack {name : String} {args : List Expr} (plain : (call name args).PlainNames d)
    (back : ∀ e ∈ args, e.ReadsBack d) : (call name args).ReadsBack d := by
  refine readsBack_of_unnamed fun n rest fuel _ => ?_
  have word := plain.own.2 name rfl
  have plainArgs : ∀ e ∈ args, e.PlainNames d := fun e member => plain.inside member
  have smaller : sizeOf args ≤ n := by
    simp only [call.sizeOf_spec] at fuel
    omega
  have items := readItems_exprs plainArgs back smaller rest
  have spelled : (call name args).sql d ++ rest =
      name.toList ++ '(' :: (commaSep (sqls d args) ++ ')' :: rest) := by
    simp [sql]
  rw [spelled, readUnnamed_token (isTokenChar_of_mem_word word) (ne_nil_of_isWord word),
    readToken_call (isTokenChar_of_mem_word word) (ne_nil_of_isWord word), items]
  rfl

/-! ### Joined terms -/

def joined : (conjunction : Bool) → List Expr → Expr
  | true => all
  | false => any

def joiner (conjunction : Bool) : List Char :=
  if conjunction then " AND ".toList else " OR ".toList

theorem sql_joined_cons (conjunction : Bool) (x y : Expr) (zs : List Expr) (rest : List Char) :
    (joined conjunction (x :: y :: zs)).sql d ++ rest =
      '(' :: (x.sql d ++ (joiner conjunction ++
        (List.intercalate (joiner conjunction) ((y :: zs).map (sql d)) ++ ')' :: rest))) := by
  have shape : (joined conjunction (x :: y :: zs)).sql d =
      '(' :: List.intercalate (joiner conjunction) ((x :: y :: zs).map (sql d)) ++ [')'] := by
    rw [← sqls_eq_map]
    cases conjunction <;> rfl
  rw [shape, List.map_cons, List.map_cons, List.intercalate_cons_cons]
  simp only [List.cons_append, List.append_assoc, List.nil_append]

theorem form_joined (conjunction : Bool) (terms : List Expr) :
    (joined conjunction terms).form d = .ofTerms conjunction (terms.map (form d)) := by
  cases conjunction <;> simp [joined, form, forms_eq_map]

theorem sizeOf_joined (conjunction : Bool) (terms : List Expr) :
    sizeOf (joined conjunction terms) = 1 + sizeOf terms := by
  cases conjunction <;> simp [joined]

theorem separates_joiner (d : Dialect) (conjunction : Bool) : Separates d (joiner conjunction) := by
  cases conjunction
  · exact separates_or d
  · exact separates_and d

theorem joined_readsBack {terms : List Expr} (conjunction : Bool) (plain : ∀ x ∈ terms, x.PlainNames d)
    (back : ∀ x ∈ terms, x.ReadsBack d) : (joined conjunction terms).ReadsBack d := by
  -- No term is written as a constant and one term as itself. Brackets begin with the second.
  match terms with
  | [] =>
    refine readsBack_of_unnamed fun n rest _ closed => ?_
    have read : readUnnamed d (Form.read d n) n ((Literal.bool conjunction).sql d ++ rest) =
        some ((Literal.bool conjunction).form, rest) := readUnnamed_literal d _ closed
    cases conjunction <;> exact read
  | [x] =>
    intro n rest fuel closed
    rw [sizeOf_joined, List.cons.sizeOf_spec] at fuel
    obtain ⟨m, left, read⟩ := back x List.mem_cons_self n rest (by omega) closed
    refine ⟨m, by rw [sizeOf_joined, List.cons.sizeOf_spec]; omega, ?_⟩
    cases conjunction <;> exact read
  | x :: y :: zs =>
    have separates := separates_joiner d conjunction
    refine readsBack_of_group (plain x List.mem_cons_self) (back x List.mem_cons_self)
      (by rw [sizeOf_joined, List.cons.sizeOf_spec]; omega) _ (sql_joined_cons conjunction x y zs)
      (fun rest => (separates _).1) fun n rest fuel => ?_
    have others : ∀ e ∈ y :: zs, e.ReadsBack d := fun e member => back e (List.mem_cons_of_mem _ member)
    rw [sizeOf_joined, List.cons.sizeOf_spec] at fuel
    have length := length_lt_sizeOf (y :: zs)
    have more := readMore_intercalate separates (reads_of_mem others (n := n) (by omega))
      (List.cons_ne_nil _ _) (n := n) (by omega) rest
    rw [form_joined]
    cases conjunction with
    | true => exact (readTail_word "AND".toList (List.all_eq_true.mp rfl) _).trans (readJoined_append more)
    | false => exact (readTail_word "OR".toList (List.all_eq_true.mp rfl) _).trans (readJoined_append more)

/-! ### Groups -/

theorem binary_readsBack {op : BinaryOp} {a b : Expr} (plain : (binary op a b).PlainNames d)
    (backA : a.ReadsBack d) (backB : b.ReadsBack d) : (binary op a b).ReadsBack d := by
  refine readsBack_of_group (plain.inside List.mem_cons_self) backA (by rw [binary.sizeOf_spec]; omega)
    (fun rest => ' ' :: (op.symbol ++ ' ' :: (b.sql d ++ ')' :: rest))) (fun rest => by simp [sql])
    (fun rest => by cases op <;> exact ⟨rfl, rfl⟩) fun n rest fuel => ?_
  rw [binary.sizeOf_spec] at fuel
  have noBlank : ∀ c ∈ op.symbol, (c != ' ') = true := by cases op <;> exact List.all_eq_true.mp rfl
  rw [readTail_word op.symbol noBlank, readWord_symbol]
  exact readRight_symbol op (backB.reads (by omega)) rest

theorem not_readsBack {e : Expr} (back : e.ReadsBack d) : (not e).ReadsBack d := by
  refine readsBack_of_unnamed fun n rest fuel _ => ?_
  rw [not.sizeOf_spec] at fuel
  have spelled : (not e).sql d ++ rest = '(' :: ("NOT ".toList ++ (e.sql d ++ ')' :: rest)) := by
    simp [sql]
  have read := back.reads (n := n) (by omega) (')' :: rest) (ends_bracket d rest)
  rw [spelled, readUnnamed_group]
  simp only [readGroup, skip?_append, read, skip?, if_true, Option.bind_eq_bind, Option.bind_some,
    Option.pure_def, form]

theorem inList_readsBack {e : Expr} {items : List Expr} {negated : Bool}
    (plain : (inList e items negated).PlainNames d) (back : e.ReadsBack d)
    (backItems : ∀ x ∈ items, x.ReadsBack d) : (inList e items negated).ReadsBack d := by
  refine readsBack_of_group (plain.inside List.mem_cons_self) back (by rw [inList.sizeOf_spec]; omega)
    (fun rest =>
      ' ' :: (notWord negated ++ ("IN (".toList ++ (commaSep (sqls d items) ++ ')' :: ')' :: rest))))
    (fun rest => by simp [sql]) (fun rest => by cases negated <;> exact ⟨rfl, rfl⟩) fun n rest fuel => ?_
  rw [inList.sizeOf_spec] at fuel
  have plainItems : ∀ x ∈ items, x.PlainNames d :=
    fun x member => plain.inside (List.mem_cons_of_mem _ member)
  have read := readItems_exprs plainItems backItems (n := n) (by omega) (')' :: rest)
  cases negated with
  | true => exact (readTail_word "NOT".toList (List.all_eq_true.mp rfl) _).trans (readList_append read)
  | false => exact (readTail_word "IN".toList (List.all_eq_true.mp rfl) _).trans (readList_append read)

theorem between_readsBack {e low high : Expr} (plain : (between e low high).PlainNames d)
    (back : e.ReadsBack d) (backLow : low.ReadsBack d) (backHigh : high.ReadsBack d) :
    (between e low high).ReadsBack d := by
  refine readsBack_of_group (plain.inside List.mem_cons_self) back (by rw [between.sizeOf_spec]; omega)
    (fun rest => " BETWEEN ".toList ++ (low.sql d ++ (" AND ".toList ++ (high.sql d ++ ')' :: rest))))
    (fun rest => by simp [sql]) (fun rest => ⟨rfl, rfl⟩) fun n rest fuel => ?_
  rw [between.sizeOf_spec] at fuel
  exact (readTail_word "BETWEEN".toList (List.all_eq_true.mp rfl) _).trans
    (readBounds_append (backLow.reads (by omega)) (backHigh.reads (by omega)) rest)

theorem isNull_readsBack {e : Expr} {negated : Bool} (plain : (isNull e negated).PlainNames d)
    (back : e.ReadsBack d) : (isNull e negated).ReadsBack d := by
  refine readsBack_of_group (plain.inside List.mem_cons_self) back (by rw [isNull.sizeOf_spec]; omega)
    (fun rest => " IS ".toList ++ (notWord negated ++ ("NULL)".toList ++ rest))) (fun rest => by simp [sql])
    (fun rest => ⟨rfl, rfl⟩) fun n rest _ => ?_
  refine (readTail_word "IS".toList (List.all_eq_true.mp rfl) _).trans ?_
  cases negated <;> rfl

theorem named_readsBack {e : Expr} {name : String} (plain : (named e name).PlainNames d)
    (back : e.ReadsBack d) : (named e name).ReadsBack d := by
  intro n rest fuel closed
  rw [named.sizeOf_spec] at fuel
  -- The name is no part of what `back` reads, so one unit of its fuel must be left for it.
  obtain ⟨m, left, read⟩ := back n (" AS ".toList ++ (d.ident name ++ rest)) (by omega) rfl
  obtain ⟨m, rfl⟩ : ∃ k, m = k + 1 := ⟨m - 1, by omega⟩
  refine ⟨m, by rw [named.sizeOf_spec]; omega, ?_⟩
  rw [sql, List.append_assoc, List.append_assoc, read,
    readNames_named (plain.own.1 name rfl) closed]
  rfl

theorem random_readsBack (d : Dialect) : random.ReadsBack d := by
  refine readsBack_of_unnamed fun n rest _ closed => ?_
  cases d with
  | polars => exact readUnnamed_name (by decide) (nameQuote_not_next .polars closed)
  | bigQuery => rfl
  | _ => rfl

/-- The text of an expression is read back as its form. -/
theorem readsBack {e : Expr} (plain : e.PlainNames d) : e.ReadsBack d := by
  induction e using Expr.induct with
  | column name =>
    exact readsBack_of_unnamed fun n rest _ closed =>
      readUnnamed_name (plain.own.1 name rfl) (nameQuote_not_next d closed)
  | wildcard => exact readsBack_of_unnamed fun n rest _ _ => readUnnamed_wildcard rest
  | literal value => exact readsBack_of_unnamed fun n rest _ closed => readUnnamed_literal d value closed
  | random => exact random_readsBack d
  | call name args ih => exact call_readsBack plain fun e member => ih e member (plain.inside member)
  | binary op a b ihA ihB =>
    exact binary_readsBack plain (ihA (plain.inside (by simp [children])))
      (ihB (plain.inside (by simp [children])))
  | all terms ih =>
    exact joined_readsBack true (fun x member => plain.inside member)
      fun x member => ih x member (plain.inside member)
  | any terms ih =>
    exact joined_readsBack false (fun x member => plain.inside member)
      fun x member => ih x member (plain.inside member)
  | not e ih => exact not_readsBack (ih (plain.inside List.mem_cons_self))
  | inList e items negated ih ihItems =>
    exact inList_readsBack plain (ih (plain.inside List.mem_cons_self))
      fun x member => ihItems x member (plain.inside (List.mem_cons_of_mem _ member))
  | between e low high ih ihLow ihHigh =>
    exact between_readsBack plain (ih (plain.inside (by simp [children])))
      (ihLow (plain.inside (by simp [children]))) (ihHigh (plain.inside (by simp [children])))
  | isNull e negated ih => exact isNull_readsBack plain (ih (plain.inside List.mem_cons_self))
  | named e name ih => exact named_readsBack plain (ih (plain.inside List.mem_cons_self))

/-- The whole text of an expression is read as its form. -/
theorem read_sql {e : Expr} (plain : e.PlainNames d) {n : Nat} (fuel : sizeOf e ≤ n) :
    Form.read d n (e.sql d) = some (e.form d, []) := by
  have read := (readsBack plain).reads fuel [] ⟨rfl, rfl⟩
  rwa [List.append_nil] at read

/-- Expressions of one text have one form. -/
theorem form_eq_of_sql_eq {a b : Expr} (plainA : a.PlainNames d) (plainB : b.PlainNames d)
    (same : a.sql d = b.sql d) : a.form d = b.form d := by
  have readA := read_sql plainA (Nat.le_max_left (sizeOf a) (sizeOf b))
  have readB := read_sql plainB (Nat.le_max_right (sizeOf a) (sizeOf b))
  rw [same, readB] at readA
  exact (congrArg Prod.fst (Option.some.inj readA)).symm

end Expr

end Profiling
