import Mathlib.Data.List.TakeWhile
import Profiling.Proofs.Sql.Lexeme

/-!
# Scanning statements

A scanner that counts brackets outside quotes, and cuts a text in front of each clause keyword that
stands outside quotes and brackets. `Passes` says of a text that the scanner gets through it without
a cut.
-/

namespace Profiling

open Text

/-- The clauses of a statement, in their order. -/
inductive Clause where
  | ctes
  | projection
  | source
  | selection
  | groupBy
  | orderBy
  | limit
deriving DecidableEq, Repr

namespace Clause

def all : List Clause := [ctes, projection, source, selection, groupBy, orderBy, limit]

def keyword : Clause → List Char
  | ctes => ['W', 'I', 'T', 'H']
  | projection => ['S', 'E', 'L', 'E', 'C', 'T']
  | source => ['F', 'R', 'O', 'M']
  | selection => ['W', 'H', 'E', 'R', 'E']
  | groupBy => ['G', 'R', 'O', 'U', 'P', ' ', 'B', 'Y']
  | orderBy => ['O', 'R', 'D', 'E', 'R', ' ', 'B', 'Y']
  | limit => ['L', 'I', 'M', 'I', 'T']

def word (k : Clause) : List Char := k.keyword.takeWhile isWordChar

/-- The clause that a word begins, in letters of whatever case. -/
def ofWord? (w : List Char) : Option Clause := all.find? fun k => k.word == w.map Char.toUpper

end Clause

/-- Whether a backslash in quotes takes the meaning of the character behind it. -/
def Dialect.escapes : Dialect → Bool
  | bigQuery => true
  | _ => false

def Dialect.isQuote (d : Dialect) (c : Char) : Bool := c == '\'' || c == '"' || c == d.nameQuote

/-! ### Positions -/

/-- Where a scanner stands: in so many brackets, and in quotes or not. -/
inductive Position where
  | outside (depth : Nat)
  | quoted (depth : Nat) (q : Char) (escaped : Bool)
deriving DecidableEq

namespace Position

def top : Position := outside 0

/-- The position behind a character; `none` where it closes a bracket that is not open. -/
def step (d : Dialect) : Position → Char → Option Position
  | outside n, c =>
    if d.isQuote c then some (quoted n c false)
    else if c = '(' then some (outside (n + 1))
    else if c = ')' then if n = 0 then none else some (outside (n - 1))
    else some (outside n)
  | quoted n q true, _ => some (quoted n q false)
  | quoted n q false, c =>
    if d.escapes && c = '\\' then some (quoted n q true)
    else if c = q then some (outside n)
    else some (quoted n q false)

def scan (d : Dialect) : Position → List Char → Option Position
  | p, [] => some p
  | p, c :: s => (p.step d c).bind fun next => scan d next s

/-- The same position in `k` more brackets. -/
def deeper (k : Nat) : Position → Position
  | outside n => outside (n + k)
  | quoted n q escaped => quoted (n + k) q escaped

theorem deeper_ne_top (k : Nat) (p : Position) : p.deeper (k + 1) ≠ top := by
  cases p <;> simp [deeper, top]

theorem step_quote {d : Dialect} {c : Char} (h : d.isQuote c = true) (n : Nat) :
    (outside n).step d c = some (quoted n c false) := by
  simp [step, h]

theorem step_open (d : Dialect) (n : Nat) : (outside n).step d '(' = some (outside (n + 1)) := by
  cases d <;> rfl

theorem step_close (d : Dialect) (n : Nat) : (outside (n + 1)).step d ')' = some (outside n) := by
  cases d <;> rfl

theorem step_close_top (d : Dialect) : top.step d ')' = none := by
  cases d <;> rfl

theorem step_plain {d : Dialect} {c : Char} (noQuote : d.isQuote c ≠ true)
    (noOpen : c ≠ '(') (noClose : c ≠ ')') (n : Nat) : (outside n).step d c = some (outside n) := by
  simp [step, noQuote, noOpen, noClose]

theorem step_escape {d : Dialect} {c : Char} (h : (d.escapes && c = '\\') = true) (n : Nat) (q : Char) :
    (quoted n q false).step d c = some (quoted n q true) := by
  rw [step, if_pos h]

theorem step_unquote {d : Dialect} {q : Char} (h : (d.escapes && q = '\\') ≠ true) (n : Nat) :
    (quoted n q false).step d q = some (outside n) := by
  rw [step, if_neg h, if_pos rfl]

theorem step_inside {d : Dialect} {c q : Char} (h : (d.escapes && c = '\\') ≠ true) (other : c ≠ q)
    (n : Nat) : (quoted n q false).step d c = some (quoted n q false) := by
  rw [step, if_neg h, if_neg other]

theorem step_deeper {d : Dialect} {p next : Position} {c : Char} (h : p.step d c = some next) (k : Nat) :
    (p.deeper k).step d c = some (next.deeper k) := by
  cases p with
  | outside n =>
    by_cases quote : d.isQuote c = true
    · rw [step_quote quote] at h
      obtain rfl := Option.some.inj h
      exact step_quote quote (n + k)
    · by_cases opens : c = '('
      · subst opens
        rw [step_open] at h
        obtain rfl := Option.some.inj h
        exact (step_open d (n + k)).trans (by simp only [deeper]; congr 2; omega)
      · by_cases closes : c = ')'
        · subst closes
          cases n with
          | zero => exact absurd h (by rw [show outside 0 = top from rfl, step_close_top]; exact nofun)
          | succ n =>
            rw [step_close] at h
            obtain rfl := Option.some.inj h
            rw [deeper, Nat.add_right_comm, step_close]
            rfl
        · rw [step_plain quote opens closes] at h
          obtain rfl := Option.some.inj h
          exact step_plain quote opens closes (n + k)
  | quoted n q escaped =>
    cases escaped with
    | true =>
      obtain rfl := Option.some.inj h
      rfl
    | false =>
      by_cases escape : (d.escapes && c = '\\') = true
      · rw [step_escape escape] at h
        obtain rfl := Option.some.inj h
        exact step_escape escape (n + k) q
      · by_cases closes : c = q
        · subst closes
          rw [step_unquote escape] at h
          obtain rfl := Option.some.inj h
          exact step_unquote escape (n + k)
        · rw [step_inside escape closes] at h
          obtain rfl := Option.some.inj h
          exact step_inside escape closes (n + k)

end Position

open Position

/-! ### Cutting -/

structure Cut where
  front : List Char
  clauses : List (Clause × List Char)
deriving DecidableEq

def Cut.behind (x : List Char) (r : Cut) : Cut := ⟨x ++ r.front, r.clauses⟩

/-- The clause whose keyword stands at the start of a text, outside quotes and brackets and not
within a word. -/
def clauseAt? (p : Position) (inWord : Bool) (s : List Char) : Option Clause :=
  if p = top && !inWord then Clause.ofWord? (s.takeWhile isWordChar) else none

/-- Cuts a text. There is none for a text that closes a bracket which is not open, or that ends in
quotes or in brackets. -/
def cut (d : Dialect) : Position → (inWord : Bool) → List Char → Option Cut
  | p, _, [] => if p = top then some ⟨[], []⟩ else none
  | p, inWord, c :: s =>
    (p.step d c).bind fun next => (cut d next (p = top && isWordChar c) s).map fun r =>
      match clauseAt? p inWord (c :: s) with
      | some k => ⟨[], (k, c :: r.front) :: r.clauses⟩
      | none => r.behind [c]

variable {d : Dialect}

theorem Cut.behind_behind (x y : List Char) (r : Cut) : (r.behind y).behind x = r.behind (x ++ y) := by
  simp [behind]

theorem map_behind_nil (r : Option Cut) : r.map (Cut.behind []) = r := by cases r <;> rfl

theorem map_behind_behind (x y : List Char) (r : Option Cut) :
    (r.map (Cut.behind y)).map (Cut.behind x) = r.map (Cut.behind (x ++ y)) := by
  cases r with
  | none => rfl
  | some r => exact congrArg some (r.behind_behind x y)

/-- What can be cut is closed. -/
theorem scan_of_cut {p : Position} {inWord : Bool} {s : List Char} {r : Cut} (h : cut d p inWord s = some r) :
    scan d p s = some top := by
  induction s generalizing p inWord r with
  | nil =>
    unfold cut at h
    split at h
    · next isTop => exact congrArg some isTop
    · cases h
  | cons c s ih =>
    unfold cut at h
    obtain ⟨next, step, h⟩ := Option.bind_eq_some_iff.mp h
    obtain ⟨rest, found, -⟩ := Option.map_eq_some_iff.mp h
    rw [scan, step]
    exact ih found

theorem cut_cons {p next : Position} {inWord : Bool} {c : Char} {s : List Char}
    (step : p.step d c = some next) (noClause : clauseAt? p inWord (c :: s) = none) :
    cut d p inWord (c :: s) = (cut d next (p = top && isWordChar c) s).map (Cut.behind [c]) := by
  rw [cut, step, noClause]
  rfl

/-! ### Getting through -/

/-- Whether a text goes on without a character of a word. -/
def Stops (s : List Char) : Prop := ∀ c t, s = c :: t → isWordChar c = false

theorem stops_nil : Stops [] := nofun

theorem stops_cons {c : Char} (h : isWordChar c = false) (s : List Char) : Stops (c :: s) := by
  rintro c' t ⟨⟩
  exact h

theorem Stops.append {x y : List Char} (hx : Stops x) (hy : Stops y) : Stops (x ++ y) := by
  cases x with
  | nil => exact hy
  | cons c x => exact stops_cons (hx c x rfl) (x ++ y)

theorem clauseAt?_of_ne_top {p : Position} (h : p ≠ top) (inWord : Bool) (s : List Char) :
    clauseAt? p inWord s = none := by
  simp [clauseAt?, h]

theorem clauseAt?_inWord (p : Position) (s : List Char) : clauseAt? p true s = none := by
  simp [clauseAt?]

theorem clauseAt?_of_not_word (p : Position) (inWord : Bool) {c : Char} (h : isWordChar c = false)
    (s : List Char) : clauseAt? p inWord (c :: s) = none := by
  rw [clauseAt?, List.takeWhile_cons_of_neg (by simp [h])]
  split <;> rfl

theorem cut_of_stops {s : List Char} (h : Stops s) (p : Position) (inWord : Bool) :
    cut d p inWord s = cut d p false s := by
  cases s with
  | nil => rfl
  | cons c s =>
    have noWord := h c s rfl
    rw [cut, cut, clauseAt?_of_not_word p inWord noWord, clauseAt?_of_not_word p false noWord]

/-- A closed text is got through in brackets, whatever stands in it. -/
theorem cut_deeper {p next : Position} {x : List Char} (closed : scan d p x = some next) (k : Nat)
    (rest : List Char) : cut d (p.deeper (k + 1)) false (x ++ rest) =
      (cut d (next.deeper (k + 1)) false rest).map (Cut.behind x) := by
  induction x generalizing p with
  | nil =>
    obtain rfl := Option.some.inj closed
    exact (map_behind_nil _).symm
  | cons c x ih =>
    rw [scan] at closed
    obtain ⟨middle, step, closed⟩ := Option.bind_eq_some_iff.mp closed
    have below := p.deeper_ne_top k
    rw [List.cons_append, cut_cons (step_deeper step _) (clauseAt?_of_ne_top below _ _)]
    simp only [below, decide_false, Bool.false_and, ih closed, map_behind_behind]
    rfl

/-- A text that the scanner gets through outside quotes and brackets without a cut, if no character
of a word follows. -/
def Passes (d : Dialect) (x : List Char) : Prop :=
  ∀ rest, Stops rest → cut d top false (x ++ rest) = (cut d top false rest).map (Cut.behind x)

/-- A character that is no part of a word and has no meaning to the scanner. -/
def Dialect.isMark (d : Dialect) (c : Char) : Bool :=
  !isWordChar c && !d.isQuote c && c != '(' && c != ')'

theorem Dialect.isQuote_eq_false (d : Dialect) {c : Char} (h : isWordChar c = true) :
    d.isQuote c = false := by
  rw [← Bool.not_eq_true]
  intro quote
  simp only [isQuote, Bool.or_eq_true, beq_iff_eq] at quote
  rcases quote with (rfl | rfl) | rfl
  · exact absurd h (by decide)
  · exact absurd h (by decide)
  · exact absurd h (by cases d <;> decide)

theorem step_word {c : Char} (h : isWordChar c = true) : top.step d c = some top := by
  refine step_plain ?_ ?_ ?_ 0
  · simp [d.isQuote_eq_false h]
  · rintro rfl
    exact absurd h (by decide)
  · rintro rfl
    exact absurd h (by decide)

theorem step_mark {c : Char} (h : d.isMark c = true) : top.step d c = some top := by
  simp only [Dialect.isMark, Bool.and_eq_true, Bool.not_eq_true', bne_iff_ne] at h
  exact step_plain (by simp [h]) h.1.2 h.2 0

theorem isWordChar_of_isMark {c : Char} (h : d.isMark c = true) : isWordChar c = false := by
  simp only [Dialect.isMark, Bool.and_eq_true, Bool.not_eq_true'] at h
  exact h.1.1.1

theorem cut_mark {c : Char} (h : d.isMark c = true) (inWord : Bool) (rest : List Char) :
    cut d top inWord (c :: rest) = (cut d top false rest).map (Cut.behind [c]) := by
  have noWord := isWordChar_of_isMark h
  rw [cut_cons (step_mark h) (clauseAt?_of_not_word _ _ noWord _), noWord, Bool.and_false]

theorem cut_inWord {x rest : List Char} (word : ∀ c ∈ x, isWordChar c = true) (stops : Stops rest) :
    cut d top true (x ++ rest) = (cut d top false rest).map (Cut.behind x) := by
  induction x with
  | nil => exact (cut_of_stops stops top true).trans (map_behind_nil _).symm
  | cons c x ih =>
    obtain ⟨first, others⟩ := List.forall_mem_cons.mp word
    rw [List.cons_append, cut_cons (step_word first) (clauseAt?_inWord _ _), first]
    exact (congrArg _ (ih others)).trans (map_behind_behind [c] x _)

/-- A digit begins no keyword. -/
theorem Clause.ofWord?_of_digit {c : Char} (h : c.isDigit = true) (s : List Char) :
    ofWord? (c :: s) = none := by
  have same : c.toUpper = c := by
    simp only [Char.isDigit, Bool.and_eq_true, decide_eq_true_eq] at h
    unfold Char.toUpper
    split
    · next letter =>
      exfalso
      simp [UInt32.le_iff_toNat_le] at h letter
      omega
    · rfl
  refine List.find?_eq_none.mpr fun k _ found => ?_
  have first : k.word.head? = some c := by
    rw [eq_of_beq found, List.map_cons, same]
    rfl
  have letter : k.word.head?.all (!·.isDigit) = true := by cases k <;> decide
  simp [first, h] at letter

/-! ### Quotes -/

theorem isWordChar_of_isQuote {q : Char} (h : d.isQuote q = true) : isWordChar q = false := by
  rw [← Bool.not_eq_true]
  intro word
  rw [d.isQuote_eq_false word] at h
  cases h

theorem not_escape_of_isQuote {q : Char} (h : d.isQuote q = true) : (d.escapes && q = '\\') ≠ true := by
  intro escape
  obtain ⟨-, same⟩ := Bool.and_eq_true_iff.mp escape
  obtain rfl := of_decide_eq_true same
  exact absurd h (by cases d <;> decide)

theorem cut_quoted {q : Char} {escaped : Bool} {next : Position} {c : Char}
    (step : (Position.quoted 0 q escaped).step d c = some next) (s : List Char) :
    cut d (.quoted 0 q escaped) false (c :: s) = (cut d next false s).map (Cut.behind [c]) := by
  have inside : Position.quoted 0 q escaped ≠ top := by simp [top]
  rw [cut_cons step (clauseAt?_of_ne_top inside _ _)]
  simp only [inside, decide_false, Bool.false_and]

theorem cut_enquote {q : Char} (isQuote : d.isQuote q = true) (s : List Char) :
    cut d top false (q :: s) = (cut d (.quoted 0 q false) false s).map (Cut.behind [q]) := by
  have noWord := isWordChar_of_isQuote isQuote
  have step : top.step d q = some (.quoted 0 q false) := step_quote isQuote 0
  rw [cut_cons step (clauseAt?_of_not_word _ _ noWord _), noWord, Bool.and_false]

theorem cut_unquote {q : Char} (isQuote : d.isQuote q = true) (s : List Char) :
    cut d (.quoted 0 q false) false (q :: s) = (cut d top false s).map (Cut.behind [q]) :=
  cut_quoted (step_unquote (not_escape_of_isQuote isQuote) 0) s

/-- A quote that is written twice ends the quoted text and begins it again. -/
theorem cut_doubleAll {q : Char} (isQuote : d.isQuote q = true) {s : List Char}
    (noEscape : d.escapes = true → '\\' ∉ s) (rest : List Char) :
    cut d (.quoted 0 q false) false (doubleAll q s ++ q :: rest) =
      (cut d top false rest).map (Cut.behind (doubleAll q s ++ [q])) := by
  induction s with
  | nil => exact cut_unquote isQuote rest
  | cons c s ih =>
    have later := ih fun escapes => fun member => noEscape escapes (List.mem_cons_of_mem c member)
    rw [doubleAll_cons]
    by_cases same : c = q
    · -- Out of the quotes and in again, with no character between.
      subst same
      rw [if_pos rfl]
      show cut d _ false (c :: c :: (doubleAll c s ++ c :: rest)) = _
      rw [cut_unquote isQuote, cut_enquote isQuote, later, map_behind_behind, map_behind_behind]
      rfl
    · have noEscape' : (d.escapes && c = '\\') ≠ true := by
        intro escape
        obtain ⟨escapes, back⟩ := Bool.and_eq_true_iff.mp escape
        exact noEscape escapes (of_decide_eq_true back ▸ List.mem_cons_self)
      rw [if_neg same]
      show cut d _ false (c :: (doubleAll q s ++ q :: rest)) = _
      rw [cut_quoted (step_inside noEscape' same 0), later, map_behind_behind]
      rfl

/-- A backslash hides the quote behind it. -/
theorem cut_escapeAll {q : Char} (isQuote : d.isQuote q = true) (escapes : d.escapes = true)
    (s rest : List Char) : cut d (.quoted 0 q false) false (escapeAll q s ++ q :: rest) =
      (cut d top false rest).map (Cut.behind (escapeAll q s ++ [q])) := by
  induction s with
  | nil => exact cut_unquote isQuote rest
  | cons c s ih =>
    rw [escapeAll_cons]
    by_cases special : (c = q || c = '\\') = true
    · -- Here alone the scanner steps through an escape.
      rw [if_pos special]
      show cut d _ false ('\\' :: c :: (escapeAll q s ++ q :: rest)) = _
      rw [cut_quoted (step_escape (by simp [escapes]) 0 q), cut_quoted rfl, ih, map_behind_behind,
        map_behind_behind]
      rfl
    · rw [if_neg special]
      simp only [Bool.or_eq_true, decide_eq_true_eq, not_or] at special
      show cut d _ false (c :: (escapeAll q s ++ q :: rest)) = _
      rw [cut_quoted (step_inside (by simp [special.2]) special.1 0), ih, map_behind_behind]
      rfl

namespace Passes

variable {x y : List Char}

theorem nil : Passes d [] := fun _ _ => (map_behind_nil _).symm

theorem append (hx : Passes d x) (hy : Passes d y) (stops : Stops y) : Passes d (x ++ y) := by
  intro rest h
  rw [List.append_assoc, hx _ (stops.append h), hy rest h, map_behind_behind]

theorem closed (h : Passes d x) : scan d top x = some top := by
  have found := h [] stops_nil
  rw [List.append_nil] at found
  exact scan_of_cut found

theorem mark {c : Char} (h : d.isMark c = true) (hx : Passes d x) : Passes d (c :: x) := by
  intro rest stops
  rw [List.cons_append, cut_mark h, hx rest stops, map_behind_behind]
  rfl

theorem behind_mark {c : Char} (hx : Passes d x) (h : d.isMark c = true) (hy : Passes d y) :
    Passes d (x ++ c :: y) :=
  hx.append (hy.mark h) (stops_cons (isWordChar_of_isMark h) y)

theorem word (chars : ∀ c ∈ x, isWordChar c = true) (noClause : Clause.ofWord? x = none) : Passes d x := by
  intro rest stops
  cases x with
  | nil => exact nil rest stops
  | cons c x =>
    obtain ⟨first, others⟩ := List.forall_mem_cons.mp chars
    have noCut : clauseAt? top false (c :: (x ++ rest)) = none := by
      rw [← List.cons_append, clauseAt?, takeWhile_append_of_stop chars stops, noClause]
      rfl
    rw [List.cons_append, cut_cons (step_word first) noCut, first]
    exact (congrArg _ (cut_inWord others stops)).trans (map_behind_behind [c] x _)

/-- Digits and marks between them are got through, in the middle of a word as well. -/
theorem cut_digits (chars : ∀ c ∈ x, c.isDigit = true ∨ d.isMark c = true) {rest : List Char}
    (stops : Stops rest)
    (inWord : Bool) : cut d top inWord (x ++ rest) = (cut d top false rest).map (Cut.behind x) := by
  induction x generalizing inWord with
  | nil => exact (cut_of_stops stops top inWord).trans (map_behind_nil _).symm
  | cons c x ih =>
    obtain ⟨first, others⟩ := List.forall_mem_cons.mp chars
    rcases first with digit | mark
    · have noCut : clauseAt? top inWord (c :: (x ++ rest)) = none := by
        rw [clauseAt?, List.takeWhile_cons_of_pos (isWordChar_of_isDigit digit),
          Clause.ofWord?_of_digit digit]
        split <;> rfl
      rw [List.cons_append, cut_cons (step_word (isWordChar_of_isDigit digit)) noCut]
      exact (congrArg _ (ih others _)).trans (map_behind_behind [c] x _)
    · rw [List.cons_append, cut_mark mark, ih others, map_behind_behind]
      rfl

theorem digits (chars : ∀ c ∈ x, c.isDigit = true ∨ d.isMark c = true) : Passes d x :=
  fun _ stops => cut_digits chars stops false

/-- Brackets around a closed text, whatever stands in it. -/
theorem group (h : scan d top x = some top) : Passes d ('(' :: x ++ [')']) := by
  intro rest _
  have opens : clauseAt? top false ('(' :: (x ++ ')' :: rest)) = none := clauseAt?_of_not_word _ _ rfl _
  have closes : clauseAt? (outside 1) false (')' :: rest) = none := clauseAt?_of_not_word _ _ rfl _
  have inside := cut_deeper h 0 (')' :: rest)
  have step : top.step d '(' = some (top.deeper 1) := step_open d 0
  rw [show ('(' :: x ++ [')']) ++ rest = '(' :: (x ++ ')' :: rest) by simp, cut_cons step opens]
  show Option.map _ (cut d (top.deeper 1) false _) = _
  rw [inside]
  show Option.map _ (Option.map _ (cut d (outside 1) false (')' :: rest))) = _
  rw [cut_cons (step_close d 0) closes, map_behind_behind, map_behind_behind]
  simp [top]

theorem quoted {q : Char} (isQuote : d.isQuote q = true)
    (inside : ∀ rest, cut d (.quoted 0 q false) false (x ++ q :: rest) =
      (cut d top false rest).map (Cut.behind (x ++ [q]))) : Passes d (q :: x ++ [q]) := by
  intro rest _
  rw [show (q :: x ++ [q]) ++ rest = q :: (x ++ q :: rest) by simp, cut_enquote isQuote, inside,
    map_behind_behind]
  rfl

/-- A text whose quotes are written twice. Where a backslash escapes, it must not have any. -/
theorem quoteDoubled {q : Char} (isQuote : d.isQuote q = true) {s : List Char}
    (noEscape : d.escapes = true → '\\' ∉ s) : Passes d (Text.quoteDoubled q s) :=
  quoted isQuote fun rest => cut_doubleAll isQuote noEscape rest

/-- A text whose quotes and backslashes stand behind a backslash. -/
theorem quoteEscaped {q : Char} (isQuote : d.isQuote q = true) (escapes : d.escapes = true) (s : List Char) :
    Passes d (Text.quoteEscaped q s) :=
  quoted isQuote fun rest => cut_escapeAll isQuote escapes s rest

end Passes

/-! ### Clauses -/

namespace Clause

theorem ofWord?_word (k : Clause) : ofWord? k.word = some k := by
  cases k <;> decide

theorem isWordChar_of_mem_word (k : Clause) : ∀ c ∈ k.word, isWordChar c = true :=
  fun _ => List.mem_takeWhile_imp

theorem passes_by : Passes d [' ', 'B', 'Y'] :=
  (Passes.word (List.all_eq_true.mp (by decide)) (by decide)).mark (by cases d <;> decide)

/-- A keyword is one word, or one and a further one that begins no clause. -/
theorem keyword_shape (k : Clause) : ∃ x, k.keyword = k.word ++ x ∧ Passes d x ∧ Stops x := by
  cases k with
  | groupBy => exact ⟨[' ', 'B', 'Y'], by decide, passes_by, stops_cons rfl _⟩
  | orderBy => exact ⟨[' ', 'B', 'Y'], by decide, passes_by, stops_cons rfl _⟩
  | _ => exact ⟨[], by decide, .nil, stops_nil⟩

def text (k : Clause) (x : List Char) : List Char := k.keyword ++ ' ' :: x

end Clause

/-- The scanner cuts in front of a clause and gets through it. -/
theorem cut_clause (k : Clause) {x rest : List Char} (passes : Passes d x) (stops : Stops rest) :
    cut d top false (k.text x ++ rest) =
      (cut d top false rest).map fun r => ⟨[], (k, k.text x ++ r.front) :: r.clauses⟩ := by
  obtain ⟨y, shape, passesY, stopsY⟩ := k.keyword_shape (d := d)
  have passesTail : Passes d (y ++ ' ' :: x) := passesY.behind_mark (by cases d <;> decide) passes
  have stopsTail : Stops ((y ++ ' ' :: x) ++ rest) := (stopsY.append (stops_cons rfl x)).append stops
  -- The cut is in front of the first character. The others are in a word and begin no clause.
  obtain ⟨c, w, word⟩ : ∃ c w, k.word = c :: w := List.exists_cons_of_ne_nil (by cases k <;> decide)
  have shown : k.text x = c :: (w ++ (y ++ ' ' :: x)) := by simp [Clause.text, shape, word]
  have chars := k.isWordChar_of_mem_word
  have found : clauseAt? top false (c :: ((w ++ (y ++ ' ' :: x)) ++ rest)) = some k := by
    rw [← List.cons_append, ← List.cons_append, ← word, List.append_assoc, clauseAt?,
      takeWhile_append_of_stop chars stopsTail, k.ofWord?_word]
    rfl
  rw [word] at chars
  obtain ⟨first, others⟩ := List.forall_mem_cons.mp chars
  have inside : cut d top true ((w ++ (y ++ ' ' :: x)) ++ rest) =
      (cut d top false rest).map (Cut.behind (w ++ (y ++ ' ' :: x))) := by
    rw [List.append_assoc, cut_inWord others stopsTail, passesTail rest stops, map_behind_behind]
  rw [shown, List.cons_append, cut, step_word first, found, first]
  show Option.map _ (cut d top true _) = _
  rw [inside, Option.map_map]
  rfl

def spaced : List (Clause × List Char) → List (Clause × List Char)
  | [] => []
  | [c] => [c]
  | (k, x) :: c :: cs => (k, x ++ [' ']) :: spaced (c :: cs)

/-- Clauses with blanks between them are cut into themselves. -/
theorem cut_clauses {content : Clause → List Char} {ks : List Clause}
    (passes : ∀ k ∈ ks, Passes d (content k)) :
    cut d top false (List.intercalate [' '] (ks.map fun k => k.text (content k))) =
      some ⟨[], spaced (ks.map fun k => (k, k.text (content k)))⟩ := by
  induction ks with
  | nil => rfl
  | cons k ks ih =>
    obtain ⟨first, others⟩ := List.forall_mem_cons.mp passes
    cases ks with
    | nil =>
      have alone := cut_clause k first stops_nil
      rw [List.append_nil] at alone
      rw [List.map_singleton, List.intercalate_singleton, alone]
      show some (Cut.mk [] [(k, _ ++ [])]) = _
      rw [List.append_nil]
      rfl
    | cons k' ks =>
      have blank : d.isMark ' ' = true := by cases d <;> decide
      have later := ih others
      rw [List.map_cons, List.map_cons, List.intercalate_cons_cons, List.append_assoc, List.singleton_append,
        cut_clause k first (stops_cons rfl _), cut_mark blank]
      rw [List.map_cons] at later
      rw [later]
      rfl

end Profiling
