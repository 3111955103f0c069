import Profiling.Proofs.Sql.Scanner

/-!
# Comments

A lexer that counts the brackets outside quotes and comments. What it does with a character depends on
its mode alone, so a text that it reads in no brackets it reads in the same way in any number of them.
-/

namespace Profiling

open Text

/-- The character before, where it can begin or end a comment together with the next one. -/
inductive Half where
  | none
  | dash
  | slash
  | star
deriving DecidableEq

namespace Half

def inCode (c : Char) : Half := if c = '-' then dash else if c = '/' then slash else none

def inBlock (c : Char) : Half := if c = '*' then star else if c = '/' then slash else none

end Half

inductive Mode where
  | code (half : Half)
  | quoted (q : Char) (escaped : Bool)
  | line
  /-- A comment up to its end, in so many others. -/
  | block (outer : Nat) (half : Half)
deriving DecidableEq

structure Lexer where
  dialect : Dialect
  nests : Bool

namespace Lexer

structure State where
  depth : Nat
  mode : Mode
deriving DecidableEq

def top : State := ⟨0, .code .none⟩

def endsLine (c : Char) : Bool := c == '\n' || c == '\r'

def next (l : Lexer) : Mode → Char → Mode
  | .code half, c =>
    if half = .dash ∧ c = '-' then .line
    else if half = .slash ∧ c = '*' then .block 0 .none
    else if l.dialect.isQuote c then .quoted c false
    else .code (.inCode c)
  | .quoted q true, _ => .quoted q false
  | .quoted q false, c =>
    if l.dialect.escapes && c = '\\' then .quoted q true
    else if c = q then .code .none
    else .quoted q false
  | .line, c => if endsLine c then .code .none else .line
  | .block outer half, c =>
    if half = .star ∧ c = '/' then
      match outer with
      | 0 => .code .none
      | outer + 1 => .block outer .none
    else if half = .slash ∧ c = '*' ∧ l.nests then .block (outer + 1) .none
    else .block outer (.inBlock c)

/-- The number of open brackets behind a character; `none` where it closes one that is not open. -/
def bracket (c : Char) (n : Nat) : Option Nat :=
  if c = '(' then some (n + 1)
  else if c = ')' then if n = 0 then none else some (n - 1)
  else some n

def depthBehind : Mode → Char → Nat → Option Nat
  | .code _, c, n => bracket c n
  | _, _, n => some n

def step (l : Lexer) (s : State) (c : Char) : Option State :=
  (depthBehind s.mode c s.depth).map fun depth => ⟨depth, l.next s.mode c⟩

def run (l : Lexer) (s : State) (x : List Char) : Option State := x.foldlM l.step s

variable {l : Lexer} {x y : List Char}

theorem run_cons (l : Lexer) (s : State) (c : Char) (x : List Char) :
    l.run s (c :: x) = (l.step s c).bind fun next => l.run next x := rfl

theorem run_append (l : Lexer) (s : State) (x y : List Char) :
    l.run s (x ++ y) = (l.run s x).bind fun next => l.run next y := List.foldlM_append

/-! ### Brackets around a text -/

def State.deeper (k : Nat) (s : State) : State := ⟨s.depth + k, s.mode⟩

theorem bracket_deeper {c : Char} {n depth : Nat} (moved : bracket c n = some depth) (k : Nat) :
    bracket c (n + k) = some (depth + k) := by
  unfold bracket at moved ⊢
  split_ifs at moved ⊢ <;> grind

theorem depthBehind_deeper {mode : Mode} {c : Char} {n depth : Nat} (moved : depthBehind mode c n = some depth)
    (k : Nat) : depthBehind mode c (n + k) = some (depth + k) := by
  cases mode with
  | code half => exact bracket_deeper moved k
  | _ =>
    obtain rfl := Option.some.inj moved
    rfl

theorem step_deeper {s next : State} {c : Char} (h : l.step s c = some next) (k : Nat) :
    l.step (s.deeper k) c = some (next.deeper k) := by
  obtain ⟨depth, moved, rfl⟩ := Option.map_eq_some_iff.mp h
  exact Option.map_eq_some_iff.mpr ⟨depth + k, depthBehind_deeper moved k, rfl⟩

theorem run_deeper {s next : State} (h : l.run s x = some next) (k : Nat) :
    l.run (s.deeper k) x = some (next.deeper k) := by
  induction x generalizing s with
  | nil =>
    obtain rfl := Option.some.inj h
    rfl
  | cons c x ih =>
    rw [run_cons] at h ⊢
    obtain ⟨middle, first, rest⟩ := Option.bind_eq_some_iff.mp h
    rw [step_deeper first k]
    exact ih rest

/-! ### Balanced texts -/

/-- Whether the lexer stands behind a text as it stood in front of it. -/
def Balanced (l : Lexer) (x : List Char) : Prop := l.run top x = some top

/-- The characters that mean something to a lexer where code stands. -/
def special : List Char := ['\'', '"', Char.ofNat 0x60, '(', ')', '-', '/']

def isInert (c : Char) : Bool := !special.contains c

theorem isQuote_of_isInert {c : Char} (inert : isInert c = true) (d : Dialect) : d.isQuote c = false := by
  rw [← Bool.not_eq_true]
  intro quote
  simp only [Dialect.isQuote, Bool.or_eq_true, beq_iff_eq] at quote
  rcases quote with (rfl | rfl) | rfl
  · exact absurd inert (by decide)
  · exact absurd inert (by decide)
  · exact absurd inert (by cases d <;> decide)

theorem isInert_of_isWordChar {c : Char} (word : isWordChar c = true) : isInert c = true := by
  have noWords : special.all (fun c => !isWordChar c) = true := by decide
  rw [isInert, Bool.not_eq_true', ← Bool.not_eq_true, List.contains_iff_mem]
  intro meant
  have noWord := List.all_eq_true.mp noWords c meant
  rw [word] at noWord
  cases noWord

theorem depthBehind_of_isInert {c : Char} (inert : isInert c = true) (mode : Mode) (n : Nat) :
    depthBehind mode c n = some n := by
  have noOpen : c ≠ '(' := by
    rintro rfl
    cases inert
  have noClose : c ≠ ')' := by
    rintro rfl
    cases inert
  cases mode <;> simp [depthBehind, bracket, noOpen, noClose]

theorem step_inert {c : Char} (inert : isInert c = true) (half : Half) (apart : c = '*' → half ≠ .slash)
    (n : Nat) : l.step ⟨n, .code half⟩ c = some ⟨n, .code .none⟩ := by
  have quote := isQuote_of_isInert inert l.dialect
  have noDash : c ≠ '-' := by
    rintro rfl
    cases inert
  have noSlash : c ≠ '/' := by
    rintro rfl
    cases inert
  have begins : ¬ (half = .slash ∧ c = '*') := fun h => apart h.2 h.1
  simp [step, depthBehind_of_isInert inert, next, Half.inCode, quote, noDash, noSlash, begins]

theorem run_inert (chars : ∀ c ∈ x, isInert c = true) (n : Nat) :
    l.run ⟨n, .code .none⟩ x = some ⟨n, .code .none⟩ := by
  induction x with
  | nil => rfl
  | cons c x ih =>
    obtain ⟨first, others⟩ := List.forall_mem_cons.mp chars
    rw [run_cons, step_inert first .none nofun]
    exact ih others

theorem step_sign {c : Char} (sign : c = '-' ∨ c = '/') (l : Lexer) (n : Nat) :
    l.step ⟨n, .code .none⟩ c = some ⟨n, .code (.inCode c)⟩ := by
  have quote : l.dialect.isQuote c = false := by rcases sign with rfl | rfl <;> cases l.dialect <;> decide
  rcases sign with rfl | rfl <;> simp [step, depthBehind, bracket, next, Half.inCode, quote]

theorem step_open (l : Lexer) (n : Nat) (half : Half) : l.step ⟨n, .code half⟩ '(' = some ⟨n + 1, .code .none⟩ := by
  have quote : l.dialect.isQuote '(' = false := by cases l.dialect <;> decide
  simp [step, depthBehind, bracket, next, Half.inCode, quote]

theorem step_close (l : Lexer) (n : Nat) (half : Half) : l.step ⟨n + 1, .code half⟩ ')' = some ⟨n, .code .none⟩ := by
  have quote : l.dialect.isQuote ')' = false := by cases l.dialect <;> decide
  simp [step, depthBehind, bracket, next, Half.inCode, quote]

namespace Balanced

theorem nil : l.Balanced [] := rfl

theorem append (hx : l.Balanced x) (hy : l.Balanced y) : l.Balanced (x ++ y) := by
  rw [Balanced, run_append, hx]
  exact hy

theorem inert (chars : x.all isInert = true) : l.Balanced x :=
  run_inert (List.all_eq_true.mp chars) 0

theorem between (hx : l.Balanced x) {sep : List Char} (separator : sep.all isInert = true) (hy : l.Balanced y) :
    l.Balanced (x ++ (sep ++ y)) := hx.append ((inert separator).append hy)

theorem intercalate {sep : List Char} (separator : l.Balanced sep) {xs : List (List Char)}
    (balanced : ∀ x ∈ xs, l.Balanced x) : l.Balanced (List.intercalate sep xs) := by
  induction xs with
  | nil => exact nil
  | cons x xs ih =>
    obtain ⟨first, others⟩ := List.forall_mem_cons.mp balanced
    cases xs with
    | nil => simpa using first
    | cons y ys =>
      rw [List.intercalate_cons_cons]
      exact (first.append separator).append (ih others)

theorem flatMap {α : Type} {f : α → List Char} {xs : List α} (balanced : ∀ x ∈ xs, l.Balanced (f x)) :
    l.Balanced (xs.flatMap f) := by
  induction xs with
  | nil => exact nil
  | cons x xs ih =>
    obtain ⟨first, others⟩ := List.forall_mem_cons.mp balanced
    rw [List.flatMap_cons]
    exact first.append (ih others)

/-- A minus sign needs something behind it, or it could begin a comment. -/
theorem minus (chars : ∀ c ∈ x, isInert c = true) (nonempty : x ≠ []) : l.Balanced ('-' :: x) := by
  obtain ⟨c, x, rfl⟩ := List.exists_cons_of_ne_nil nonempty
  obtain ⟨first, others⟩ := List.forall_mem_cons.mp chars
  rw [Balanced, run_cons, top, step_sign (.inl rfl)]
  show l.run _ (c :: x) = _
  rw [run_cons, step_inert first (.inCode '-') nofun]
  exact run_inert others 0

/-- A blank behind a sign keeps it from beginning a comment. -/
theorem sign {c : Char} (sign : c = '-' ∨ c = '/') : l.Balanced [c, ' '] := by
  rw [Balanced, run_cons, top, step_sign sign]
  show l.run _ [' '] = _
  rw [run_cons, step_inert (c := ' ') rfl _ fun star => absurd star (by decide)]
  rfl

theorem group {half : Half} (inside : l.run top x = some ⟨0, .code half⟩) : l.Balanced ('(' :: x ++ [')']) := by
  have opened : l.run (top.deeper 1) x = some ⟨1, .code half⟩ := run_deeper inside 1
  rw [List.cons_append, Balanced, run_cons, top, step_open]
  show l.run (top.deeper 1) (x ++ [')']) = _
  rw [run_append, opened]
  show l.run ⟨1, .code half⟩ [')'] = _
  rw [run_cons, step_close]
  rfl

end Balanced

/-! ### Quotes -/

theorem step_quoted (l : Lexer) (n : Nat) (q : Char) (escaped : Bool) (c : Char) :
    l.step ⟨n, .quoted q escaped⟩ c = some ⟨n, l.next (.quoted q escaped) c⟩ := rfl

theorem step_enquote {q : Char} (isQuote : l.dialect.isQuote q = true) (n : Nat) :
    l.step ⟨n, .code .none⟩ q = some ⟨n, .quoted q false⟩ := by
  have noOpen : q ≠ '(' := by
    rintro rfl
    exact absurd isQuote (by cases l.dialect <;> decide)
  have noClose : q ≠ ')' := by
    rintro rfl
    exact absurd isQuote (by cases l.dialect <;> decide)
  simp [step, depthBehind, bracket, next, isQuote, noOpen, noClose]

theorem step_unquote {q : Char} (isQuote : l.dialect.isQuote q = true) (n : Nat) :
    l.step ⟨n, .quoted q false⟩ q = some ⟨n, .code .none⟩ := by
  simp only [step_quoted, next, if_neg (not_escape_of_isQuote isQuote), if_true]

theorem step_inside {c q : Char} (noEscape : (l.dialect.escapes && c = '\\') ≠ true) (other : c ≠ q) (n : Nat) :
    l.step ⟨n, .quoted q false⟩ c = some ⟨n, .quoted q false⟩ := by
  simp only [step_quoted, next, if_neg noEscape, if_neg other]

theorem step_escape {q : Char} (escapes : l.dialect.escapes = true) (n : Nat) :
    l.step ⟨n, .quoted q false⟩ '\\' = some ⟨n, .quoted q true⟩ := by
  simp [step_quoted, next, escapes]

/-- A quote that is written twice ends the quoted text and begins it again. -/
theorem run_doubleAll {q : Char} (isQuote : l.dialect.isQuote q = true)
    (noEscape : l.dialect.escapes = true → '\\' ∉ x) (n : Nat) :
    l.run ⟨n, .quoted q false⟩ (doubleAll q x) = some ⟨n, .quoted q false⟩ := by
  induction x with
  | nil => rfl
  | cons c x ih =>
    have later := ih fun escapes member => noEscape escapes (List.mem_cons_of_mem c member)
    rw [doubleAll_cons, run_append]
    by_cases same : c = q
    · subst same
      rw [if_pos rfl, run_cons, step_unquote isQuote]
      show (l.run _ [c]).bind _ = _
      rw [run_cons, step_enquote isQuote]
      exact later
    · have plain : (l.dialect.escapes && c = '\\') ≠ true := by
        intro escape
        obtain ⟨escapes, back⟩ := Bool.and_eq_true_iff.mp escape
        exact noEscape escapes (of_decide_eq_true back ▸ List.mem_cons_self)
      rw [if_neg same, run_cons, step_inside plain same]
      exact later

/-- A backslash hides the quote behind it. -/
theorem run_escapeAll {q : Char} (escapes : l.dialect.escapes = true) (x : List Char) (n : Nat) :
    l.run ⟨n, .quoted q false⟩ (escapeAll q x) = some ⟨n, .quoted q false⟩ := by
  induction x with
  | nil => rfl
  | cons c x ih =>
    rw [escapeAll_cons, run_append]
    by_cases hidden : (c = q || c = '\\') = true
    · rw [if_pos hidden, run_cons, step_escape escapes]
      exact ih
    · rw [if_neg hidden]
      simp only [Bool.or_eq_true, decide_eq_true_eq, not_or] at hidden
      rw [run_cons, step_inside (by simp [hidden.2]) hidden.1]
      exact ih

namespace Balanced

theorem quoted {q : Char} (isQuote : l.dialect.isQuote q = true)
    (inside : l.run ⟨0, .quoted q false⟩ x = some ⟨0, .quoted q false⟩) : l.Balanced (q :: x ++ [q]) := by
  rw [List.cons_append, Balanced, run_cons, top, step_enquote isQuote]
  show l.run _ (x ++ [q]) = _
  rw [run_append, inside]
  show l.run _ [q] = _
  rw [run_cons, step_unquote isQuote]
  rfl

theorem quoteDoubled {q : Char} (isQuote : l.dialect.isQuote q = true)
    (noEscape : l.dialect.escapes = true → '\\' ∉ x) : l.Balanced (Text.quoteDoubled q x) :=
  quoted isQuote (run_doubleAll isQuote noEscape 0)

theorem quoteEscaped {q : Char} (isQuote : l.dialect.isQuote q = true) (escapes : l.dialect.escapes = true)
    (x : List Char) : l.Balanced (Text.quoteEscaped q x) :=
  quoted isQuote (run_escapeAll escapes x 0)

end Balanced

/-! ### Complete texts -/

/-- Whether a text may end here: in no quotes and in no comment but one that ends with the line. -/
def mayEnd : Mode → Bool
  | .code _ | .line => true
  | _ => false

/-- Whether a text closes what it opens, up to a comment in its last line. -/
def Complete (l : Lexer) (x : List Char) : Prop := ∃ mode, l.run top x = some ⟨0, mode⟩ ∧ mayEnd mode = true

def EndsInComment (l : Lexer) (x : List Char) : Prop := l.run top x = some ⟨0, .line⟩

/-- Whether the bracket that is opened behind a front is open throughout the text in it, and is closed by
the bracket behind that text. -/
def ReadsGroup (l : Lexer) (front inside : List Char) : Prop :=
  ∃ n half, l.run top front = some ⟨n, .code half⟩ ∧
    (∀ x, x <+: inside → ∃ s, l.run top (front ++ '(' :: x) = some s ∧ n < s.depth) ∧
    ∃ half', l.run top (front ++ '(' :: inside) = some ⟨n + 1, .code half'⟩

variable {front inside : List Char} {n : Nat} {half : Half}

/-- In a bracket a text is read as it is read alone. -/
theorem run_behind_open (stands : l.run top front = some ⟨n, .code half⟩) {s : State} (alone : l.run top x = some s) :
    l.run top (front ++ '(' :: x) = some (s.deeper (n + 1)) := by
  have inner : l.run ⟨n + 1, .code .none⟩ x = some (s.deeper (n + 1)) := by
    have deeper := run_deeper alone (n + 1)
    rwa [State.deeper, top, Nat.zero_add] at deeper
  rw [run_append, stands]
  show l.run _ ('(' :: x) = _
  rw [run_cons, step_open]
  exact inner

theorem code_of_complete (complete : l.Complete x) (noComment : ¬ l.EndsInComment x) :
    ∃ half, l.run top x = some ⟨0, .code half⟩ := by
  obtain ⟨mode, alone, ends⟩ := complete
  cases mode with
  | code half => exact ⟨half, alone⟩
  | line => exact absurd alone noComment
  | quoted q escaped => cases ends
  | block outer half => cases ends

theorem readsGroup_iff (complete : l.Complete inside) :
    l.ReadsGroup front inside ↔ (∃ n half, l.run top front = some ⟨n, .code half⟩) ∧ ¬ l.EndsInComment inside := by
  constructor
  · rintro ⟨n, half, stands, -, half', behind⟩
    refine ⟨⟨n, half, stands⟩, ?_⟩
    intro comment
    rw [run_behind_open stands comment] at behind
    cases congrArg State.mode (Option.some.inj behind)
  · rintro ⟨⟨n, half, stands⟩, noComment⟩
    obtain ⟨half', alone⟩ := code_of_complete complete noComment
    refine ⟨n, half, stands, ?_, half', ?_⟩
    · rintro x ⟨y, rfl⟩
      rw [run_append] at alone
      obtain ⟨s, first, -⟩ := Option.bind_eq_some_iff.mp alone
      refine ⟨s.deeper (n + 1), run_behind_open stands first, ?_⟩
      show n < s.depth + (n + 1)
      omega
    · have behind := run_behind_open stands alone
      rwa [State.deeper, Nat.zero_add] at behind

theorem run_line (chars : ∀ c ∈ x, endsLine c = false) (n : Nat) : l.run ⟨n, .line⟩ x = some ⟨n, .line⟩ := by
  induction x with
  | nil => rfl
  | cons c x ih =>
    obtain ⟨first, others⟩ := List.forall_mem_cons.mp chars
    have stays : l.step ⟨n, .line⟩ c = some ⟨n, .line⟩ := by simp [step, depthBehind, next, first]
    rw [run_cons, stays]
    exact ih others

/-- A comment at the end of a text goes on behind the bracket that should close it. -/
theorem run_behind_comment (stands : l.run top front = some ⟨n, .code half⟩) (comment : l.EndsInComment inside)
    (line : ∀ c ∈ x, endsLine c = false) : l.run top (front ++ '(' :: inside ++ x) = some ⟨n + 1, .line⟩ := by
  have behind := run_behind_open stands comment
  rw [State.deeper, Nat.zero_add] at behind
  rw [run_append, behind]
  exact run_line line (n + 1)

end Lexer

end Profiling
