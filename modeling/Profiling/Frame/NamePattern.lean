import Profiling.Decimal.Integer

/-!
# Patterns of names

A name that starts with `^` and ends with `$` selects all columns whose names it describes, as a
regular expression. A pattern is matched by what is left of it after each character
(`NamePattern.after`), so matching needs no search. The two ends of a name count as symbols, which
`^` and `$` stand for.
-/

namespace Profiling.Frame

/-- A set of characters: those in one of the ranges, or those in none. -/
structure CharSet where
  ranges : List (Char × Char)
  negated : Bool := false

def CharSet.contains (s : CharSet) (c : Char) : Bool :=
  (s.ranges.any fun r => r.1 ≤ c && c ≤ r.2) != s.negated

/-- A character of a name, or one of its ends. -/
inductive NameSymbol where
  | start
  | char (c : Char)
  | stop

inductive NamePattern where
  | empty
  | never
  | start
  | stop
  | char (set : CharSet)
  | any
  | seq (first second : NamePattern)
  | alt (left right : NamePattern)
  | many (p : NamePattern)

namespace NamePattern

/-- Whether a pattern describes the absence of symbols. -/
def isOptional : NamePattern → Bool
  | empty | many _ => true
  | never | start | stop | char _ | any => false
  | seq p q => isOptional p && isOptional q
  | alt p q => isOptional p || isOptional q

def chain : NamePattern → NamePattern → NamePattern
  | never, _ => never
  | empty, q => q
  | p, q => seq p q

/-- What has to follow a symbol so that the pattern describes both. -/
def after (s : NameSymbol) : NamePattern → NamePattern
  | empty | never => never
  | start => match s with | .start => empty | _ => never
  | stop => match s with | .stop => empty | _ => never
  | char set => match s with | .char c => if set.contains c then empty else never | _ => never
  | any => empty
  | seq p q =>
    if isOptional p then alt (chain (after s p) q) (after s q) else chain (after s p) q
  | alt p q => alt (after s p) (after s q)
  | many p => chain (after s p) (many p)

/-- Whether a pattern describes some part of a name. -/
def isIn (p : NamePattern) (name : String) : Bool :=
  let symbols := NameSymbol.start :: name.toList.map .char ++ [.stop]
  (symbols.foldl (fun p s => after s p) (seq (many any) (seq p (many any)))).isOptional

/-! ### Reading -/

def digit : CharSet := ⟨[('0', '9')], false⟩

def wordChar : CharSet := ⟨[('0', '9'), ('A', 'Z'), ('a', 'z'), ('_', '_')], false⟩

def blank : CharSet := ⟨[(' ', ' '), ('\t', '\r')], false⟩

/-- The set behind a backslash: a class of characters, or a sign as it stands. -/
def escaped? (c : Char) : Option CharSet :=
  match c with
  | 'd' => some digit
  | 'D' => some { digit with negated := true }
  | 'w' => some wordChar
  | 'W' => some { wordChar with negated := true }
  | 's' => some blank
  | 'S' => some { blank with negated := true }
  | 'n' => some ⟨[('\n', '\n')], false⟩
  | 't' => some ⟨[('\t', '\t')], false⟩
  | c => if c.isAlphanum || 128 ≤ c.toNat then none else some ⟨[(c, c)], false⟩

def ranges : List Char → Option (List (Char × Char) × List Char)
  | ']' :: rest => some ([], rest)
  | '\\' :: c :: rest => do
    let set ← escaped? c
    let (more, rest) ← ranges rest
    if set.negated then none else return (set.ranges ++ more, rest)
  | '[' :: _ => none
  | a :: '-' :: b :: rest =>
    if b = ']' then do
      let (more, rest) ← ranges (b :: rest)
      return ((a, a) :: ('-', '-') :: more, rest)
    else if b = '\\' || b < a then none
    else do
      let (more, rest) ← ranges rest
      return ((a, b) :: more, rest)
  | c :: rest => do
    let (more, rest) ← ranges rest
    return ((c, c) :: more, rest)
  | [] => none

/-- A set behind its opening bracket. A closing bracket in front is a member. -/
def bracket (s : List Char) : Option (CharSet × List Char) := do
  let (negated, s) := match s with
    | '^' :: rest => (true, rest)
    | s => (false, s)
  let (first, s) := match s with
    | ']' :: rest => ([(']', ']')], rest)
    | s => ([], s)
  let (more, rest) ← ranges s
  return (⟨first ++ more, negated⟩, rest)

def times (p : NamePattern) : Nat → NamePattern
  | 0 => empty
  | n + 1 => chain p (times p n)

/-- A pattern from `low` to `high` times, or from `low` times on. -/
def between (p : NamePattern) (low : Nat) : (high : Option Nat) → NamePattern
  | none => chain (times p low) (many p)
  | some high => chain (times p low) (times (alt p empty) (high - low))

def count (s : List Char) : Option ((Nat × Option Nat) × List Char) :=
  let low := s.takeWhile Char.isDigit
  if low.isEmpty || 3 < low.length then none
  else match s.dropWhile Char.isDigit with
    | '\x7d' :: rest => some ((digitsValue low, some (digitsValue low)), rest)
    | ',' :: rest =>
      let high := rest.takeWhile Char.isDigit
      match rest.dropWhile Char.isDigit with
      | '\x7d' :: rest =>
        if high.isEmpty then some ((digitsValue low, none), rest)
        else if 3 < high.length || digitsValue high < digitsValue low then none
        else some ((digitsValue low, some (digitsValue high)), rest)
      | _ => none
    | _ => none

/-- The signs of repetition behind a pattern. Whether they are greedy makes no difference. -/
def repeated : (fuel : Nat) → NamePattern → List Char → Option (NamePattern × List Char)
  | 0, _, _ => none
  | fuel + 1, p, s =>
    let rest (s : List Char) := match s with | '?' :: s => s | s => s
    match s with
    | '*' :: s => repeated fuel (many p) (rest s)
    | '+' :: s => repeated fuel (chain p (many p)) (rest s)
    | '?' :: s => repeated fuel (alt p empty) (rest s)
    | '\x7b' :: s => do
      let ((low, high), s) ← count s
      repeated fuel (between p low high) (rest s)
    | s => some (p, s)

mutual

def alternatives : (fuel : Nat) → List Char → Option (NamePattern × List Char)
  | 0, _ => none
  | fuel + 1, s => do
    let (p, s) ← sequence fuel s
    match s with
    | '|' :: s => do
      let (q, s) ← alternatives fuel s
      return (alt p q, s)
    | s => return (p, s)

def sequence : (fuel : Nat) → List Char → Option (NamePattern × List Char)
  | 0, _ => none
  | fuel + 1, s =>
    match s with
    | [] => some (empty, [])
    | c :: _ =>
      if c = '|' || c = ')' then some (empty, s)
      else do
        let (p, s) ← atom fuel s
        let (p, s) ← repeated fuel p s
        let (q, s) ← sequence fuel s
        return (chain p q, s)

def atom : (fuel : Nat) → List Char → Option (NamePattern × List Char)
  | 0, _ => none
  | fuel + 1, s =>
    match s with
    | '(' :: '?' :: ':' :: s => group fuel s
    | '(' :: '?' :: _ => none
    | '(' :: s => group fuel s
    | '[' :: s => do
      let (set, s) ← bracket s
      return (char set, s)
    | '\\' :: c :: s => do return (char (← escaped? c), s)
    | '.' :: s => some (char ⟨[('\n', '\n')], true⟩, s)
    | '^' :: s => some (start, s)
    | '$' :: s => some (stop, s)
    | c :: s =>
      if "*+?\x7b\\".toList.contains c then none else some (char ⟨[(c, c)], false⟩, s)
    | [] => none

def group : (fuel : Nat) → List Char → Option (NamePattern × List Char)
  | 0, _ => none
  | fuel + 1, s => do
    match ← alternatives fuel s with
    | (p, ')' :: s) => return (p, s)
    | _ => none

end

def ofText? (text : String) : Option NamePattern :=
  let s := text.toList
  match alternatives (4 * s.length + 4) s with
  | some (p, []) => some p
  | _ => none

end NamePattern

/-- Whether a name selects columns by a pattern. -/
def isNamePattern (name : String) : Bool :=
  name.toList.head? = some '^' && name.toList.getLast? = some '$'

end Profiling.Frame
