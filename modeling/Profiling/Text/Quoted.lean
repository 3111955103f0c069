/-!
# Quoted text

Two ways to write a text between quotes. `quoteName` writes a name whose quotes may have been
doubled or escaped already: a pair of quotes and a quote after a backslash stay as they are,
and a quote that stands alone is doubled. `quoteDoubled` and `quoteEscaped` write any text so
that it can be read back, which `readDoubled` and `readEscaped` do.
-/

namespace Profiling.Text

/-- Doubles the quotes that stand alone. A quote after a backslash stands as it is, and so do
the quotes right behind it. -/
def doubleLone (q : Char) : (escaped : Bool) → List Char → List Char
  | _, [] => []
  | true, c :: rest =>
    if c = q then q :: doubleLone q true rest else c :: doubleLone q (c == '\\') rest
  | false, [c] => if c = q then [q, q] else [c]
  | false, c :: d :: rest =>
    if c = q then
      if d = q then q :: q :: doubleLone q false rest
      else q :: q :: d :: doubleLone q (d == '\\') rest
    else c :: doubleLone q (c == '\\') (d :: rest)

def quoteName (q : Char) (name : List Char) : List Char :=
  q :: doubleLone q false name ++ [q]

def doubleAll (q : Char) (s : List Char) : List Char :=
  s.flatMap fun c => if c = q then [q, q] else [c]

def quoteDoubled (q : Char) (s : List Char) : List Char :=
  q :: doubleAll q s ++ [q]

def escapeAll (q : Char) (s : List Char) : List Char :=
  s.flatMap fun c => if c = q || c = '\\' then ['\\', c] else [c]

def quoteEscaped (q : Char) (s : List Char) : List Char :=
  q :: escapeAll q s ++ [q]

/-- Reads up to the closing quote, a pair of quotes standing for one. Gives the text and what
follows the closing quote, or `none` if there is none. -/
def readDoubledBody (q : Char) : List Char → Option (List Char × List Char)
  | [] => none
  | [c] => if c = q then some ([], []) else none
  | c :: d :: rest =>
    if c = q then
      if d = q then (readDoubledBody q rest).map fun (s, t) => (q :: s, t)
      else some ([], d :: rest)
    else (readDoubledBody q (d :: rest)).map fun (s, t) => (c :: s, t)

def readDoubled (q : Char) : List Char → Option (List Char × List Char)
  | [] => none
  | c :: rest => if c = q then readDoubledBody q rest else none

/-- Reads up to the closing quote, a backslash standing for the character behind it. -/
def readEscapedBody (q : Char) : List Char → Option (List Char × List Char)
  | [] => none
  | [c] => if c = q then some ([], []) else none
  | c :: d :: rest =>
    if c = q then some ([], d :: rest)
    else if c = '\\' then (readEscapedBody q rest).map fun (s, t) => (d :: s, t)
    else (readEscapedBody q (d :: rest)).map fun (s, t) => (c :: s, t)

def readEscaped (q : Char) : List Char → Option (List Char × List Char)
  | [] => none
  | c :: rest => if c = q then readEscapedBody q rest else none

theorem doubleAll_cons (q c : Char) (s : List Char) :
    doubleAll q (c :: s) = (if c = q then [q, q] else [c]) ++ doubleAll q s := rfl

theorem escapeAll_cons (q c : Char) (s : List Char) :
    escapeAll q (c :: s) = (if c = q || c = '\\' then ['\\', c] else [c]) ++ escapeAll q s := rfl

/-- What `quoteDoubled` writes is read back, unless a further quote follows. -/
theorem readDoubledBody_doubleAll (q : Char) (s t : List Char) (h : t.head? ≠ some q) :
    readDoubledBody q (doubleAll q s ++ q :: t) = some (s, t) := by
  induction s with
  | nil => cases t <;> simp_all [doubleAll, readDoubledBody]
  | cons c s ih =>
    by_cases hc : c = q
    · subst hc
      simp [doubleAll_cons, readDoubledBody, ih]
    · rw [doubleAll_cons, if_neg hc]
      cases hs : doubleAll q s ++ q :: t with
      | nil => simp at hs
      | cons d r => simp [readDoubledBody, hc, hs, hs ▸ ih]

/-- What `quoteEscaped` writes is read back. -/
theorem readEscapedBody_escapeAll (q : Char) (hq : q ≠ '\\') (s t : List Char) :
    readEscapedBody q (escapeAll q s ++ q :: t) = some (s, t) := by
  induction s with
  | nil => cases t <;> simp [escapeAll, readEscapedBody]
  | cons c s ih =>
    by_cases hc : c = q || c = '\\'
    · rw [escapeAll_cons, if_pos hc]
      simp [readEscapedBody, Ne.symm hq, ih]
    · rw [escapeAll_cons, if_neg hc]
      simp only [Bool.or_eq_true, decide_eq_true_eq, not_or] at hc
      cases hs : escapeAll q s ++ q :: t with
      | nil => simp at hs
      | cons d r => simp [readEscapedBody, hc, hs, hs ▸ ih]

end Profiling.Text
