import Profiling.Proofs.Sql.Lexeme

/-!
# Strings that literals tell apart

A string literal reads back as the string that it is written for, in front of whatever does not start
with a quote. No other literal starts like a string, so JSON values that stand for different strings
have literals of their own.
-/

namespace Profiling

namespace Text

def replace (c : Char) (other s : List Char) : List Char :=
  s.flatMap fun x => if x = c then other else [x]

theorem replace_cons (c : Char) (other : List Char) (x : Char) (s : List Char) :
    replace c other (x :: s) = (if x = c then other else [x]) ++ replace c other s := rfl

theorem doubleAll_eq_replace (q : Char) (s : List Char) : doubleAll q s = replace q [q, q] s := rfl

/-- To escape is to double the backslashes and then to put one in front of each quote. -/
theorem escapeAll_eq_replace {q : Char} (other : q ≠ '\\') (s : List Char) :
    escapeAll q s = replace q ['\\', q] (replace '\\' ['\\', '\\'] s) := by
  induction s with
  | nil => rfl
  | cons c s ih =>
    rw [escapeAll_cons, ih, replace_cons '\\']
    by_cases backslash : c = '\\'
    · subst backslash
      simp [replace_cons, other.symm]
    · by_cases quote : c = q
      · subst quote
        simp [replace_cons, other]
      · simp [replace_cons, backslash, quote]

-- In the other order the backslashes of the quotes would be doubled too.
example : replace '\\' ['\\', '\\'] (replace '\'' ['\\', '\''] ['\'']) ≠ escapeAll '\'' ['\''] := by
  decide

end Text

open Text

/-- A string literal is read back up to its closing quote. -/
theorem Dialect.readString_string (d : Dialect) (s : String) {t : List Char} (h : t.head? ≠ some '\'') :
    d.readString (d.string s ++ t) = some (s.toList, t) := by
  cases d
  case bigQuery =>
    simpa [string, readString, quoteEscaped, readEscaped] using
      readEscapedBody_escapeAll '\'' (by decide) s.toList t
  all_goals
    simpa [string, readString, quoteDoubled, readDoubled] using
      readDoubledBody_doubleAll '\'' s.toList t h

/-- Nothing but a quote starts a string. -/
theorem Dialect.readString_cons (d : Dialect) {c : Char} (other : c ≠ '\'') (s : List Char) :
    d.readString (c :: s) = none := by
  cases d <;> exact if_neg other

theorem Dialect.readString_token (d : Dialect) {token : List Char} (chars : ∀ c ∈ token, isTokenChar c = true)
    (ne : token ≠ []) (s : List Char) : d.readString (token ++ s) = none := by
  cases token with
  | nil => exact absurd rfl ne
  | cons c token =>
    have char := chars c List.mem_cons_self
    refine d.readString_cons ?_ (token ++ s)
    rintro rfl
    exact absurd char (by decide)

/-- The string that a JSON value is compared as, if it is compared as one. -/
def Json.content? : Json → Option String
  | .str s => some s
  | .arr items => some (arr items).text
  | .obj members => some (obj members).text
  | _ => none

namespace Literal

def content? : Literal → Option String
  | string s => some s
  | _ => none

theorem content?_ofJson (v : Json) : (ofJson v).content? = v.content? := by
  cases v with
  | int n =>
    rw [ofJson]
    split <;> rfl
  | _ => rfl

/-- Where a literal is that of a string, its text reads back as that string, and elsewhere not at all. -/
theorem readString_sql (d : Dialect) (l : Literal) {rest : List Char} (next : rest.head? ≠ some '\'') :
    d.readString (l.sql d ++ rest) = l.content?.map fun s => (s.toList, rest) := by
  cases l with
  | string s => exact d.readString_string s next
  | null => exact d.readString_cons (by decide) _
  | bool b => cases b <;> exact d.readString_cons (by decide) _
  | int n => exact d.readString_token (fun _ member => isTokenChar_of_mem_intText member) (intText_ne_nil n) rest
  | float x => exact d.readString_token (fun _ member => isTokenChar_of_mem_floatText member) (floatText_ne_nil x) rest
  | date day => exact d.readString_cons (by decide) _
  | timestamp t => exact d.readString_cons (by decide) _

theorem content?_of_sql {d : Dialect} {l l' : Literal} (same : l.sql d = l'.sql d) : l.content? = l'.content? := by
  have atEnd : ([] : List Char).head? ≠ some '\'' := by simp
  have read := l.readString_sql d atEnd
  rw [same, l'.readString_sql d atEnd] at read
  have injective : Function.Injective fun s : String => (s.toList, ([] : List Char)) :=
    fun s t equal => String.toList_injective (Prod.mk.inj equal).1
  exact Option.map_injective injective read.symm

/-- Strings read back from their literals, whatever follows that is no quote, and JSON values of
different contents have different literals. -/
theorem strings_read_back (d : Dialect) :
    (∀ (s : String) (rest : List Char), rest.head? ≠ some '\'' →
      d.readString (d.string s ++ rest) = some (s.toList, rest)) ∧
    ∀ v w : Json, v.content? ≠ w.content? → (ofJson v).sql d ≠ (ofJson w).sql d := by
  refine ⟨fun s rest next => d.readString_string s next, fun v w differ same => differ ?_⟩
  rw [← content?_ofJson v, ← content?_ofJson w]
  exact content?_of_sql same

/-- A backslash and a quote at the end of a string do not run into the closing quote. -/
theorem backslash_and_quote_read_back :
    Dialect.bigQuery.string "a\\'" = "'a\\\\\\''".toList ∧
      Dialect.bigQuery.readString ("'a\\\\\\'', 'b')".toList) = some ("a\\'".toList, ", 'b')".toList) ∧
      (ofJson (.str "[1]\\")).sql .bigQuery ≠ (ofJson (.arr [.int 1])).sql .bigQuery := by
  obtain ⟨reads, tells⟩ := strings_read_back .bigQuery
  refine ⟨by decide, reads "a\\'" ", 'b')".toList (by decide), tells _ _ ?_⟩
  decide

end Literal

end Profiling
