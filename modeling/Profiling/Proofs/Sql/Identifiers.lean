import Profiling.Sql.Dialect

/-!
# Names that identifiers tell apart

An identifier reads back as the name it is written for exactly if no quote of the name stands right
behind a quote or a backslash. Such names, and lists of them, have identifiers of their own; and
each of them shares its identifier with the name in which its quotes are doubled.
-/

namespace Profiling

namespace Text

/-- No quote stands right behind a quote or a backslash. -/
def QuotesApart (q : Char) (s : List Char) : Prop := ¬ [q, q] <:+: s ∧ ¬ ['\\', q] <:+: s

variable {q : Char}

/-! ### Reading -/

theorem readDoubledBody_eq_some {x s t : List Char} :
    readDoubledBody q x = some (s, t) ↔ x = doubleAll q s ++ q :: t ∧ t.head? ≠ some q := by
  constructor
  · intro read
    fun_induction readDoubledBody q x generalizing s with
    | case1 => cases read
    | case2 =>
      obtain ⟨rfl, rfl⟩ := Prod.mk.inj (Option.some.inj read)
      exact ⟨rfl, nofun⟩
    | case3 => cases read
    | case4 rest ih =>
      obtain ⟨⟨s', t'⟩, inner, same⟩ := Option.map_eq_some_iff.mp read
      obtain ⟨rfl, rfl⟩ := Prod.mk.inj same
      obtain ⟨rfl, next⟩ := ih inner
      exact ⟨by rw [doubleAll_cons, if_pos rfl]; rfl, next⟩
    | case5 d rest other =>
      obtain ⟨rfl, rfl⟩ := Prod.mk.inj (Option.some.inj read)
      refine ⟨rfl, fun next => other ?_⟩
      exact Option.some.inj next
    | case6 c d rest other ih =>
      obtain ⟨⟨s', t'⟩, inner, same⟩ := Option.map_eq_some_iff.mp read
      obtain ⟨rfl, rfl⟩ := Prod.mk.inj same
      obtain ⟨spelled, next⟩ := ih inner
      refine ⟨?_, next⟩
      rw [doubleAll_cons, if_neg other, spelled]
      rfl
  · rintro ⟨rfl, next⟩
    exact readDoubledBody_doubleAll q s t next

/-! ### Writing -/

theorem pair_infix_cons {a b c : Char} {s : List Char} :
    [a, b] <:+: c :: s ↔ (c = a ∧ s.head? = some b) ∨ [a, b] <:+: s := by
  rw [List.infix_cons_iff, List.cons_prefix_cons]
  cases s with
  | nil => simp
  | cons d s => simp [eq_comm]

theorem quotesApart_nil (q : Char) : QuotesApart q [] := by simp [QuotesApart]

theorem quotesApart_cons {c : Char} {s : List Char} :
    QuotesApart q (c :: s) ↔ (c = q ∨ c = '\\' → s.head? ≠ some q) ∧ QuotesApart q s := by
  simp only [QuotesApart, pair_infix_cons]
  grind

theorem length_doubleLone_le (q : Char) (escaped : Bool) (s : List Char) :
    (doubleLone q escaped s).length ≤ (doubleAll q s).length := by
  fun_induction doubleLone q escaped s <;> simp_all [doubleAll_cons] <;> omega

theorem doubleLone_cons_of_ne {c : Char} (other : c ≠ q) (escaped : Bool) (s : List Char) :
    doubleLone q escaped (c :: s) = c :: doubleLone q (c == '\\') s := by
  cases escaped with
  | true => simp [doubleLone, other]
  | false => cases s <;> simp [doubleLone, other]

/-- Writing a name doubles each of its quotes exactly if they stand apart. -/
theorem doubleLone_eq_doubleAll_iff (escaped : Bool) (s : List Char) :
    doubleLone q escaped s = doubleAll q s ↔ (escaped = true → s.head? ≠ some q) ∧ QuotesApart q s := by
  fun_induction doubleLone q escaped s with
  | case1 escaped => simp [doubleAll, QuotesApart]
  | case2 rest ih =>
    have short := length_doubleLone_le q true rest
    refine iff_of_false (fun same => ?_) (by simp)
    have lengths := congrArg List.length same
    simp only [doubleAll_cons, if_true, List.length_cons, List.length_append, List.length_nil] at lengths
    omega
  | case3 c rest other ih =>
    rw [doubleAll_cons, if_neg other, List.singleton_append, List.cons.injEq, ih, quotesApart_cons]
    simp [other]
  | case4 => simp [doubleAll, quotesApart_cons, quotesApart_nil]
  | case5 c other => simp [doubleAll, other, quotesApart_cons, quotesApart_nil]
  | case6 rest ih =>
    have short := length_doubleLone_le q false rest
    refine iff_of_false (fun same => ?_) (by simp [quotesApart_cons])
    have lengths := congrArg List.length same
    simp only [doubleAll_cons, if_true, List.length_cons, List.length_append, List.length_nil] at lengths
    omega
  | case7 d rest other ih => simp [doubleAll_cons, other, ih, quotesApart_cons]
  | case8 c d rest other ih =>
    rw [doubleAll_cons, if_neg other, List.singleton_append, List.cons.injEq, ih, quotesApart_cons (c := c)]
    simp [other]

/-- A name reads back in front of whatever does not start with a quote. -/
theorem readDoubled_quoteName {s rest : List Char} (apart : QuotesApart q s) (next : rest.head? ≠ some q) :
    readDoubled q (quoteName q s ++ rest) = some (s, rest) := by
  have doubled : doubleLone q false s = doubleAll q s :=
    (doubleLone_eq_doubleAll_iff false s).mpr ⟨nofun, apart⟩
  have read := readDoubledBody_doubleAll q s rest next
  simpa [quoteName, readDoubled, doubled] using read

theorem readDoubled_quoteName_iff (s : List Char) :
    readDoubled q (quoteName q s) = some (s, []) ↔ QuotesApart q s := by
  have behind : readDoubled q (quoteName q s) = readDoubledBody q (doubleLone q false s ++ [q]) := by
    simp [quoteName, readDoubled]
  rw [behind, readDoubledBody_eq_some]
  simp [doubleLone_eq_doubleAll_iff]

/-- A name whose quotes are doubled already is written as it is. -/
theorem doubleLone_doubleAll (escaped : Bool) {s : List Char} (first : escaped = true → s.head? ≠ some q)
    (apart : QuotesApart q s) : doubleLone q escaped (doubleAll q s) = doubleAll q s := by
  induction s generalizing escaped with
  | nil => rfl
  | cons c s ih =>
    obtain ⟨next, apart⟩ := quotesApart_cons.mp apart
    by_cases quote : c = q
    · subst quote
      obtain rfl : escaped = false := by simpa using first
      have rest := ih false nofun apart
      simp [doubleAll_cons, doubleLone, rest]
    · have backslash : (c == '\\') = true → s.head? ≠ some q := fun h => next (.inr (beq_iff_eq.mp h))
      rw [doubleAll_cons, if_neg quote, List.singleton_append, doubleLone_cons_of_ne quote, ih _ backslash apart]

end Text

open Text

namespace Dialect

variable {d : Dialect}

/-- What follows the first part of a qualified name. -/
def behind (d : Dialect) (names : List String) : List Char :=
  if names.isEmpty then [] else '.' :: d.qualified names

theorem qualified_cons (d : Dialect) (name : String) (names : List String) :
    d.qualified (name :: names) = d.ident name ++ d.behind names := by
  cases names with
  | nil => simp [qualified, behind]
  | cons n ns => simp [qualified, behind, List.intercalate_cons_cons]

theorem head?_behind (d : Dialect) (names : List String) : (d.behind names).head? ≠ some d.nameQuote := by
  have point : '.' ≠ d.nameQuote := by cases d <;> decide
  cases names <;> simp [behind, point]

theorem qualified_of_behind {names names' : List String} (same : d.behind names = d.behind names') :
    d.qualified names = d.qualified names' := by
  cases names with
  | nil =>
    cases names' with
    | nil => rfl
    | cons _ _ => simp [behind] at same
  | cons _ _ =>
    cases names' with
    | nil => simp [behind] at same
    | cons _ _ => exact (List.cons.inj same).2

theorem qualified_injective {names names' : List String} (apart : ∀ n ∈ names, QuotesApart d.nameQuote n.toList)
    (apart' : ∀ n ∈ names', QuotesApart d.nameQuote n.toList) (same : d.qualified names = d.qualified names') :
    names = names' := by
  induction names generalizing names' with
  | nil =>
    cases names' with
    | nil => rfl
    | cons name' names' => simp [qualified, ident, quoteName] at same
  | cons name names ih =>
    cases names' with
    | nil => simp [qualified, ident, quoteName] at same
    | cons name' names' =>
      obtain ⟨apart, later⟩ := List.forall_mem_cons.mp apart
      obtain ⟨apart', later'⟩ := List.forall_mem_cons.mp apart'
      have read := readDoubled_quoteName apart (d.head?_behind names)
      have read' := readDoubled_quoteName apart' (d.head?_behind names')
      rw [qualified_cons, qualified_cons] at same
      have parts : (name.toList, d.behind names) = (name'.toList, d.behind names') :=
        Option.some.inj (read.symm.trans ((congrArg (readDoubled d.nameQuote) same).trans read'))
      obtain ⟨first, rest⟩ := Prod.mk.inj parts
      rw [String.toList_injective first, ih later later' (qualified_of_behind rest)]

structure TellsNames (d : Dialect) : Prop where
  /-- An identifier reads back as its name exactly if the name's quotes stand apart. -/
  reads_iff : ∀ name, readDoubled d.nameQuote (d.ident name) = some (name.toList, []) ↔
    QuotesApart d.nameQuote name.toList
  ident : ∀ name name', QuotesApart d.nameQuote name.toList → QuotesApart d.nameQuote name'.toList →
    d.ident name = d.ident name' → name = name'
  qualified : ∀ names names', (∀ n ∈ names, QuotesApart d.nameQuote n.toList) →
    (∀ n ∈ names', QuotesApart d.nameQuote n.toList) → d.qualified names = d.qualified names' → names = names'
  /-- Doubling such quotes gives another name with the same identifier. -/
  doubled : ∀ name, QuotesApart d.nameQuote name.toList →
    d.ident (String.ofList (doubleAll d.nameQuote name.toList)) = d.ident name

/-- Identifiers tell apart the names whose quotes stand apart, and these alone read back. -/
theorem tells_names (d : Dialect) : d.TellsNames where
  reads_iff name := readDoubled_quoteName_iff name.toList
  ident name name' apart apart' same := by
    have read := (readDoubled_quoteName_iff name.toList).mpr apart
    have read' := (readDoubled_quoteName_iff name'.toList).mpr apart'
    have parts := Option.some.inj (read.symm.trans ((congrArg (readDoubled d.nameQuote) same).trans read'))
    exact String.toList_injective (Prod.mk.inj parts).1
  qualified _ _ apart apart' same := qualified_injective apart apart' same
  doubled name apart := by
    have own := (doubleLone_eq_doubleAll_iff false name.toList).mpr ⟨nofun, apart⟩
    have doubled := doubleLone_doubleAll false nofun apart
    rw [Dialect.ident, Dialect.ident, quoteName, quoteName, String.toList_ofList, own, doubled]

/-- A pair of quotes in a name is written like one quote, and reads back as one. -/
theorem pair_of_quotes_merges :
    generic.ident "a\"\"b" = generic.ident "a\"b" ∧
      readDoubled generic.nameQuote (generic.ident "a\"\"b") = some ("a\"b".toList, []) := by
  decide

end Dialect

end Profiling
