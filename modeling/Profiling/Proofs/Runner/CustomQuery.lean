import Profiling.Target

/-!
# Custom queries without their ends

Normalising a custom query takes off blanks, then a run of semicolons, then blanks again. That
reaches a text without blanks and semicolons at its end exactly if the semicolons at the end of the
query stand together; a blank between them keeps what is in front of it.
-/

namespace Profiling

namespace Text

variable {p : Char → Bool} {s t : List Char}

/-! ### Cutting off the end -/

theorem dropTailWhile_append (tail : ∀ c ∈ t, p c = true) : dropTailWhile p (s ++ t) = dropTailWhile p s := by
  unfold dropTailWhile
  rw [List.reverse_append, List.dropWhile_append_of_pos (by simpa using tail)]

theorem dropTailWhile_of_last (last : ∀ c, s.getLast? = some c → p c = false) : dropTailWhile p s = s := by
  unfold dropTailWhile
  rw [List.getLast?_eq_head?_reverse] at last
  cases reversed : s.reverse with
  | nil => simp_all
  | cons c r =>
    rw [reversed] at last
    rw [List.dropWhile_cons_of_neg (by simp [last c rfl]), ← reversed, List.reverse_reverse]

theorem exists_tail (p : Char → Bool) (s : List Char) :
    ∃ t, s = dropTailWhile p s ++ t ∧ ∀ c ∈ t, p c = true := by
  refine ⟨(s.reverse.takeWhile p).reverse, (dropTailWhile_append_takeTail p s).symm, fun c h => ?_⟩
  exact List.all_eq_true.mp List.all_takeWhile c (List.mem_reverse.mp h)

theorem last_append {a b : List Char} {c : Char} (last : (a ++ b).getLast? = some c) :
    c ∈ b ∨ b = [] ∧ a.getLast? = some c := by
  rw [List.getLast?_append] at last
  rcases Option.or_eq_some_iff.mp last with own | ⟨none, before⟩
  · exact .inl (List.mem_of_getLast? own)
  · exact .inr ⟨List.getLast?_eq_none_iff.mp none, before⟩

/-! ### Semicolons at the end -/

/-- A character of what may stand behind a query. -/
def isFiller (c : Char) : Bool := isBlank c || c == ';'

/-- A text ends in a core behind which blanks stand around one run of semicolons. -/
structure EndsWith (core s : List Char) : Prop where
  last : ∀ c, core.getLast? = some c → isFiller c = false
  parts : ∃ before semicolons after, s = core ++ before ++ semicolons ++ after ∧
    (∀ c ∈ before, isBlank c = true) ∧ (∀ c ∈ semicolons, c = ';') ∧ ∀ c ∈ after, isBlank c = true

/-- Behind the last character that is neither, all semicolons stand together, with no blank between them. -/
def SemicolonsTogether (s : List Char) : Prop := ∃ core, EndsWith core s

/-- What normalising takes off the end of a text. -/
def cutEnd (s : List Char) : List Char :=
  dropTailWhile isBlank (dropTailWhile (· == ';') (dropTailWhile isBlank s))

theorem isBlank_semicolon : isBlank ';' = false := by decide

theorem ne_semicolon_of_isBlank {c : Char} (blank : isBlank c = true) : (c == ';') = false := by
  rw [beq_eq_false_iff_ne]
  rintro rfl
  exact absurd blank (by decide)

theorem isFiller_eq_false {c : Char} : isFiller c = false ↔ isBlank c = false ∧ (c == ';') = false := by
  simp [isFiller]

/-- Cutting the end leaves the core, whether or not there are semicolons. -/
theorem EndsWith.cutEnd_eq {core : List Char} (ends : EndsWith core s) : cutEnd s = core := by
  obtain ⟨last, before, semicolons, after, rfl, blanks, run, trailing⟩ := ends
  have noBlank : ∀ c, core.getLast? = some c → isBlank c = false := fun c h => (isFiller_eq_false.mp (last c h)).1
  have noSemicolon : ∀ c, core.getLast? = some c → (c == ';') = false := fun c h => (isFiller_eq_false.mp (last c h)).2
  have coreBlank : dropTailWhile isBlank (core ++ before) = core := by
    rw [dropTailWhile_append blanks, dropTailWhile_of_last noBlank]
  unfold cutEnd
  rw [dropTailWhile_append trailing]
  cases semicolons with
  | nil => rw [List.append_nil, coreBlank, dropTailWhile_of_last noSemicolon, dropTailWhile_of_last noBlank]
  | cons c rest =>
    have stop : ∀ d, (core ++ before ++ c :: rest).getLast? = some d → isBlank d = false := by
      intro d h
      rcases last_append h with member | ⟨empty, -⟩
      · obtain rfl := run d member
        exact isBlank_semicolon
      · cases empty
    have gap : ∀ d, (core ++ before).getLast? = some d → (d == ';') = false := by
      intro d h
      rcases last_append h with member | ⟨-, own⟩
      · exact ne_semicolon_of_isBlank (blanks d member)
      · exact noSemicolon d own
    rw [dropTailWhile_of_last stop, dropTailWhile_append (by simpa using run), dropTailWhile_of_last gap, coreBlank]

theorem EndsWith.dropWhile {core : List Char} (ends : EndsWith core s) :
    EndsWith (core.dropWhile isBlank) (s.dropWhile isBlank) := by
  obtain ⟨last, before, semicolons, after, rfl, blanks, run, trailing⟩ := ends
  have whole := List.takeWhile_append_dropWhile (p := isBlank) (l := core)
  rw [List.append_assoc, List.append_assoc, List.dropWhile_append]
  -- A core of nothing but blanks is empty, and then the blanks behind it go as well.
  split
  · next empty =>
    rw [List.isEmpty_iff.mp empty, List.dropWhile_append_of_pos blanks]
    refine ⟨nofun, ?_⟩
    cases semicolons with
    | nil =>
      have none : (after ++ []).dropWhile isBlank = [] := List.dropWhile_append_of_pos trailing
      exact ⟨[], [], [], by simpa using none, nofun, nofun, nofun⟩
    | cons c rest =>
      obtain rfl := run c List.mem_cons_self
      refine ⟨[], ';' :: rest, after, ?_, nofun, run, trailing⟩
      rw [List.cons_append, List.dropWhile_cons_of_neg (by decide)]
      rfl
  · refine ⟨fun c h => last c ?_, before, semicolons, after, by simp, blanks, run, trailing⟩
    rw [← whole, List.getLast?_append, h, Option.some_or]

/-- What is left once the end is cut is followed by blanks around a run of semicolons. -/
theorem exists_end (s : List Char) : ∃ before semicolons after,
    s = cutEnd s ++ before ++ semicolons ++ after ∧ (∀ c ∈ before, isBlank c = true) ∧
      (∀ c ∈ semicolons, c = ';') ∧ ∀ c ∈ after, isBlank c = true := by
  obtain ⟨after, first, trailing⟩ := exists_tail isBlank s
  obtain ⟨semicolons, second, run⟩ := exists_tail (· == ';') (dropTailWhile isBlank s)
  obtain ⟨before, third, blanks⟩ := exists_tail isBlank (dropTailWhile (· == ';') (dropTailWhile isBlank s))
  refine ⟨before, semicolons, after, ?_, blanks, fun c h => beq_iff_eq.mp (run c h), trailing⟩
  rw [cutEnd, ← third, ← second, ← first]

/-- The text of a query between the blanks in front of it and what is cut off its end. -/
def inner (s : List Char) : List Char := cutEnd (s.dropWhile isBlank)

structure CleanPart (t s : List Char) : Prop where
  ne_nil : t ≠ []
  start : ∀ c, t.head? = some c → isBlank c = false
  stop : ∀ c, t.getLast? = some c → isFiller c = false
  split : ∃ before after, s = before ++ t ++ after ∧ (∀ c ∈ before, isBlank c = true) ∧
    ∀ c ∈ after, isFiller c = true

theorem exists_around (s : List Char) : ∃ before gap semicolons after,
    s = before ++ inner s ++ (gap ++ semicolons ++ after) ∧ (∀ c ∈ before, isBlank c = true) ∧
      (∀ c ∈ gap, isBlank c = true) ∧ (∀ c ∈ semicolons, c = ';') ∧ ∀ c ∈ after, isBlank c = true := by
  obtain ⟨gap, semicolons, after, split, blanks, run, trailing⟩ := exists_end (s.dropWhile isBlank)
  refine ⟨s.takeWhile isBlank, gap, semicolons, after, ?_, List.all_eq_true.mp List.all_takeWhile, blanks, run,
    trailing⟩
  calc s = s.takeWhile isBlank ++ s.dropWhile isBlank := List.takeWhile_append_dropWhile.symm
    _ = s.takeWhile isBlank ++ (inner s ++ gap ++ semicolons ++ after) := congrArg _ split
    _ = s.takeWhile isBlank ++ inner s ++ (gap ++ semicolons ++ after) := by simp only [List.append_assoc]

theorem isBlank_of_head_inner {c : Char} (head : (inner s).head? = some c) : isBlank c = false := by
  obtain ⟨gap, semicolons, after, split, -⟩ := exists_end (s.dropWhile isBlank)
  have first : (s.dropWhile isBlank).head? = some c := by
    rw [split, List.append_assoc, List.append_assoc, List.head?_append]
    exact Option.or_eq_some_iff.mpr (.inl head)
  have stops := List.head?_dropWhile_not isBlank s
  rw [first] at stops
  simpa using stops

theorem semicolonsTogether_iff :
    SemicolonsTogether s ↔ ∀ c, (inner s).getLast? = some c → isFiller c = false := by
  constructor
  · rintro ⟨core, ends⟩ c last
    have cut : inner s = core.dropWhile isBlank := ends.dropWhile.cutEnd_eq
    exact ends.dropWhile.last c (cut ▸ last)
  · intro last
    obtain ⟨before, gap, semicolons, after, split, leading, blanks, run, trailing⟩ := exists_around s
    cases rest : inner s with
    | nil =>
      -- With nothing left, the blanks in front stand before the semicolons too.
      refine ⟨[], nofun, before ++ gap, semicolons, after, ?_, ?_, run, trailing⟩
      · rw [split, rest]
        simp only [List.append_assoc, List.nil_append]
      · intro c h
        exact (List.mem_append.mp h).elim (leading c) (blanks c)
    | cons d ds =>
      refine ⟨before ++ inner s, fun c h => last c ?_, gap, semicolons, after, ?_, blanks, run, trailing⟩
      · rw [List.getLast?_append] at h
        rcases Option.or_eq_some_iff.mp h with own | ⟨none, -⟩
        · exact own
        · rw [rest] at none
          cases List.getLast?_eq_none_iff.mp none
      · rw [← List.append_assoc, ← List.append_assoc] at split
        exact split

theorem isFiller_around {gap semicolons after : List Char} (blanks : ∀ c ∈ gap, isBlank c = true)
    (run : ∀ c ∈ semicolons, c = ';') (trailing : ∀ c ∈ after, isBlank c = true) {c : Char}
    (member : c ∈ gap ++ semicolons ++ after) : isFiller c = true := by
  simp only [List.mem_append] at member
  rcases member with (h | h) | h
  · simp [isFiller, blanks c h]
  · simp [isFiller, run c h]
  · simp [isFiller, trailing c h]

theorem inner_eq_nil_iff (stop : ∀ c, (inner s).getLast? = some c → isFiller c = false) :
    inner s = [] ↔ ∀ c ∈ s, isFiller c = true := by
  obtain ⟨before, gap, semicolons, after, split, leading, blanks, run, trailing⟩ := exists_around s
  constructor
  · intro empty c member
    rw [split, empty, List.append_nil] at member
    rcases List.mem_append.mp member with h | h
    · simp [isFiller, leading c h]
    · exact isFiller_around blanks run trailing h
  · intro filler
    cases last : (inner s).getLast? with
    | none => exact List.getLast?_eq_none_iff.mp last
    | some c =>
      have member : c ∈ s := by
        rw [split]
        exact List.mem_append_left _ (List.mem_append_right _ (List.mem_of_getLast? last))
      exact absurd (filler c member) (by simp [stop c last])

/-- A text that starts with no blank and ends with no filler is left as it is. -/
theorem inner_of_clean (start : ∀ c, s.head? = some c → isBlank c = false)
    (stop : ∀ c, s.getLast? = some c → isFiller c = false) : inner s = s := by
  have whole : s.dropWhile isBlank = s := by
    cases s with
    | nil => rfl
    | cons c s => exact List.dropWhile_cons_of_neg (by simp [start c rfl])
  have ends : EndsWith s s := ⟨stop, [], [], [], by simp, nofun, nofun, nofun⟩
  rw [inner, whole, ends.cutEnd_eq]

theorem cleanPart_inner (nonempty : inner s ≠ []) (stop : ∀ c, (inner s).getLast? = some c → isFiller c = false) :
    CleanPart (inner s) s where
  ne_nil := nonempty
  start _ head := isBlank_of_head_inner head
  stop := stop
  split := by
    obtain ⟨before, gap, semicolons, after, split, leading, blanks, run, trailing⟩ := exists_around s
    exact ⟨before, gap ++ semicolons ++ after, split, leading, fun c h => isFiller_around blanks run trailing h⟩

end Text

open Text

theorem normalizeCustomQuery_eq (sql : String) :
    normalizeCustomQuery sql =
      if (inner sql.toList).isEmpty then none else some (String.ofList (inner sql.toList)) := rfl

theorem normalizeCustomQuery_eq_none {sql : String} : normalizeCustomQuery sql = none ↔ inner sql.toList = [] := by
  simp [normalizeCustomQuery_eq]

theorem normalizeCustomQuery_eq_some {sql query : String} :
    normalizeCustomQuery sql = some query ↔ inner sql.toList ≠ [] ∧ query.toList = inner sql.toList := by
  rw [normalizeCustomQuery_eq]
  split
  · next empty => simp [List.isEmpty_iff.mp empty]
  · next nonempty =>
    have text : String.ofList (inner sql.toList) = query ↔ query.toList = inner sql.toList := by
      rw [← String.toList_inj, String.toList_ofList, eq_comm]
    rw [Option.some.injEq, text]
    exact (and_iff_right (by simpa using nonempty)).symm

structure NormalizesCleanly (sql : String) : Prop where
  none_iff : normalizeCustomQuery sql = none ↔ ∀ c ∈ sql.toList, isFiller c = true
  of_some : ∀ query, normalizeCustomQuery sql = some query →
    CleanPart query.toList sql.toList ∧ normalizeCustomQuery query = some query

/-- A custom query is normalised to a clean text exactly if the semicolons at its end stand together. -/
theorem normalizes_cleanly_iff (sql : String) : NormalizesCleanly sql ↔ SemicolonsTogether sql.toList := by
  rw [semicolonsTogether_iff]
  constructor
  · intro cleanly c last
    have nonempty : inner sql.toList ≠ [] := by
      intro empty
      rw [empty] at last
      cases last
    obtain ⟨clean, -⟩ := cleanly.of_some (String.ofList (inner sql.toList))
      (normalizeCustomQuery_eq_some.mpr ⟨nonempty, String.toList_ofList⟩)
    exact clean.stop c (by rwa [String.toList_ofList])
  · intro stop
    refine ⟨normalizeCustomQuery_eq_none.trans (inner_eq_nil_iff stop), fun query normalized => ?_⟩
    obtain ⟨nonempty, text⟩ := normalizeCustomQuery_eq_some.mp normalized
    have clean := cleanPart_inner nonempty stop
    rw [text]
    refine ⟨clean, normalizeCustomQuery_eq_some.mpr ?_⟩
    rw [text, inner_of_clean clean.start clean.stop]
    exact ⟨nonempty, rfl⟩

/-- A semicolon in front of a blank and another one is kept. -/
theorem separate_semicolon_kept : normalizeCustomQuery "SELECT 1; ;" = some "SELECT 1;" := by
  decide

end Profiling
