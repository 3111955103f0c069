import Profiling.Proofs.Calendar.Text
import Profiling.Sql.Literal

/-!
# Lexemes of statements

The texts that statements are put together from: words, numbers, and names and strings in quotes.
A number is a run of token characters, and what stands in quotes reads back.
-/

namespace Profiling

namespace Text

/-- A letter, a digit or an underscore. All characters beyond ASCII count as letters. -/
def isWordChar (c : Char) : Bool := c.isAlphanum || c == '_' || 128 ≤ c.toNat

def isWord (s : List Char) : Bool := !s.isEmpty && s.all isWordChar

def isTokenChar (c : Char) : Bool := isWordChar c || c == '.' || c == '-'

theorem isTokenChar_of_isWordChar {c : Char} (h : isWordChar c = true) : isTokenChar c = true := by
  simp [isTokenChar, h]

theorem isWordChar_of_isDigit {c : Char} (h : c.isDigit = true) : isWordChar c = true := by
  simp [isWordChar, Char.isAlphanum, h]

theorem takeWhile_append_of_stop {p : Char → Bool} {x rest : List Char} (chars : ∀ c ∈ x, p c = true)
    (stop : ∀ c s, rest = c :: s → p c = false) : (x ++ rest).takeWhile p = x := by
  have none : rest.takeWhile p = [] := by
    cases rest with
    | nil => rfl
    | cons c s => simp [stop c s rfl]
  rw [List.takeWhile_append_of_pos chars, none, List.append_nil]

/-! ### Quotes -/

/-- A name without quotes is written as it is. -/
theorem doubleLone_of_not_mem {q : Char} {s : List Char} (h : q ∉ s) (escaped : Bool) :
    doubleLone q escaped s = s := by
  fun_induction doubleLone q escaped s <;> simp_all

theorem quoteName_of_not_mem {q : Char} {s : List Char} (h : q ∉ s) : quoteName q s = q :: s ++ [q] := by
  rw [quoteName, doubleLone_of_not_mem h]

theorem doubleAll_of_not_mem {q : Char} {s : List Char} (h : q ∉ s) : doubleAll q s = s := by
  induction s with
  | nil => rfl
  | cons c s ih =>
    rw [List.mem_cons, not_or] at h
    rw [doubleAll_cons, if_neg (Ne.symm h.1), ih h.2]
    rfl

end Text

open Text

/-! ### Numbers -/

theorem isTokenChar_of_mem_intText {n : Int} {c : Char} (h : c ∈ intText n) : isTokenChar c = true := by
  rcases mem_intText h with rfl | digit
  · rfl
  · exact isTokenChar_of_isWordChar (isWordChar_of_isDigit digit)

theorem intText_ne_word (n : Int) {c : Char} (s : List Char) (letter : c.isDigit = false) (noSign : c ≠ '-') :
    c :: s ≠ intText n := by
  intro same
  rcases mem_intText (same ▸ List.mem_cons_self) with sign | digit
  · exact noSign sign
  · rw [letter] at digit
    contradiction

/-- Place notation adds nothing but zeros and a point to the digits. -/
theorem mem_place {digits : List Char} {point : Int} {c : Char} (h : c ∈ plainLayout.place digits point) :
    c ∈ digits ∨ c = '0' ∨ c = '.' := by
  unfold FloatLayout.place at h
  split at h
  · simp only [List.mem_cons, List.mem_append, List.mem_replicate] at h
    rcases h with h | h | ⟨-, h⟩ | h
    · exact .inr (.inl h)
    · exact .inr (.inr h)
    · exact .inr (.inl h)
    · exact .inl h
  · split at h
    · simp only [List.mem_cons, List.mem_append] at h
      rcases h with h | h | h
      · exact .inl (List.mem_of_mem_take h)
      · exact .inr (.inr h)
      · exact .inl (List.mem_of_mem_drop h)
    · simp only [plainLayout, List.mem_append, List.mem_replicate, Bool.false_eq_true, if_false,
        List.not_mem_nil, or_false] at h
      rcases h with h | ⟨-, h⟩
      · exact .inl h
      · exact .inr (.inl h)

theorem mem_magnitude {x : Float} {c : Char} (h : c ∈ plainLayout.magnitude x) :
    c.isDigit = true ∨ c = '.' := by
  unfold FloatLayout.magnitude at h
  split at h
  · obtain rfl : c = '0' := by simpa [plainLayout] using h
    exact .inl rfl
  · have inPlace (d : Decimal) : plainLayout.decimal d =
        plainLayout.place (natText d.coefficient) ((natText d.coefficient).length + d.exponent) := rfl
    rw [inPlace] at h
    rcases mem_place h with digit | rfl | point
    · exact .inl (isDigit_of_mem_natText digit)
    · exact .inl rfl
    · exact .inr point

theorem mem_signText {x : Float} {c : Char} (h : c ∈ signText x) : c = '-' := by
  unfold signText at h
  split at h
  · exact List.mem_singleton.mp h
  · exact absurd h List.not_mem_nil

/-- The text of a float is a number, or one of two words with a sign before it. -/
theorem plainText_cases (x : Float) :
    plainText x = ['N', 'a', 'N'] ∨ plainText x = signText x ++ ['i', 'n', 'f'] ∨
      ∀ c ∈ plainText x, c.isDigit = true ∨ c = '.' ∨ c = '-' := by
  unfold plainText
  split
  · exact .inl rfl
  · split
    · exact .inr (.inl rfl)
    · refine .inr (.inr fun c h => ?_)
      rcases List.mem_append.mp h with sign | magnitude
      · exact .inr (.inr (mem_signText sign))
      · exact (mem_magnitude magnitude).imp_right .inl

theorem isTokenChar_of_mem_plainText {x : Float} {c : Char} (h : c ∈ plainText x) : isTokenChar c = true := by
  rcases plainText_cases x with nan | inf | number
  · exact List.all_eq_true.mp (by decide) c (nan ▸ h)
  · rcases List.mem_append.mp (inf ▸ h) with sign | word
    · obtain rfl := mem_signText sign
      rfl
    · exact List.all_eq_true.mp (by decide) c word
  · rcases number c h with digit | rfl | rfl
    · exact isTokenChar_of_isWordChar (isWordChar_of_isDigit digit)
    · rfl
    · rfl

namespace Literal

theorem sql_date (d : Dialect) (day : Date) :
    (date day).sql d = "DATE '".toList ++ day.text ++ ['\''] := rfl

theorem sql_timestamp (d : Dialect) (t : Instant) :
    (timestamp t).sql d = "TIMESTAMP '".toList ++ t.text ++ ['\''] := rfl

/-- A finite float is told from an integer by its point. -/
theorem point_mem_floatText {x : Float} (h : x.isFinite = true) : '.' ∈ floatText x := by
  rw [floatText, if_pos h]
  dsimp only
  split
  · next found => exact List.contains_iff_mem.mp found
  · simp

theorem floatText_of_not_finite {x : Float} (h : x.isFinite = false) :
    floatText x = ['N', 'U', 'L', 'L'] := by
  simp [floatText, h]

theorem floatText_ne_nil (x : Float) : floatText x ≠ [] := by
  cases finite : x.isFinite with
  | false =>
    rw [floatText_of_not_finite finite]
    exact List.cons_ne_nil _ _
  | true => exact List.ne_nil_of_mem (point_mem_floatText finite)

theorem floatText_ne_of_letters {x : Float} {s : List Char} (noPoint : '.' ∉ s)
    (notNull : s ≠ ['N', 'U', 'L', 'L']) : floatText x ≠ s := by
  intro same
  cases finite : x.isFinite with
  | true => exact noPoint (same ▸ point_mem_floatText finite)
  | false => exact notNull (same.symm.trans (floatText_of_not_finite finite))

theorem floatText_ne_intText (x : Float) (n : Int) : floatText x ≠ intText n := by
  refine floatText_ne_of_letters (fun point => ?_) (intText_ne_word n _ (by decide) (by decide)).symm
  rcases mem_intText point with h | h <;> exact absurd h (by decide)

theorem isTokenChar_of_mem_floatText {x : Float} {c : Char} (h : c ∈ floatText x) :
    isTokenChar c = true := by
  cases finite : x.isFinite with
  | false =>
    rw [floatText_of_not_finite finite] at h
    exact List.all_eq_true.mp (by decide) c h
  | true =>
    rw [floatText, if_pos finite] at h
    dsimp only at h
    split at h
    · exact isTokenChar_of_mem_plainText h
    · rcases List.mem_append.mp h with h | h
      · exact isTokenChar_of_mem_plainText h
      · exact List.all_eq_true.mp (by decide) c h

end Literal

end Profiling
