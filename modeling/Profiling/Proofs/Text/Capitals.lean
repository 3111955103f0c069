import Profiling.Text.Blank
import Profiling.Text.Case

/-!
# Texts in capitals

Capitals come from letters alone. A text in capitals has the characters of a class that tells no letters
apart where the text had them before, so a cut at such characters can be made on either side.
-/

namespace Profiling.Text

/-! ### Capitals of a character -/

/-- The letters beyond ASCII whose capitals are ASCII. -/
def widened : List Char := ['ı', 'ſ', 'ß', 'ﬀ', 'ﬁ', 'ﬂ', 'ﬃ', 'ﬄ', 'ﬅ', 'ﬆ']

theorem toNat_toUpper {c : Char} (small : 97 ≤ c.toNat ∧ c.toNat ≤ 122) : c.toUpper.toNat + 32 = c.toNat := by
  have letter : 'a'.val ≤ c.val ∧ c.val ≤ 'z'.val := small
  have shifted : c.toUpper.toNat = (c.val + ('A'.val - 'a'.val)).toNat := by
    unfold Char.toUpper
    rw [dif_pos letter]
    rfl
  have plain : c.val.toNat = c.toNat := rfl
  rw [shifted, UInt32.toNat_add, plain]
  have wraps : ('A'.val - 'a'.val).toNat = 2 ^ 32 - 32 := rfl
  rw [wraps]
  omega

theorem toUpper_of_not_small {c : Char} (other : ¬ (97 ≤ c.toNat ∧ c.toNat ≤ 122)) : c.toUpper = c := by
  unfold Char.toUpper
  exact dif_neg other

theorem asciiCapitals_cases (c : Char) :
    (c ∈ widened ∧ asciiCapitals c ≠ [] ∧ ∀ x ∈ asciiCapitals c, 65 ≤ x.toNat ∧ x.toNat ≤ 122) ∨
      asciiCapitals c = [c.toUpper] := by
  unfold asciiCapitals
  split
  case h_11 => exact .inr rfl
  all_goals exact .inl ⟨by decide, List.cons_ne_nil _ _, by simp⟩

theorem asciiUpper_append (s t : List Char) : asciiUpper (s ++ t) = asciiUpper s ++ asciiUpper t :=
  List.flatMap_append

/-! ### Classes that tell no letters apart -/

/-- Whether a class has all letters or none. Capitals are in it exactly if what they come from is. -/
structure LettersAlike (p : Char → Bool) : Prop where
  ascii : ∀ c : Char, 65 ≤ c.toNat → c.toNat ≤ 122 → p c = p 'A'
  widened : widened.all (p · == p 'A') = true

theorem lettersAlike_isBlank : LettersAlike isBlank where
  ascii c low high := by
    have none : isBlank 'A' = false := by decide
    rw [none, isBlank]
    simp
    omega
  widened := by decide

variable {p : Char → Bool} {s : List Char}

theorem LettersAlike.capitals (alike : LettersAlike p) (c : Char) :
    asciiCapitals c ≠ [] ∧ ∀ x ∈ asciiCapitals c, p x = p c := by
  rcases asciiCapitals_cases c with ⟨wide, some, letters⟩ | single
  · refine ⟨some, ?_⟩
    intro x member
    obtain ⟨low, high⟩ := letters x member
    rw [eq_of_beq (List.all_eq_true.mp alike.widened c wide), alike.ascii x low high]
  · rw [single]
    refine ⟨List.cons_ne_nil _ _, ?_⟩
    intro x member
    obtain rfl := List.mem_singleton.mp member
    by_cases small : 97 ≤ c.toNat ∧ c.toNat ≤ 122
    · have shifted := toNat_toUpper small
      rw [alike.ascii c (by omega) (by omega), alike.ascii c.toUpper (by omega) (by omega)]
    · rw [toUpper_of_not_small small]

/-! ### Cutting -/

section Cutting

-- Each character is written by at least one, and all of those are in the class or none is.
variable {f : Char → List Char} (keeps : ∀ c, f c ≠ [] ∧ ∀ x ∈ f c, p x = p c)
include keeps

theorem dropWhile_flatMap (s : List Char) : (s.flatMap f).dropWhile p = (s.dropWhile p).flatMap f := by
  induction s with
  | nil => rfl
  | cons c s ih =>
    obtain ⟨some, same⟩ := keeps c
    rw [List.flatMap_cons]
    cases inside : p c with
    | true =>
      have all : ∀ x ∈ f c, p x = true := fun x member => (same x member).trans inside
      rw [List.dropWhile_append_of_pos all, ih, List.dropWhile_cons_of_pos inside]
    | false =>
      obtain ⟨x, xs, shape⟩ := List.exists_cons_of_ne_nil some
      have first : p x = false := (same x (shape ▸ List.mem_cons_self)).trans inside
      rw [List.dropWhile_cons_of_neg (by simpa using inside), List.flatMap_cons, shape, List.cons_append,
        List.dropWhile_cons_of_neg (by simpa using first)]

theorem takeWhile_flatMap (s : List Char) : (s.flatMap f).takeWhile p = (s.takeWhile p).flatMap f := by
  induction s with
  | nil => rfl
  | cons c s ih =>
    obtain ⟨some, same⟩ := keeps c
    rw [List.flatMap_cons]
    cases inside : p c with
    | true =>
      have all : ∀ x ∈ f c, p x = true := fun x member => (same x member).trans inside
      rw [List.takeWhile_append_of_pos all, ih, List.takeWhile_cons_of_pos inside, List.flatMap_cons]
    | false =>
      obtain ⟨x, xs, shape⟩ := List.exists_cons_of_ne_nil some
      have first : p x = false := (same x (shape ▸ List.mem_cons_self)).trans inside
      rw [List.takeWhile_cons_of_neg (by simpa using inside), shape, List.cons_append,
        List.takeWhile_cons_of_neg (by simpa using first)]
      rfl

theorem dropTailWhile_flatMap (s : List Char) : dropTailWhile p (s.flatMap f) = (dropTailWhile p s).flatMap f := by
  have mirrored : ∀ c, (f c).reverse ≠ [] ∧ ∀ x ∈ (f c).reverse, p x = p c := by
    intro c
    obtain ⟨some, same⟩ := keeps c
    exact ⟨fun none => some (List.reverse_eq_nil_iff.mp none), fun x member => same x (List.mem_reverse.mp member)⟩
  calc ((s.flatMap f).reverse.dropWhile p).reverse
      = ((s.reverse.flatMap (List.reverse ∘ f)).dropWhile p).reverse := by rw [List.reverse_flatMap]
    _ = ((s.reverse.dropWhile p).flatMap (List.reverse ∘ f)).reverse :=
      congrArg List.reverse (dropWhile_flatMap mirrored s.reverse)
    _ = (s.reverse.dropWhile p).reverse.flatMap f := List.flatMap_reverse.symm

end Cutting

theorem head?_dropWhile {c : Char} (head : (s.dropWhile p).head? = some c) : p c = false := by
  have first := List.head?_dropWhile_not p s
  rw [head] at first
  exact first

theorem dropWhile_of_prefix {t : List Char} (starts : t <+: s.dropWhile p) : t.dropWhile p = t := by
  cases t with
  | nil => rfl
  | cons c t =>
    obtain ⟨rest, whole⟩ := starts
    have first : p c = false := head?_dropWhile (by rw [← whole]; rfl)
    exact List.dropWhile_cons_of_neg (by simpa using first)

theorem trim_trim (s : List Char) : trim (trim s) = trim s := by
  have front : (trim s).dropWhile isBlank = trim s :=
    dropWhile_of_prefix ⟨_, dropTailWhile_append_takeTail isBlank (s.dropWhile isBlank)⟩
  have behind : dropTailWhile isBlank (trim s) = trim s := by
    unfold trim dropTailWhile
    rw [List.reverse_reverse, dropWhile_of_prefix (List.prefix_refl _)]
  rw [trim, front, behind]

theorem trim_asciiUpper (s : List Char) : trim (asciiUpper s) = asciiUpper (trim s) := by
  unfold trim asciiUpper
  rw [dropWhile_flatMap lettersAlike_isBlank.capitals, dropTailWhile_flatMap lettersAlike_isBlank.capitals]

end Profiling.Text
