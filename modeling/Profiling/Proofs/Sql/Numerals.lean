import Mathlib.Algebra.Order.Field.Rat
import Mathlib.Algebra.Order.Group.Abs
import Mathlib.Data.List.TakeWhile
import Mathlib.Data.Rat.Cast.Defs
import Profiling.Proofs.Decimal.Nearest
import Profiling.Proofs.Decimal.Rounding
import Profiling.Proofs.Sql.Lexeme

/-!
# Numerals of statements

The number that a numeral of a statement stands for. An integer stands for itself, and a float that has
zeros before its point for the whole number that ends in them.
-/

namespace Profiling

/-- The number of digits with a point among them; `none` for any other text. -/
def plainValue? (s : List Char) : Option ℚ :=
  let whole := s.takeWhile Char.isDigit
  match s.dropWhile Char.isDigit with
  | [] => if whole = [] then none else some (digitsValue whole)
  | '.' :: fraction =>
    if whole = [] ∨ fraction = [] ∨ fraction.all Char.isDigit = false then none
    else some (digitsValue whole + digitsValue fraction / tenTo fraction.length)
  | _ => none

/-- The number that a numeral stands for; `none` for a text that is no numeral. -/
def numeralValue? : List Char → Option ℚ
  | '-' :: s => (plainValue? s).map (- ·)
  | s => plainValue? s

variable {s t : List Char}

theorem plainValue?_digits (digits : ∀ c ∈ s, c.isDigit = true) (some : s ≠ []) :
    plainValue? s = .some ↑(digitsValue s) := by
  unfold plainValue?
  rw [List.takeWhile_eq_self_iff.mpr digits, List.dropWhile_eq_nil_iff.mpr digits]
  exact if_neg some

theorem plainValue?_point (digits : ∀ c ∈ s, c.isDigit = true) (some : s ≠ [])
    (fraction : ∀ c ∈ t, c.isDigit = true) (behind : t ≠ []) :
    plainValue? (s ++ '.' :: t) = .some (digitsValue s + digitsValue t / tenTo t.length) := by
  have whole : (s ++ '.' :: t).takeWhile Char.isDigit = s := by
    rw [List.takeWhile_append_of_pos digits]
    exact List.append_nil s
  have rest : (s ++ '.' :: t).dropWhile Char.isDigit = '.' :: t := List.dropWhile_append_of_pos digits
  have all : ¬ t.all Char.isDigit = false := by
    rw [List.all_eq_true.mpr fraction]
    decide
  unfold plainValue?
  rw [whole, rest]
  exact if_neg (not_or.mpr ⟨some, not_or.mpr ⟨behind, all⟩⟩)

/-- A text that starts with digits has no sign. -/
theorem numeralValue?_of_digits (digits : ∀ c ∈ s, c.isDigit = true) (some : s ≠ []) (t : List Char) :
    numeralValue? (s ++ t) = plainValue? (s ++ t) := by
  obtain ⟨c, s, rfl⟩ := List.exists_cons_of_ne_nil some
  unfold numeralValue?
  split
  · next same =>
    obtain rfl := (List.cons.inj same).1
    exact absurd (digits '-' List.mem_cons_self) (by decide)
  · rfl

theorem numeralValue?_intText (n : Int) : numeralValue? (intText n) = some ↑n := by
  have digits (m : Nat) : plainValue? (natText m) = some ↑m := by
    rw [plainValue?_digits (fun _ => isDigit_of_mem_natText) (natText_ne_nil m), digitsValue_natText]
  unfold intText
  split
  · next negative =>
    have opposite : ((n.natAbs : Nat) : ℚ) = -n := by
      rw [← Int.cast_natCast, ← Int.cast_neg, Int.ofNat_natAbs_of_nonpos negative.le]
    show (plainValue? (natText n.natAbs)).map (- ·) = _
    rw [digits, Option.map_some, opposite, neg_neg]
  · next positive =>
    have same : ((n.natAbs : Nat) : ℚ) = n := by
      rw [← Int.cast_natCast, Int.natAbs_of_nonneg (not_lt.mp positive)]
    rw [← List.append_nil (natText n.natAbs), numeralValue?_of_digits (fun _ => isDigit_of_mem_natText)
      (natText_ne_nil _), List.append_nil, digits, same]

/-! ### Floats -/

theorem isNaN_of_isFinite {x : Float} (finite : x.isFinite = true) : x.isNaN = false := by
  have model : x.toModel.unpack.isFinite = true := finite
  show x.toModel.unpack.isNaN = false
  cases unpacked : x.toModel.unpack <;> rw [unpacked] at model <;> trivial

theorem isInf_of_isFinite {x : Float} (finite : x.isFinite = true) : x.isInf = false := by
  have model : x.toModel.unpack.isFinite = true := finite
  show x.toModel.unpack.isInf = false
  cases unpacked : x.toModel.unpack <;> rw [unpacked] at model <;> trivial

theorem plainText_of_finite {x : Float} (finite : x.isFinite = true) : plainText x = plainLayout.text x := by
  unfold plainText
  rw [isNaN_of_isFinite finite, isInf_of_isFinite finite]
  rfl

def withZeros (n k : Nat) : List Char := natText n ++ List.replicate k '0'

theorem isDigit_of_mem_withZeros {n k : Nat} {c : Char} (h : c ∈ withZeros n k) : c.isDigit = true := by
  rcases List.mem_append.mp h with h | h
  · exact isDigit_of_mem_natText h
  · rw [List.eq_of_mem_replicate h]
    rfl

theorem digitsValue_withZeros (n k : Nat) : digitsValue (withZeros n k) = n * tenTo k := by
  have zeros : digitsValue (withZeros n k) = Nat.ofDigitChars 10 (List.replicate k '0') (digitsValue (natText n)) :=
    Nat.ofDigitChars_append 0
  rw [zeros, Nat.ofDigitChars_replicate_zero, digitsValue_natText, Nat.mul_comm]
  rfl

theorem numeralValue?_withZeros (n k : Nat) :
    numeralValue? (withZeros n k ++ ['.', '0']) = some ↑(n * tenTo k) := by
  have digits : ∀ c ∈ withZeros n k, c.isDigit = true := fun _ => isDigit_of_mem_withZeros
  have some : withZeros n k ≠ [] := List.append_ne_nil_of_left_ne_nil (natText_ne_nil n) _
  have zero : digitsValue ['0'] = 0 := rfl
  rw [numeralValue?_of_digits digits some, plainValue?_point digits some (List.forall_mem_singleton.mpr rfl)
    (List.cons_ne_nil _ _), digitsValue_withZeros, zero, Nat.cast_zero, zero_div, add_zero]

/-- A decimal with zeros at its end is written with them, and a point behind. -/
theorem Literal.floatText_of_zeros {x : Float} {d : Decimal} {k : Nat} (finite : x.isFinite = true)
    (unsigned : signText x = []) (shortest : Decimal.shortest? .double x .up = some d) (exponent : d.exponent = k) :
    floatText x = withZeros d.coefficient k ++ ['.', '0'] := by
  have magnitude : plainLayout.magnitude x = withZeros d.coefficient k := by
    have digits : 0 < (natText d.coefficient).length := List.length_pos_iff.mpr (natText_ne_nil _)
    have decimal : plainLayout.magnitude x = plainLayout.decimal d := by
      unfold FloatLayout.magnitude
      rw [show Decimal.shortest? plainLayout.format x plainLayout.tie = some d from shortest]
    have place : plainLayout.decimal d =
      plainLayout.place (natText d.coefficient) ((natText d.coefficient).length + d.exponent) := rfl
    have zeros : ((natText d.coefficient).length + (k : Int)).toNat - (natText d.coefficient).length = k := by omega
    rw [decimal, place, exponent]
    -- the point of the decimal is not before or among its digits, so it has zeros up to there
    unfold FloatLayout.place
    rw [if_neg (by omega), if_neg (by omega), zeros]
    exact List.append_nil _
  have noPoint : ¬ (withZeros d.coefficient k).contains '.' = true := fun point =>
    absurd (isDigit_of_mem_withZeros (List.contains_iff_mem.mp point)) (by decide)
  unfold floatText
  rw [if_pos finite, plainText_of_finite finite]
  unfold FloatLayout.text
  rw [unsigned, List.nil_append, magnitude]
  exact if_neg noPoint

/-- A whole number from 2 ^ 63 on that fits 64 bits is shown as one next to it that has zeros in its last
two places. -/
theorem numeralValue?_ofInt_large {n : Int} (low : twoTo 63 ≤ n) (high : n < twoTo 64) :
    ∃ m : Int, numeralValue? (Literal.floatText (.ofInt n)) = some ↑m ∧ (100 : Int) ∣ m ∧
      |m - n| ≤ twoTo 11 := by
  obtain ⟨r, e, finite, unsigned, parts, least, most, places, down, up⟩ := ofInt_large low high
  obtain ⟨d, k, shortest, exponent, zeros, below, above⟩ := Decimal.shortest?_large parts least most places
  refine ⟨↑(d.coefficient * tenTo k), ?_, ?_, ?_⟩
  · rw [Literal.floatText_of_zeros finite unsigned shortest exponent, numeralValue?_withZeros, Int.cast_natCast]
  · obtain ⟨k, rfl⟩ := Nat.exists_eq_add_of_le zeros
    have tens : tenTo (2 + k) = 100 * tenTo k := Nat.pow_add 10 2 k
    rw [tens]
    exact Int.natCast_dvd_natCast.mpr ((Nat.dvd_mul_right 100 _).mul_left _)
  · have half : twoTo 10 = 1024 ∧ twoTo 11 = 2048 := ⟨rfl, rfl⟩
    rw [abs_le]
    omega

end Profiling
