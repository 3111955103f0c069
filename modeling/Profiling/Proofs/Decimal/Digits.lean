import Profiling.Decimal.Integer

/-!
# Decimal digits read back

The digits of a number have its value, with zeros in front or without, so that numbers of the same
text are the same.
-/

namespace Profiling

theorem digitsValue_natText (n : Nat) : digitsValue (natText n) = n := Nat.ofDigitChars_ten_toDigits

theorem digitsValue_padded (width n : Nat) : digitsValue (padded width n) = n := by
  have zeros : digitsValue (padded width n) = Nat.ofDigitChars 10 (natText n)
      (Nat.ofDigitChars 10 (List.replicate (width - (natText n).length) '0') 0) :=
    Nat.ofDigitChars_append 0
  rw [zeros, Nat.ofDigitChars_replicate_zero, Nat.mul_zero]
  exact digitsValue_natText n

theorem natText_injective {m n : Nat} (h : natText m = natText n) : m = n := by
  rw [← digitsValue_natText m, h, digitsValue_natText]

theorem padded_injective {width m n : Nat} (h : padded width m = padded width n) : m = n := by
  rw [← digitsValue_padded width m, h, digitsValue_padded]

theorem length_padded {width n : Nat} (h : n < tenTo width) (positive : 0 < width) :
    (padded width n).length = width := by
  have short : (natText n).length ≤ width := (Nat.length_toDigits_le_iff (by omega) positive).mpr h
  simp only [padded, List.length_append, List.length_replicate]
  omega

theorem length_padded_two {n : Nat} (h : n < 100) : (padded 2 n).length = 2 :=
  length_padded h Nat.two_pos

theorem isDigit_of_mem_natText {n : Nat} {c : Char} (h : c ∈ natText n) : c.isDigit = true :=
  Nat.isDigit_of_mem_toDigits (by omega) (by omega) h

theorem natText_ne_nil (n : Nat) : natText n ≠ [] := Nat.toDigits_ne_nil

theorem isDigit_of_mem_padded {width n : Nat} {c : Char} (h : c ∈ padded width n) : c.isDigit = true := by
  rcases List.mem_append.mp h with h | h
  · rw [List.eq_of_mem_replicate h]
    rfl
  · exact isDigit_of_mem_natText h

theorem intText_ne_nil (n : Int) : intText n ≠ [] := by
  unfold intText
  split
  · exact List.cons_ne_nil _ _
  · exact natText_ne_nil _

theorem mem_intText {n : Int} {c : Char} (h : c ∈ intText n) : c = '-' ∨ c.isDigit = true := by
  unfold intText at h
  split at h
  · rcases List.mem_cons.mp h with rfl | h
    · exact Or.inl rfl
    · exact Or.inr (isDigit_of_mem_natText h)
  · exact Or.inr (isDigit_of_mem_natText h)

/-- The digits of a number do not start with a minus sign. -/
theorem minus_cons_ne_natText (s : List Char) (n : Nat) : '-' :: s ≠ natText n := by
  intro h
  have minus : '-' ∈ natText n := h ▸ List.mem_cons_self
  exact absurd (isDigit_of_mem_natText minus) (by decide)

theorem intText_injective {m n : Int} (h : intText m = intText n) : m = n := by
  unfold intText at h
  split at h <;> split at h
  · have same := natText_injective (List.cons.inj h).2
    omega
  · exact absurd h (minus_cons_ne_natText _ _)
  · exact absurd h.symm (minus_cons_ne_natText _ _)
  · have same := natText_injective h
    omega

end Profiling
