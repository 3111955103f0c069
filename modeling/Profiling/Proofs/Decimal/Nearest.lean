import Profiling.Decimal.Shortest
import Profiling.Proofs.Decimal.Digits

/-!
# Decimals next to a number

The shortest decimal of a number is looked for from few digits to many, and at most seventeen are tried. A
number of nineteen or twenty digits that has room around it has such a decimal, with zeros in its last places.
-/

namespace Profiling

namespace Vicinity

variable {v : Vicinity} {tie : Tie} {d : Nat}

theorem between_of_holds (h : v.holds d = true) : v.low ≤ d * v.den ∧ d * v.den ≤ v.high := by
  unfold holds at h
  split at h <;> simp only [Bool.and_eq_true, decide_eq_true_eq] at h <;> omega

theorem holds_of_between (low : v.low < d * v.den) (high : d * v.den < v.high) : v.holds d = true := by
  unfold holds
  split <;> simp <;> omega

theorem holds_of_nearest? (h : v.nearest? tie = some d) : v.holds d = true := by
  unfold nearest? at h
  dsimp only at h
  split at h
  · next low high =>
    split at h <;> cases h
    · exact low
    · exact high
    · exact high
    · split
      · exact low
      · exact high
  · next low _ =>
    cases h
    exact low
  · next _ high =>
    cases h
    exact high
  · cases h

/-- Where the whole number behind a number rounds to it, there is a nearest one that does. -/
theorem nearest?_ne_none (h : v.holds (v.value / v.den + 1) = true) : v.nearest? tie ≠ none := by
  unfold nearest?
  dsimp only
  rw [h]
  split
  · split <;> simp
  all_goals simp_all

theorem inUnits_natCast (v : Vicinity) (x : Nat) : v.inUnits x = { v with den := v.den * tenTo x } := by
  have up : tenTo (-(x : Int)).toNat = 1 := by
    rw [Int.toNat_of_nonpos (by omega)]
    rfl
  unfold inUnits
  dsimp only
  rw [up, Int.toNat_natCast, Nat.mul_one, Nat.mul_one, Nat.mul_one]

/-- A number from 10 ^ 18 on and below 10 ^ 20 has nineteen or twenty digits before the point. -/
theorem leadingExponent_large (positive : 0 < v.den) (low : tenTo 18 * v.den ≤ v.value)
    (high : v.value < tenTo 20 * v.den) : ∃ t : Nat, v.leadingExponent = t ∧ 18 ≤ t ∧ t ≤ 19 := by
  have above : tenTo 18 ≤ v.value / v.den := (Nat.le_div_iff_mul_le positive).mpr low
  have below : v.value / v.den < tenTo 20 := (Nat.div_lt_iff_lt_mul positive).mpr high
  have short : (natText (v.value / v.den)).length ≤ 20 := (Nat.length_toDigits_le_iff (by omega) (by omega)).mpr below
  have long : ¬ (natText (v.value / v.den)).length ≤ 18 := fun short =>
    Nat.not_lt.mpr above ((Nat.length_toDigits_le_iff (by omega) (by omega)).mp short)
  have whole : v.den ≤ v.value := Nat.le_trans (Nat.le_mul_of_pos_left _ (Nat.pow_pos (by omega))) low
  unfold leadingExponent
  rw [if_pos whole]
  exact ⟨(natText (v.value / v.den)).length - 1, by omega, by omega, by omega⟩

end Vicinity

namespace Decimal

variable {v : Vicinity} {tie : Tie} {d : Decimal}

/-- Zeros that are dropped are in the exponent. -/
theorem dropZeros_value (d : Decimal) (fuel : Nat) :
    ∃ k : Nat, (d.dropZeros fuel).exponent = d.exponent + k ∧
      d.coefficient = (d.dropZeros fuel).coefficient * tenTo k := by
  induction fuel generalizing d with
  | zero => exact ⟨0, by simp [dropZeros], (Nat.mul_one _).symm⟩
  | succ fuel ih =>
    unfold dropZeros
    split
    · next zero =>
      obtain ⟨k, exponent, coefficient⟩ := ih ⟨d.coefficient / 10, d.exponent + 1⟩
      replace exponent : _ = d.exponent + 1 + (k : Int) := exponent
      replace coefficient : d.coefficient / 10 = _ := coefficient
      have tens : tenTo (k + 1) = tenTo k * 10 := rfl
      refine ⟨k + 1, by omega, ?_⟩
      rw [tens, ← Nat.mul_assoc, ← coefficient]
      omega
    · exact ⟨0, by simp, (Nat.mul_one _).symm⟩

theorem ofVicinity_eq_some (h : ofVicinity v tie = some d) :
    ∃ n : Nat, n < 17 ∧ ∃ c, (v.inUnits (v.leadingExponent - (n : Int))).holds c = true ∧
      ∃ k : Nat, d.exponent = v.leadingExponent - (n : Int) + k ∧ c = d.coefficient * tenTo k := by
  obtain ⟨n, member, found⟩ := List.exists_of_findSome?_eq_some h
  obtain ⟨c, nearest, rfl⟩ := Option.map_eq_some_iff.mp found
  exact ⟨n, List.mem_range.mp member, c, Vicinity.holds_of_nearest? nearest, dropZeros_value _ _⟩

theorem ofVicinity_ne_none {n : Nat} (few : n < 17)
    (h : (v.inUnits (v.leadingExponent - (n : Int))).nearest? tie ≠ none) : ofVicinity v tie ≠ none := by
  intro none
  have missing := List.findSome?_eq_none_iff.mp none n (List.mem_range.mpr few)
  exact h (Option.map_eq_none_iff.mp missing)

/-- A number of nineteen or twenty digits, to which all numbers round that are up to a thousand behind it, has
a decimal of at most seventeen digits, so there are zeros at its end. -/
theorem ofVicinity_wide (positive : 0 < v.den) (low : tenTo 18 * v.den ≤ v.value) (high : v.value < tenTo 20 * v.den)
    (below : v.low ≤ v.value) (wide : v.value + tenTo 3 * v.den < v.high) :
    ∃ d : Decimal, ∃ k : Nat, ofVicinity v tie = some d ∧ d.exponent = k ∧ 2 ≤ k ∧
      v.low ≤ d.coefficient * tenTo k * v.den ∧ d.coefficient * tenTo k * v.den ≤ v.high := by
  obtain ⟨t, leading, least, most⟩ := Vicinity.leadingExponent_large positive low high
  have unit {n : Nat} (few : n < 17) : v.leadingExponent - (n : Int) = ((t - n : Nat) : Int) := by omega
  -- with seventeen digits, the number without its further ones, and one more in the last place, is in the room
  have some : ofVicinity v tie ≠ none := by
    have few : tenTo (t - 16) ≤ tenTo 3 := Nat.pow_le_pow_right (by omega) (by omega)
    have last : 0 < v.den * tenTo (t - 16) := Nat.mul_pos positive (Nat.pow_pos (by omega))
    have floor := Nat.div_add_mod v.value (v.den * tenTo (t - 16))
    have rest := Nat.mod_lt v.value last
    have small : v.den * tenTo (t - 16) ≤ tenTo 3 * v.den := by
      rw [Nat.mul_comm]
      exact Nat.mul_le_mul_right _ few
    refine ofVicinity_ne_none (n := 16) (by omega) ?_
    rw [unit (by omega), Vicinity.inUnits_natCast]
    refine Vicinity.nearest?_ne_none (Vicinity.holds_of_between ?_ ?_)
    all_goals
      dsimp only
      rw [Nat.add_mul, Nat.one_mul, Nat.mul_comm (v.value / _)]
      omega
  obtain ⟨d, found⟩ := Option.ne_none_iff_exists'.mp some
  obtain ⟨n, few, c, holds, k, exponent, rfl⟩ := ofVicinity_eq_some found
  rw [unit few, Vicinity.inUnits_natCast] at holds
  have near := Vicinity.between_of_holds holds
  have scaled : d.coefficient * tenTo (t - n + k) * v.den = d.coefficient * tenTo k * (v.den * tenTo (t - n)) := by
    have tens : tenTo (t - n + k) = tenTo (t - n) * tenTo k := Nat.pow_add 10 _ _
    rw [tens]
    ac_rfl
  refine ⟨d, t - n + k, found, by omega, by omega, ?_⟩
  rw [scaled]
  exact near

/-- The vicinity of a number in units of 2 ^ 11. -/
theorem ofBinary_large (r : Nat) : (Vicinity.ofBinary .double r 11).den = 4 ∧
    (Vicinity.ofBinary .double r 11).value = 8192 * r ∧ (Vicinity.ofBinary .double r 11).high = 8192 * r + 4096 ∧
    (Vicinity.ofBinary .double r 11).low ≤ 8192 * r ∧ 8192 * r ≤ (Vicinity.ofBinary .double r 11).low + 4096 := by
  have unit : twoTo (Int.toNat 11) = 2048 := rfl
  have den : 4 * twoTo (Int.toNat (-11)) = 4 := rfl
  unfold Vicinity.ofBinary
  dsimp only
  rw [unit, den]
  refine ⟨rfl, by omega, by omega, by omega, ?_⟩
  split <;> omega

/-- From 2 ^ 63 on, the shortest decimal of a number with a mantissa of 53 bits. -/
theorem shortest?_large {x : Float} {r : Nat} {e : Int} (parts : BinaryFormat.double.parts x = (r, e))
    (low : twoTo 52 ≤ r) (high : r < twoTo 53) (places : e = 11 ∨ r = twoTo 52 ∧ e = 12) :
    ∃ d : Decimal, ∃ k : Nat, shortest? .double x .up = some d ∧ d.exponent = k ∧ 2 ≤ k ∧
      d.coefficient * tenTo k ≤ r * twoTo e.toNat + twoTo 10 ∧
      r * twoTo e.toNat ≤ d.coefficient * tenTo k + twoTo 10 := by
  have lowest : twoTo 52 = 4503599627370496 := rfl
  have highest : twoTo 53 = 9007199254740992 := rfl
  have shortest : shortest? .double x .up = ofVicinity (.ofBinary .double r e) .up := by
    unfold shortest?
    rw [parts]
    exact if_neg (by omega)
  rw [shortest]
  obtain rfl | ⟨rfl, rfl⟩ := places
  · have scale : twoTo (Int.toNat 11) = 2048 := rfl
    have half : twoTo 10 = 1024 := rfl
    have powers : tenTo 3 = 1000 ∧ tenTo 18 = 1000000000000000000 ∧ tenTo 20 = 100000000000000000000 :=
      ⟨rfl, rfl, rfl⟩
    obtain ⟨den, value, top, below, above⟩ := ofBinary_large r
    rw [scale]
    generalize Vicinity.ofBinary .double r 11 = v at den value top below above
    obtain ⟨d, k, found, exponent, zeros, down, up⟩ :=
      @ofVicinity_wide v .up (by omega) (by rw [den]; omega) (by rw [den]; omega) (by omega) (by rw [den]; omega)
    rw [den] at down up
    exact ⟨d, k, found, exponent, zeros, by omega, by omega⟩
  · exact ⟨⟨18446744073709552, 3⟩, 3, by decide, rfl, by decide, by decide, by decide⟩

end Decimal

end Profiling
