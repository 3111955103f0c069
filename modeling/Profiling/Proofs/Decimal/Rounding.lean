import Mathlib.Data.Nat.Log
import Mathlib.Tactic.Ring
import Profiling.Decimal.Layout

/-!
# Whole numbers as floats

A whole number that needs 64 bits is brought to a mantissa of 53 bits: eleven places are shifted out, and
what they hold decides which of the two neighbours is taken.
-/

namespace Profiling

open Float.Model Float.Model.UnpackedFloat

/-- The bits that are shifted out of a mantissa. -/
theorem shiftRight_exact (N k : Nat) :
    ExtendedMantissa.mk N false false >>> (k + 1) =
      ⟨N / 2 ^ (k + 1), N / 2 ^ k % 2 != 0, N % 2 ^ k != 0⟩ := by
  induction k with
  | zero => simp [HShiftRight.hShiftRight, Nat.repeat, ExtendedMantissa.shiftRightOne, Nat.mod_one]
  | succ k ih =>
    show (ExtendedMantissa.mk N false false >>> (k + 1)).shiftRightOne = _
    rw [ih]
    unfold ExtendedMantissa.shiftRightOne
    have halves : N / 2 ^ (k + 1) / 2 = N / 2 ^ (k + 2) := by rw [Nat.div_div_eq_div_mul, ← pow_succ]
    have rest : N % 2 ^ (k + 1) = N % 2 ^ k + 2 ^ k * (N / 2 ^ k % 2) := by
      rw [pow_succ, Nat.mod_mul]
    have positive := Nat.two_pow_pos k
    simp only [halves, rest]
    congr 1
    rw [Bool.eq_iff_iff]
    simp
    omega

theorem roundedMantissa_down (q : Nat) (s : Bool) : (ExtendedMantissa.mk q false s).roundedMantissa = q := by
  cases s <;> rfl

/-- Half of the last place at most is lost in rounding. -/
theorem roundedMantissa_near (N k : Nat) :
    let r := (ExtendedMantissa.mk N false false >>> (k + 1)).roundedMantissa
    2 ^ (k + 1) * r ≤ N + 2 ^ k ∧ N ≤ 2 ^ (k + 1) * r + 2 ^ k := by
  intro r
  have rounded : r = ExtendedMantissa.roundedMantissa ⟨N / 2 ^ (k + 1), N / 2 ^ k % 2 != 0, N % 2 ^ k != 0⟩ :=
    congrArg ExtendedMantissa.roundedMantissa (shiftRight_exact N k)
  have parts : 2 ^ (k + 1) * (N / 2 ^ (k + 1)) + (N % 2 ^ k + 2 ^ k * (N / 2 ^ k % 2)) = N := by
    rw [← Nat.mod_mul, ← pow_succ]
    exact Nat.div_add_mod N (2 ^ (k + 1))
  have sticky := Nat.mod_lt N (Nat.two_pow_pos k)
  have double : 2 ^ (k + 1) = 2 * 2 ^ k := by ring
  -- below the half it is rounded down, above it up, and at the half to the even neighbour
  rcases Nat.mod_two_eq_zero_or_one (N / 2 ^ k) with bit | bit <;> rw [bit] at rounded parts
  · replace rounded : r = N / 2 ^ (k + 1) := rounded.trans (roundedMantissa_down _ _)
    rw [rounded]
    omega
  · by_cases rest : N % 2 ^ k = 0
    · rw [rest] at rounded parts
      replace rounded : r = N / 2 ^ (k + 1) + N / 2 ^ (k + 1) % 2 := rounded
      rw [rounded, Nat.mul_add]
      rcases Nat.mod_two_eq_zero_or_one (N / 2 ^ (k + 1)) with tie | tie <;> rw [tie] <;> omega
    · rw [bne_iff_ne.mpr rest] at rounded
      replace rounded : r = N / 2 ^ (k + 1) + 1 := rounded
      rw [rounded, Nat.mul_add]
      omega

/-- A mantissa of 53 bits and no more stays as it is. -/
theorem shift_full {r : Nat} (low : 2 ^ 52 ≤ r) (high : r < 2 ^ 53) {e : Int} (normal : -1074 ≤ e) :
    shiftToTargetExponent Format.binary64 r e .exact = (ExtendedMantissa.mk r false false, e) := by
  have log : r.log2 = 52 := (Nat.log2_eq_iff (by omega)).mpr ⟨low, high⟩
  have target : Format.binary64.targetExponent (totalExponent r e) = e := by
    show max ((r.log2 : Int) + 1 + e - 53) (-1074) = e
    omega
  unfold shiftToTargetExponent shiftToExponent
  rw [target]
  simp [HShiftRight.hShiftRight, Nat.repeat, ExtendedMantissa.ofMantissaAndAccuracy]

/-- A whole number is rounded with 53 more places behind it, all of them zeros. -/
theorem ofScientific_whole {n : Nat} (positive : 0 < n) : UnpackedFloat.ofScientific Format.binary64 n 0 =
    roundWithAccuracy Format.binary64 .positive (n <<< 53) (-53) .exact := by
  have product : n <<< Format.binary64.mantissaBits * 10 ^ Int.toNat 0 = n <<< 53 := Nat.mul_one _
  have bits : (2 : Int) ^ Format.binary64.exponentBits = 2048 := rfl
  -- the number is not zero, its exponent neither too small nor too large, and the power of ten is no fraction
  refine (dif_neg positive.ne').trans
    ((if_neg (by decide)).trans ((if_neg (by omega)).trans ((if_pos (by decide)).trans ?_)))
  show roundWithAccuracy Format.binary64 .positive (n <<< Format.binary64.mantissaBits * 10 ^ Int.toNat 0) (-53)
    .exact = _
  rw [product]

/-- Whole numbers from 2 ^ 63 on as floats. -/
theorem ofScientific_large {n : Nat} (low : 2 ^ 63 ≤ n) (high : n < 2 ^ 64) :
    ∃ r e positive, UnpackedFloat.ofScientific Format.binary64 n 0 = .finite .positive r e positive ∧
      2 ^ 52 ≤ r ∧ r < 2 ^ 53 ∧ (e = 11 ∨ r = 2 ^ 52 ∧ e = 12) ∧
      r * 2 ^ e.toNat ≤ n + 2 ^ 10 ∧ n ≤ r * 2 ^ e.toNat + 2 ^ 10 := by
  have log : (n <<< 53).log2 = 116 := by
    rw [Nat.log2_eq_iff (by rw [Nat.shiftLeft_eq]; omega), Nat.shiftLeft_eq]
    omega
  have target : Format.binary64.targetExponent (totalExponent (n <<< 53) (-53)) = 11 := by
    rw [totalExponent, log]
    rfl
  have shifted : shiftToTargetExponent Format.binary64 (n <<< 53) (-53) .exact =
      (ExtendedMantissa.mk (n <<< 53) false false >>> (63 + 1), 11) := by
    unfold shiftToTargetExponent shiftToExponent
    rw [target]
    rfl
  obtain ⟨above, below⟩ := roundedMantissa_near (n <<< 53) 63
  rw [ofScientific_whole (by omega), roundWithAccuracy, shifted]
  dsimp only
  generalize (ExtendedMantissa.mk (n <<< 53) false false >>> (63 + 1)).roundedMantissa = r at above below
  rw [Nat.shiftLeft_eq] at above below
  -- rounding up can carry into a 54th bit, and then the mantissa is halved
  by_cases full : r < 2 ^ 53
  · have low : 2 ^ 52 ≤ r := by omega
    have positive : 0 < r := by omega
    rw [shift_full low full (by decide), dif_neg positive.ne']
    have near : r * 2 ^ 11 ≤ n + 2 ^ 10 ∧ n ≤ r * 2 ^ 11 + 2 ^ 10 := by omega
    exact ⟨r, 11, positive, rfl, low, full, .inl rfl, near⟩
  · obtain rfl : r = 2 ^ 53 := by omega
    have near : 2 ^ 52 * 2 ^ 12 ≤ n + 2 ^ 10 ∧ n ≤ 2 ^ 52 * 2 ^ 12 + 2 ^ 10 := by omega
    exact ⟨2 ^ 52, 12, by decide, rfl, by decide, by decide, .inr ⟨rfl, rfl⟩, near⟩

theorem isFinite_unpack {f : Format} {bits : BitVec f.numBits} (below : unpackExponent bits ≠ -1#f.exponentBits) :
    (UnpackedFloat.unpack f bits).isFinite = true := by
  unfold UnpackedFloat.unpack
  rw [if_neg below]
  by_cases least : unpackExponent bits = 0#f.exponentBits
  · rw [if_pos least]
    by_cases zero : unpackMantissa bits = 0#f.mantissaBitsWithoutImplicit
    · rw [dif_pos zero]
      rfl
    · rw [dif_neg zero]
      rfl
  · rw [if_neg least]
    rfl

section Normal

variable {r : Nat} {e : Int} (low : 2 ^ 52 ≤ r) (high : r < 2 ^ 53) (bottom : -1074 ≤ e) (top : e ≤ 971)
  (positive : 0 < r)
include low high bottom top

/-- The bits of a number with a mantissa of 53 bits, the first of which is left out. -/
theorem pack_normal : UnpackedFloat.pack Format.binary64 (.finite .positive r e positive) =
    packComponents Format.binary64 .positive (BitVec.ofNat 11 (e + 1075).toNat) (BitVec.ofNat 52 r) := by
  have log : r.log2 = 52 := (Nat.log2_eq_iff positive.ne').mpr ⟨low, high⟩
  show (if 2 ^ 11 ≤ (e + 1023 + 52).toNat + 1 then packedInfinity Format.binary64 .positive
    else if r.log2 + 1 = 53 then
      packComponents Format.binary64 .positive (BitVec.ofNat 11 (e + 1023 + 52).toNat) (BitVec.ofNat 52 r)
    else packComponents Format.binary64 .positive 0#11 (BitVec.ofNat 52 r)) = _
  have biased : (e + 1023 + 52).toNat = (e + 1075).toNat := by omega
  rw [biased, if_neg (by omega), log, if_pos rfl]

theorem toBits_normal : (Float.Model.pack (.finite .positive r e positive)).toBits.toNat =
    (e + 1075).toNat * 2 ^ 52 + (r - 2 ^ 52) := by
  show (UnpackedFloat.pack Format.binary64 (.finite .positive r e positive)).toNat = _
  have exponent : (BitVec.ofNat 11 (e + 1075).toNat).toNat = (e + 1075).toNat := Nat.mod_eq_of_lt (by omega)
  have fraction : (BitVec.ofNat 52 r).toNat = r - 2 ^ 52 := by
    rw [BitVec.toNat_ofNat]
    omega
  have sign : (Sign.toBitVec .positive ++ BitVec.ofNat 11 (e + 1075).toNat).toNat = (e + 1075).toNat := by
    rw [BitVec.toNat_append, exponent]
    exact Nat.zero_or _
  rw [pack_normal low high bottom top, packComponents, BitVec.toNat_append,
    ← Nat.shiftLeft_add_eq_or_of_lt (BitVec.isLt _), sign, fraction, Nat.shiftLeft_eq]

theorem isFinite_normal : (Float.Model.pack (.finite .positive r e positive)).isFinite = true := by
  show (UnpackedFloat.unpack Format.binary64 (UnpackedFloat.pack Format.binary64 _)).isFinite = true
  have exponent : (BitVec.ofNat 11 (e + 1075).toNat).toNat = (e + 1075).toNat := Nat.mod_eq_of_lt (by omega)
  refine isFinite_unpack fun last => ?_
  rw [pack_normal low high bottom top, unpackExponent_packComponents] at last
  have same : (e + 1075).toNat = 2047 := exponent.symm.trans (congrArg BitVec.toNat last)
  omega

theorem parts_normal :
    BinaryFormat.double.parts (.ofModel (.pack (.finite .positive r e positive))) = (r, e) := by
  have bits : (Float.ofModel (.pack (.finite .positive r e positive))).toBits.toNat = _ :=
    toBits_normal low high bottom top positive
  have whole : twoTo 52 = 2 ^ 52 := rfl
  have fields : twoTo 11 = 2 ^ 11 := rfl
  unfold BinaryFormat.parts
  dsimp only [BinaryFormat.double]
  rw [bits, whole, fields, if_neg (by omega), Prod.mk.injEq]
  exact ⟨by omega, by omega⟩

theorem signText_normal : signText (.ofModel (.pack (.finite .positive r e positive))) = [] := by
  have bits : (Float.ofModel (.pack (.finite .positive r e positive))).toBits.toNat = _ :=
    toBits_normal low high bottom top positive
  have half : twoTo 63 = 2 ^ 63 := rfl
  unfold signText
  rw [bits, half, if_neg (by omega)]

end Normal

theorem ofNat_large {n : Nat} (large : 2 ^ 63 ≤ n) :
    Float.ofNat n = .ofModel (.pack (UnpackedFloat.ofScientific Format.binary64 n 0)) := by
  show Float.ofScientific n false 0 = _
  unfold Float.ofScientific
  rw [dif_neg (by omega)]
  rfl

/-- An integer past the signed ones becomes a float that is next to it. -/
theorem ofInt_large {n : Int} (low : twoTo 63 ≤ n) (high : n < twoTo 64) :
    ∃ (r : Nat) (e : Int), (Float.ofInt n).isFinite = true ∧ signText (Float.ofInt n) = [] ∧
      BinaryFormat.double.parts (Float.ofInt n) = (r, e) ∧ twoTo 52 ≤ r ∧ r < twoTo 53 ∧
      (e = 11 ∨ r = twoTo 52 ∧ e = 12) ∧
      ↑(r * twoTo e.toNat) ≤ n + twoTo 10 ∧ n ≤ ↑(r * twoTo e.toNat) + twoTo 10 := by
  obtain ⟨m, rfl⟩ := Int.eq_ofNat_of_zero_le (show 0 ≤ n by omega)
  replace low : 2 ^ 63 ≤ m := Int.ofNat_le.mp low
  replace high : m < 2 ^ 64 := Int.ofNat_lt.mp high
  obtain ⟨r, e, positive, float, above, below, places, high_near, low_near⟩ := ofScientific_large low high
  have model : Float.ofInt m = .ofModel (.pack (.finite .positive r e positive)) := by
    rw [← float]
    exact ofNat_large low
  have bottom : -1074 ≤ e := by omega
  have top : e ≤ 971 := by omega
  rw [model]
  exact ⟨r, e, isFinite_normal above below bottom top positive, signText_normal above below bottom top positive,
    parts_normal above below bottom top positive, above, below, places, Int.ofNat_le.mpr high_near,
    Int.ofNat_le.mpr low_near⟩

end Profiling
