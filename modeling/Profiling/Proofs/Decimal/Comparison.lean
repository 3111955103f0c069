import Mathlib.Algebra.Group.Nat.Defs
import Mathlib.Data.Int.Order.Basic

/-!
# Floats that compare alike

A float is written with nothing but its sign, its mantissa and its exponent, and these are what floats are
compared by. So two floats above zero of which neither is the smaller are one.
-/

namespace Profiling

open Float.Model Float.Model.UnpackedFloat

/-! ### Bits -/

theorem toBitVec_ofBitVec (v : BitVec 1) : (Sign.ofBitVec v).toBitVec = v := by
  revert v
  decide

theorem packComponents_unpack (bits : BitVec Format.binary64.numBits) :
    packComponents Format.binary64 (Sign.ofBitVec (unpackSign bits)) (unpackExponent bits) (unpackMantissa bits) =
      bits := by
  have sign (i : Nat) : (unpackSign bits).getLsbD i = (decide (i < 1) && bits.getLsbD (63 + i)) :=
    (BitVec.getLsbD_cast _ _).trans (BitVec.getLsbD_extractLsb ..)
  have exponent (i : Nat) : (unpackExponent bits).getLsbD i = (decide (i < 11) && bits.getLsbD (52 + i)) :=
    (BitVec.getLsbD_cast _ _).trans (BitVec.getLsbD_extractLsb ..)
  have mantissa (i : Nat) : (unpackMantissa bits).getLsbD i = (decide (i < 52) && bits.getLsbD (0 + i)) :=
    (BitVec.getLsbD_cast _ _).trans (BitVec.getLsbD_extractLsb ..)
  unfold packComponents
  rw [toBitVec_ofBitVec]
  apply BitVec.eq_of_getLsbD_eq
  intro i inside
  have inside : i < 64 := inside
  rw [BitVec.getLsbD_append, BitVec.getLsbD_append]
  by_cases low : i < 52
  · rw [if_pos low, mantissa, decide_eq_true low, Bool.true_and, Nat.zero_add]
  · rw [if_neg low]
    by_cases middle : i - 52 < 11
    · rw [if_pos middle, exponent, decide_eq_true middle, Bool.true_and]
      have place : 52 + (i - 52) = i := by omega
      exact congrArg bits.getLsbD place
    · have high : i - 52 - 11 < 1 := by omega
      rw [if_neg middle, sign, decide_eq_true high, Bool.true_and]
      have place : 63 + (i - 52 - 11) = i := by omega
      exact congrArg bits.getLsbD place

theorem toNat_one_append (v : BitVec 52) : (1#1 ++ v).toNat = 2 ^ 52 + v.toNat := by
  have below := v.isLt
  rw [BitVec.toNat_append, ← Nat.shiftLeft_add_eq_or_of_lt below]
  rfl

/-- The bits of a float. A mantissa without its first bit is told by the exponent zero. -/
def floatBits : UnpackedFloat → BitVec Format.binary64.numBits
  | .notANumber => packedNaN Format.binary64
  | .infinity sign => packedInfinity Format.binary64 sign
  | .zero sign => packedZero Format.binary64 sign
  | .finite sign mantissa exponent _ =>
    packComponents Format.binary64 sign (if mantissa < 2 ^ 52 then 0#11 else BitVec.ofNat 11 (exponent + 1075).toNat)
      (BitVec.ofNat 52 mantissa)

theorem floatBits_unpack {bits : BitVec Format.binary64.numBits} (valid : Format.binary64.Valid bits) :
    floatBits (UnpackedFloat.unpack Format.binary64 bits) = bits := by
  have whole := packComponents_unpack bits
  have below : (unpackMantissa bits).toNat < 2 ^ 52 := (unpackMantissa bits).isLt
  unfold UnpackedFloat.unpack
  by_cases last : unpackExponent bits = -1#11
  · rw [if_pos last]
    by_cases blank : unpackMantissa bits = 0#52
    · rw [if_pos blank]
      rw [last, blank] at whole
      exact whole
    · rw [if_neg blank]
      exact (valid.eq_packedNaN last blank).symm
  · rw [if_neg last]
    by_cases first : unpackExponent bits = 0#11
    · rw [if_pos first]
      by_cases blank : unpackMantissa bits = 0#52
      · rw [dif_pos blank]
        rw [first, blank] at whole
        exact whole
      · rw [dif_neg blank]
        dsimp only [floatBits]
        rw [if_pos below, BitVec.ofNat_toNat, BitVec.setWidth_eq, ← first]
        exact whole
    · rw [if_neg first]
      have mantissa : (1#1 ++ unpackMantissa bits).toNat = 2 ^ 52 + (unpackMantissa bits).toNat :=
        toNat_one_append _
      have exponent : BitVec.ofNat 11 (((unpackExponent bits).toNat : Int) - (1023 + 52) + 1075).toNat =
          unpackExponent bits := by
        have biased : (((unpackExponent bits).toNat : Int) - (1023 + 52) + 1075).toNat =
            (unpackExponent bits).toNat := by omega
        rw [biased, BitVec.ofNat_toNat, BitVec.setWidth_eq]
      have fraction : BitVec.ofNat 52 (2 ^ 52 + (unpackMantissa bits).toNat) = unpackMantissa bits := by
        apply BitVec.eq_of_toNat_eq
        rw [BitVec.toNat_ofNat, Nat.add_mod_left]
        exact Nat.mod_eq_of_lt below
      dsimp only [floatBits]
      rw [mantissa, if_neg (by omega), fraction]
      rw [← exponent] at whole
      exact whole

theorem unpack_injective {x y : Float.Model} (same : x.unpack = y.unpack) : x = y := by
  have bits : x.toBits.toBitVec = y.toBits.toBitVec := by
    rw [← floatBits_unpack x.valid, ← floatBits_unpack y.valid]
    exact congrArg floatBits same
  obtain ⟨⟨v⟩, valid⟩ := x
  obtain ⟨⟨w⟩, valid'⟩ := y
  obtain rfl : v = w := bits
  rfl

/-! ### Comparing -/

theorem eq_of_isLE_of_isLE {m m' : Nat} {e e' : Int} (low : ((compare e e').then (compare m m')).isLE = true)
    (high : ((compare e' e).then (compare m' m)).isLE = true) : e = e' ∧ m = m' := by
  rcases lt_trichotomy e e' with before | rfl | behind
  · rw [compare_gt_iff_gt.mpr before] at high
    cases high
  · rw [compare_eq_iff_eq.mpr rfl] at low high
    exact ⟨rfl, Nat.le_antisymm (Std.isLE_compare.mp low) (Std.isLE_compare.mp high)⟩
  · rw [compare_gt_iff_gt.mpr behind] at low
    cases low

theorem unpacked_eq_of_le_of_le {a b : UnpackedFloat} (low : a.le b = true) (high : b.le a = true)
    (positive : (UnpackedFloat.zero .positive).lt a = true) : a = b := by
  cases a with
  | notANumber => cases low
  | zero sign => cases positive
  | infinity sign =>
    cases sign with
    | negative => cases positive
    | positive =>
      rcases b with sign | - | sign | ⟨sign, mantissa, exponent, filled⟩
      · cases sign with
        | positive => rfl
        | negative => cases low
      all_goals cases low
  | finite sign mantissa exponent filled =>
    cases sign with
    | negative => cases positive
    | positive =>
      rcases b with sign | - | sign | ⟨sign, mantissa', exponent', filled'⟩
      · cases sign with
        | positive => cases high
        | negative => cases low
      · cases low
      · cases low
      · cases sign with
        | negative => cases low
        | positive =>
          obtain ⟨rfl, rfl⟩ := eq_of_isLE_of_isLE low high
          rfl

/-- Two floats above zero of which neither is the smaller are the same, bit for bit. -/
theorem float_eq_of_le_of_le {x y : Float} (above : 0 < x) (low : x ≤ y) (high : y ≤ x) : x = y := by
  have zero : (0 : Float).toModel.unpack = .zero .positive := rfl
  have positive : (UnpackedFloat.zero .positive).lt x.toModel.unpack = true := by
    rw [← zero]
    exact of_decide_eq_true (show Float.lt 0 x = true from above)
  have same : x.toModel.unpack = y.toModel.unpack :=
    unpacked_eq_of_le_of_le (of_decide_eq_true (show Float.le x y = true from low))
      (of_decide_eq_true (show Float.le y x = true from high)) positive
  exact congrArg Float.ofModel (unpack_injective same)

end Profiling
