import StackLanguage.Proofs.Number.Exact

namespace StackLanguage

/-! Doubles compared with zero. A finite double is below zero or equal to zero when the
number that it is has this property. -/

namespace Double

open Float.Model (Format UnpackedFloat)
open Float.Model.UnpackedFloat (Sign unpackSign unpackExponent unpackMantissa)

def signOf (negative : Bool) : Sign := if negative then .negative else .positive

theorem ofBitVec_unpackSign (bits : Bits) :
    Sign.ofBitVec (unpackSign bits) = signOf (decide (2 ^ 63 ≤ bits.toNat)) := by
  have small : bits.toNat < 2 ^ 64 := bits.isLt
  have field : (unpackSign bits).toNat = bits.toNat / 2 ^ 63 % 2 ^ 1 := by
    simp [unpackSign, Nat.shiftRight_eq_div_pow]
  have isPositive : unpackSign bits = 0#1 ↔ ¬ 2 ^ 63 ≤ bits.toNat := by
    rw [BitVec.toNat_eq, field, BitVec.toNat_ofNat]
    omega
  unfold Sign.ofBitVec signOf
  by_cases isNegative : 2 ^ 63 ≤ bits.toNat
  · rw [if_neg (isPositive.not.mpr (not_not.mpr isNegative)),
      if_pos (decide_eq_true isNegative)]
  · rw [if_pos (isPositive.mpr isNegative), if_neg (by simpa using isNegative)]

theorem isFull_iff (bits : Bits) :
    unpackExponent bits = -1#_ ↔ bits.toNat / 2 ^ 52 % 2 ^ 11 = 2047 := by
  rw [BitVec.toNat_eq, toNat_unpackExponent]
  rfl

theorem isEmpty_iff (bits : Bits) :
    unpackExponent bits = 0#_ ↔ bits.toNat / 2 ^ 52 % 2 ^ 11 = 0 := by
  rw [BitVec.toNat_eq, toNat_unpackExponent]
  rfl

theorem noFraction_iff (bits : Bits) :
    unpackMantissa bits = 0#_ ↔ bits.toNat % 2 ^ 52 = 0 := by
  rw [BitVec.toNat_eq, toNat_unpackMantissa]
  rfl

section Finite

variable {number : Float} {negative : Bool} {significand : Nat} {exponent : Int}
  (isShape : shape number = .finite negative significand exponent)

include isShape

theorem compare_zero_of_shape :
    number.toModel.unpack.compare (.zero .positive) =
      if significand = 0 then some .eq else if negative then some .lt else some .gt := by
  have sign := ofBitVec_unpackSign number.toBits.toBitVec
  have isFull := isFull_iff number.toBits.toBitVec
  have isEmpty := isEmpty_iff number.toBits.toBitVec
  have noFraction := noFraction_iff number.toBits.toBitVec
  rw [UInt64.toNat_toBitVec] at sign isFull isEmpty noFraction
  have unpacked : number.toModel.unpack =
    UnpackedFloat.unpack .binary64 number.toBits.toBitVec := rfl
  rw [unpacked]
  unfold shape at isShape
  simp only [Nat.pow_eq] at isShape
  unfold UnpackedFloat.unpack
  dsimp only
  rw [sign]
  split at isShape
  · split at isShape <;> cases isShape
  · next notFull =>
      rw [if_neg (isFull.not.mpr notFull)]
      split at isShape
      · next empty =>
          cases isShape
          rw [if_pos (isEmpty.mpr empty)]
          split
          · next isZero => rw [if_pos (noFraction.mp isZero), UnpackedFloat.compare]
          · next notZero =>
              rw [if_neg (noFraction.not.mp notZero)]
              cases decide (2 ^ 63 ≤ number.toBits.toNat) <;> rfl
      · next notEmpty =>
          cases isShape
          rw [if_neg (isEmpty.not.mpr notEmpty), if_neg (by omega)]
          cases decide (2 ^ 63 ≤ number.toBits.toNat) <;> rfl

theorem lt_zero_iff : number < 0 ↔ value number < 0 := by
  have compared : number < 0 ↔
      number.toModel.unpack.compare (.zero .positive) = some .lt := by
    change decide (number.toModel < (0 : Float).toModel) = true ↔ _
    rw [decide_eq_true_iff]
    change (number.toModel.unpack.compare (0 : Float).toModel.unpack ==
      some Ordering.lt) = true ↔ _
    rw [beq_iff_eq]
    rfl
  rw [compared, compare_zero_of_shape isShape, value_neg_iff isShape]
  split
  · next isZero => simp [isZero]
  · next notZero => cases negative <;> simp [notZero]

theorem beq_zero_iff : (number == 0) = true ↔ value number = 0 := by
  have compared : (number == 0) = true ↔
      number.toModel.unpack.compare (.zero .positive) = some .eq := by
    change (number.toModel.unpack.compare (0 : Float).toModel.unpack ==
      some Ordering.eq) = true ↔ _
    rw [beq_iff_eq]
    rfl
  rw [compared, compare_zero_of_shape isShape, value_eq_zero_iff isShape]
  split
  · next isZero => simp [isZero]
  · next notZero => cases negative <;> simp [notZero]

end Finite

end Double

end StackLanguage
