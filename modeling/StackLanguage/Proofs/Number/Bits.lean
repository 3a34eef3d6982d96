import Mathlib
import StackLanguage.Number.Double

namespace StackLanguage

/-! The bits of doubles: a double that is made from a sign and a magnitude has these bits,
and what it stands for is read off from them. -/

namespace Double

open Float.Model (Format UnpackedFloat)
open Float.Model.UnpackedFloat
  (Sign packComponents unpackSign unpackExponent unpackMantissa)

abbrev Bits : Type := BitVec Format.binary64.numBits

theorem packComponents_unpack (bits : Bits) :
    packComponents .binary64 (Sign.ofBitVec (unpackSign bits)) (unpackExponent bits)
      (unpackMantissa bits) = bits := by
  have sign (bit : BitVec 1) : (Sign.ofBitVec bit).toBitVec = bit := by
    revert bit
    decide
  simp only [packComponents, sign, unpackSign, unpackExponent, unpackMantissa,
    BitVec.extractLsb]
  ext index inRange
  grind

theorem toNat_unpackExponent (bits : Bits) :
    (unpackExponent bits).toNat = bits.toNat / 2 ^ 52 % 2 ^ 11 := by
  simp [unpackExponent, Nat.shiftRight_eq_div_pow]

theorem toNat_unpackMantissa (bits : Bits) :
    (unpackMantissa bits).toNat = bits.toNat % 2 ^ 52 := by
  simp [unpackMantissa]

theorem pack_unpack {bits : Bits} (valid : Format.binary64.Valid bits) :
    UnpackedFloat.pack .binary64 (UnpackedFloat.unpack .binary64 bits) = bits := by
  have whole := packComponents_unpack bits
  have bias : (Format.binary64.exponentBias : Int) = 1023 := rfl
  have exponentBound : (unpackExponent bits).toNat < 2 ^ 11 := (unpackExponent bits).isLt
  have mantissaBound : (unpackMantissa bits).toNat < 2 ^ 52 := (unpackMantissa bits).isLt
  unfold UnpackedFloat.unpack
  dsimp only
  split
  · next full =>
      split
      · next isInfinite =>
          rw [full, isInfinite] at whole
          exact whole
      · next notANumber => exact (valid.eq_packedNaN full notANumber).symm
  · next notFull =>
      split
      · next empty =>
          split
          · next noFraction =>
              rw [empty, noFraction] at whole
              exact whole
          · next fraction =>
              have small : (unpackMantissa bits).toNat.log2 < 52 :=
                (Nat.log2_lt (by simpa [BitVec.toNat_eq] using fraction)).mpr
                  mantissaBound
              rw [empty] at whole
              simp only [UnpackedFloat.pack, empty, bias]
              rw [if_neg (by decide), if_neg (by simp [Format.mantissaBits]; omega)]
              simpa using whole
      · next notEmpty =>
          have notFull' : (unpackExponent bits).toNat ≠ 2047 := by
            simpa [BitVec.toNat_eq] using notFull
          have mantissa : (1#1 ++ unpackMantissa bits).toNat =
              2 ^ 52 + (unpackMantissa bits).toNat := by
            rw [BitVec.toNat_append, ← Nat.shiftLeft_add_eq_or_of_lt mantissaBound]
            rfl
          have large : (2 ^ 52 + (unpackMantissa bits).toNat).log2 = 52 :=
            (Nat.log2_eq_iff (by omega)).mpr ⟨by omega, by omega⟩
          have exponent : ((unpackExponent bits).toNat - (1023 + (52 : Nat)) + 1023 +
              (52 : Nat) : Int).toNat = (unpackExponent bits).toNat := by omega
          have mantissaAgain : BitVec.ofNat 52 (2 ^ 52 + (unpackMantissa bits).toNat) =
              unpackMantissa bits := by
            apply BitVec.eq_of_toNat_eq
            rw [BitVec.toNat_ofNat]
            omega
          simp only [UnpackedFloat.pack, mantissa, large, bias, exponent]
          rw [if_neg (by omega),
            if_pos (show 52 + 1 = Format.binary64.mantissaBits from rfl), mantissaAgain,
            BitVec.ofNat_toNat, BitVec.setWidth_eq]
          exact whole

theorem toBits_ofBits {bits : UInt64} (valid : Format.binary64.Valid bits.toBitVec) :
    (Float.ofBits bits).toBits = bits := by
  change UInt64.ofBitVec
    (UnpackedFloat.pack .binary64 (UnpackedFloat.unpack .binary64 _)) = bits
  rw [pack_unpack valid]

theorem valid_of_magnitude {bits : Bits} (bound : bits.toNat % 2 ^ 63 ≤ 2047 * 2 ^ 52) :
    Format.binary64.Valid bits := by
  refine ⟨fun full fraction => absurd ?_ fraction⟩
  have exponent : (unpackExponent bits).toNat = 2047 := congrArg BitVec.toNat full
  rw [toNat_unpackExponent] at exponent
  apply BitVec.eq_of_toNat_eq
  rw [toNat_unpackMantissa, BitVec.toNat_ofNat, Nat.zero_mod]
  omega

theorem toNat_toBits_ofBits {number : Nat} (small : number < 2 ^ 64)
    (bound : number % 2 ^ 63 ≤ 2047 * 2 ^ 52) :
    (Float.ofBits (UInt64.ofNat number)).toBits.toNat = number := by
  have same : (UInt64.ofNat number).toNat = number := by
    rw [UInt64.toNat_ofNat', Nat.mod_eq_of_lt small]
  rw [toBits_ofBits, same]
  apply valid_of_magnitude
  rw [UInt64.toNat_toBitVec, same]
  exact bound

theorem toNat_ofMagnitude (negative : Bool) {magnitude : Nat}
    (bound : magnitude ≤ 2047 * 2 ^ 52) :
    (ofMagnitude negative magnitude).toBits.toNat =
      (if negative then 2 ^ 63 else 0) + magnitude := by
  apply toNat_toBits_ofBits <;> cases negative <;> simp <;> omega

theorem shape_ofMagnitude (negative : Bool) {magnitude : Nat}
    (bound : magnitude ≤ 2047 * 2 ^ 52) :
    shape (ofMagnitude negative magnitude) =
      if magnitude = 2047 * 2 ^ 52 then .infinite negative
      else if magnitude < 2 ^ 52 then .finite negative magnitude (-1074)
      else .finite negative (2 ^ 52 + magnitude % 2 ^ 52)
        ((magnitude / 2 ^ 52 : Nat) - 1075) := by
  have sign : decide (2 ^ 63 ≤ (if negative then 2 ^ 63 else 0) + magnitude) =
      negative := by
    cases negative <;> simp
    omega
  have field : ((if negative then 2 ^ 63 else 0) + magnitude) / 2 ^ 52 % 2 ^ 11 =
      magnitude / 2 ^ 52 := by
    split <;> omega
  have fraction : ((if negative then 2 ^ 63 else 0) + magnitude) % 2 ^ 52 =
      magnitude % 2 ^ 52 := by
    split <;> omega
  unfold shape
  simp only [toNat_ofMagnitude negative bound, Nat.pow_eq, sign, field, fraction]
  by_cases isInfinite : magnitude = 2047 * 2 ^ 52
  · subst isInfinite
    rfl
  · rw [if_neg (by omega), if_neg isInfinite]
    by_cases isSmall : magnitude < 2 ^ 52
    · rw [if_pos (by omega), if_pos isSmall, Nat.mod_eq_of_lt isSmall]
    · rw [if_neg (by omega), if_neg isSmall]

end Double

end StackLanguage
