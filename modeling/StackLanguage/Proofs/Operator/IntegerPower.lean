import Mathlib
import StackLanguage.Proofs.Operator.Typed

namespace StackLanguage

/-! Powers of integers. A power that is left is exact, and the bound under which it is
computed is within a factor of two of its size: no power within the limit is refused, and
none beyond twice the limit is computed. -/

namespace Operator

theorem integerPower_eq (base : Int) (exponent : Nat) :
    integerPower base exponent = base ^ exponent := by
  unfold integerPower
  split
  · next isUnit =>
      have known : base = -1 ∨ base = 0 ∨ base = 1 := by omega
      split
      · next isZero => simp [isZero]
      · next notZero =>
          rcases known with rfl | rfl | rfl
          · rcases Nat.even_or_odd exponent with isEven | isOdd
            · simp [Nat.even_iff.mp isEven, isEven.neg_one_pow]
            · simp [Nat.odd_iff.mp isOdd, isOdd.neg_one_pow]
          · simp [zero_pow notZero]
          · simp
  · simp only [Nat.pow_eq, Nat.cast_pow, Int.natCast_natAbs]
    split
    · next isNegative =>
        rw [abs_of_neg isNegative.1, (Nat.odd_iff.mpr isNegative.2).neg_pow, neg_neg]
    · next notBoth =>
        rcases lt_or_ge base 0 with isNegative | notNegative
        · have isEven : Even exponent := Nat.even_iff.mpr (by omega)
          rw [abs_of_neg isNegative, isEven.neg_pow]
        · rw [abs_of_nonneg notNegative]

section Size

variable {magnitude exponent : Nat}

theorem lt_size_pow (positive : magnitude ≠ 0) :
    exponent * magnitude.log2 < (magnitude ^ exponent).size := by
  rw [Nat.lt_size, mul_comm, pow_mul]
  exact Nat.pow_le_pow_left (Nat.log2_self_le positive) exponent

theorem size_pow_le (isPower : exponent ≠ 0) :
    (magnitude ^ exponent).size ≤ exponent * (magnitude.log2 + 1) := by
  rw [Nat.size_le, mul_comm exponent, pow_mul]
  exact Nat.pow_lt_pow_left Nat.lt_log2_self isPower

theorem size_pow_le_of_bound {limit : Nat} (isLimit : limit ≠ 0)
    (bounded : 1 < magnitude → exponent * magnitude.log2 ≤ limit) :
    (magnitude ^ exponent).size ≤ 2 * limit := by
  rcases Nat.lt_or_ge 1 magnitude with large | small
  · have oneBit : 1 ≤ magnitude.log2 := (Nat.le_log2 (by omega)).mpr (by omega)
    rcases Nat.eq_zero_or_pos exponent with rfl | isPower
    · rw [pow_zero, Nat.size_one]
      omega
    · calc
        (magnitude ^ exponent).size ≤ exponent * (magnitude.log2 + 1) :=
        size_pow_le isPower.ne'
        _ ≤ exponent * (2 * magnitude.log2) := Nat.mul_le_mul_left exponent (by omega)
        _ = 2 * (exponent * magnitude.log2) := Nat.mul_left_comm ..
        _ ≤ 2 * limit := Nat.mul_le_mul_left 2 (bounded large)
  · have isUnit : magnitude ^ exponent < 2 ^ 1 :=
      Nat.lt_succ_of_le ((Nat.pow_le_pow_left small exponent).trans_eq (one_pow exponent))
    exact (Nat.size_le.mpr isUnit).trans (by omega)

end Size

/-- The power is refused as too large; its message has both integers, so it is lacking
where one of them is too long to be written. -/
def RefusesPower (base exponent : Int) (outcome : Except OperationFailure Int) : Prop :=
  outcome = .error (.error (.powerTooLarge (toString base) (toString exponent))) ∨
    (Numeral.IsTooLong base ∨ Numeral.IsTooLong exponent) ∧
      outcome = .error (.fault .numeral)

theorem raiseIntegers_of_small {base exponent : Int} (isExponent : 0 ≤ exponent)
    (small : 1 < base.natAbs → exponent.toNat * base.natAbs.log2 ≤ powerBitLimit) :
    raiseIntegers base exponent = .ok (base ^ exponent.toNat) := by
  unfold raiseIntegers
  rw [if_neg (Int.not_lt.mpr isExponent),
    if_neg fun large => Nat.not_lt.mpr (small large.1) large.2, integerPower_eq]

theorem raiseIntegers_of_large {base exponent : Int} (isExponent : 0 ≤ exponent)
    (isBase : 1 < base.natAbs)
    (large : powerBitLimit < exponent.toNat * base.natAbs.log2) :
    RefusesPower base exponent (raiseIntegers base exponent) := by
  by_cases lacks : Numeral.IsTooLong base ∨ Numeral.IsTooLong exponent
  · exact .inr ⟨lacks,
      raiseIntegers_of_lacksMessage (.inr ⟨isExponent, isBase, large, lacks⟩)⟩
  · rw [not_or] at lacks
    unfold raiseIntegers failWith
    rw [if_neg (Int.not_lt.mpr isExponent), if_pos ⟨isBase, large⟩,
      Numeral.integerText?_of_short lacks.1, Numeral.integerText?_of_short lacks.2]
    exact .inl rfl

/-- A power of an integer to one that is not negative is left exactly, and then has at
most twice as many bits as the limit, or it is refused, and then has more bits than the
limit. -/
theorem raiseIntegers_guarded {base exponent : Int} (isExponent : 0 ≤ exponent) :
    (raiseIntegers base exponent = .ok (base ^ exponent.toNat) ∧
        (base.natAbs ^ exponent.toNat).size ≤ 2 * powerBitLimit) ∨
      (RefusesPower base exponent (raiseIntegers base exponent) ∧
        powerBitLimit < (base.natAbs ^ exponent.toNat).size) := by
  by_cases large : 1 < base.natAbs ∧ powerBitLimit < exponent.toNat * base.natAbs.log2
  · right
    exact ⟨raiseIntegers_of_large isExponent large.1 large.2,
      large.2.trans (lt_size_pow (Nat.ne_zero_of_lt large.1))⟩
  · left
    have small (isBase : 1 < base.natAbs) :
        exponent.toNat * base.natAbs.log2 ≤ powerBitLimit :=
      Nat.not_lt.mp fun isLarge => large ⟨isBase, isLarge⟩
    exact ⟨raiseIntegers_of_small isExponent small,
      size_pow_le_of_bound (by decide) small⟩

theorem raiseIntegers_guarded_both :
    (0 : Int) ≤ 5 ∧ raiseIntegers (-3) 5 = .ok (-243) ∧
      (243 : Nat).size ≤ 2 * powerBitLimit ∧ (0 : Int) ≤ 99999999999 ∧
      RefusesPower 2 99999999999 (raiseIntegers 2 99999999999) := by
  have isExponent : (0 : Int) ≤ 5 := by decide
  have isLargeExponent : (0 : Int) ≤ 99999999999 := by decide
  have limit : powerBitLimit = 4194304 := rfl
  rcases @raiseIntegers_guarded (-3) 5 isExponent with ⟨left, size⟩ | ⟨-, size⟩
  · rcases @raiseIntegers_guarded 2 99999999999 isLargeExponent with
      ⟨-, tooLarge⟩ | refused
    · rw [show (2 : Int).natAbs = 2 from rfl, Nat.size_pow] at tooLarge
      omega
    · exact ⟨isExponent, left, size, isLargeExponent, refused.1⟩
  · have isSmall : (243 : Nat).size ≤ 8 := Nat.size_le.mpr (by decide)
    have isLarge : powerBitLimit < (243 : Nat).size := size
    omega

end Operator

end StackLanguage
