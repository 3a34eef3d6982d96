import StackLanguage.Operator.Evaluation
import StackLanguage.Proofs.Number.Comparison
import StackLanguage.Proofs.Number.Nearest

namespace StackLanguage

/-! Powers of doubles whose exponent is an integer of any size. Where powers are rounded
correctly, a power that is no larger than one stays finite as long as the exponent is
within the doubles. -/

namespace Operator

open Double (IsFinite IsNearest value integerBound)

/-- Powers of doubles are rounded correctly: for a whole exponent, the power is the double
closest to the exact one wherever there is an exact one. -/
def RoundsPowers (power : Float → Float → Float) : Prop :=
  ∀ base exponent, IsFinite base → IsFinite exponent →
    ∀ whole : ℤ, value exponent = whole → value base ≠ 0 ∨ 0 ≤ whole →
      IsNearest (value base ^ whole) (power base exponent)

def IsFiniteOrReported (symbol : String) (outcome : Except OperationFailure Float) :
    Prop :=
  (∃ number, IsFinite number ∧ outcome = .ok number) ∨
    outcome = .error (.error (.overflow symbol))

theorem abs_zpow_le_one {base : ℚ} {first second : ℤ} (same : second.sign = first.sign)
    (bounded : |base ^ first| ≤ 1) : |base ^ second| ≤ 1 := by
  rcases eq_or_ne base 0 with rfl | notZero
  · rcases eq_or_ne second 0 with rfl | isPower
    · rw [zpow_zero, abs_one]
    · rw [zero_zpow second isPower, abs_zero]
      exact zero_le_one
  · have positive : 0 < |base| := abs_pos.mpr notZero
    rw [abs_zpow] at bounded ⊢
    rcases lt_trichotomy first 0 with isNegative | rfl | isPositive
    · have atLeast : 1 ≤ |base| :=
        not_lt.mp fun below =>
          (one_lt_zpow_of_neg₀ positive below isNegative).not_ge bounded
      rw [Int.sign_eq_neg_one_of_neg isNegative, Int.sign_eq_neg_one_iff_neg] at same
      exact zpow_le_one_of_nonpos₀ atLeast same.le
    · rw [Int.sign_zero, Int.sign_eq_zero_iff_zero] at same
      rw [same, zpow_zero]
    · have atMost : |base| ≤ 1 :=
        not_lt.mp fun above => (one_lt_zpow₀ above isPositive).not_ge bounded
      rw [Int.sign_eq_one_of_pos isPositive, Int.sign_eq_one_iff_pos] at same
      exact zpow_le_one₀ positive atMost same.le

theorem isNegative_int (number : ℤ) :
    (Quantity.int number).isNegative = true ↔ number < 0 := by
  have compared : (Quantity.int number).isNegative =
      (compare (number * Nat.pow 2 0) (0 * Nat.pow 2 0)).isLT := rfl
  rw [compared, Ordering.isLT_iff_eq_lt, Int.compare_eq_lt]
  simp

section Power

variable {power : Float → Float → Float} {base : Float} {exponent : ℤ}
  (isFinite : IsFinite base) (isPower : value base ≠ 0 ∨ 0 ≤ exponent)

include isFinite isPower

theorem raiseDouble_within (rounds : RoundsPowers power)
    (bounded : |value base ^ exponent| ≤ 1) (within : exponent.natAbs < integerBound) :
    ∃ number, IsFinite number ∧ raiseDouble power base (.int exponent) = .ok number := by
  obtain ⟨double, isDouble⟩ : ∃ double, Double.ofInteger? exponent = some double :=
    Option.ne_none_iff_exists'.mp fun beyond =>
      Nat.not_le.mpr within ((Double.ofInteger?_eq_none_iff exponent).mp beyond)
  -- A large exponent is rounded, so the power is another one, but on the
  -- same side of one.
  obtain ⟨whole, isWhole, sameSign⟩ := Double.ofInteger?_whole isDouble
  have isWholePower : value base ≠ 0 ∨ 0 ≤ whole := by
    rwa [← Int.sign_nonneg_iff, sameSign, Int.sign_nonneg_iff]
  have isNearest :=
    rounds base double isFinite (Double.ofInteger?_eq_some isDouble).2 whole isWhole
      isWholePower
  have isSmall : |value base ^ whole| < integerBound :=
    (abs_zpow_le_one sameSign bounded).trans_lt (Nat.one_lt_cast.mpr (by decide +kernel))
  refine ⟨power base double, isNearest.isFinite_iff.mpr isSmall, ?_⟩
  have converted : Quantity.toFloat? (.int exponent) = some double := isDouble
  rw [raiseDouble, converted]

theorem raiseDouble_beyond (beyond : integerBound ≤ exponent.natAbs) :
    raiseDouble power base (.int exponent) =
      if value base < 0 then .error (.error (.overflow "**"))
      else .ok (Double.infinity false) := by
  have converted : Quantity.toFloat? (.int exponent) = none :=
    (Double.ofInteger?_eq_none_iff exponent).mpr beyond
  obtain ⟨negative, significand, scale, isShape⟩ := isFinite
  have reported : (base < 0 ∨ (base == 0 ∧ (Quantity.int exponent).isNegative)) ↔
      value base < 0 := by
    rw [Double.lt_zero_iff isShape, Double.beq_zero_iff isShape, isNegative_int]
    refine or_iff_left ?_
    rintro ⟨isZero, isNegative⟩
    exact isPower.elim (absurd isZero) (not_le.mpr isNegative)
  rw [raiseDouble, converted]
  dsimp only
  simp only [reported]
  rfl

end Power

theorem apply_power (base : Float) (exponent : ℤ) :
    apply "**" (.float base) (.int exponent) =
      (raiseDouble Float.pow base (.int exponent)).map .float := rfl

/-- Where the exact power is no larger than one, a power of a finite double to an integer
is finite or reported as an overflow if and only if the exponent is within the doubles or
the base is negative. Otherwise it is infinite. -/
theorem raiseDouble_finite_iff {base : Float} {exponent : ℤ} (isFinite : IsFinite base)
    (isPower : value base ≠ 0 ∨ 0 ≤ exponent) (bounded : |value base ^ exponent| ≤ 1) :
    apply "**" (.float base) (.int exponent) =
        (raiseDouble Float.pow base (.int exponent)).map .float ∧
      ∀ power, RoundsPowers power →
        (IsFiniteOrReported "**" (raiseDouble power base (.int exponent)) ↔
          exponent.natAbs < integerBound ∨ value base < 0) ∧
        (¬ (exponent.natAbs < integerBound ∨ value base < 0) →
          raiseDouble power base (.int exponent) = .ok (Double.infinity false)) := by
  refine ⟨apply_power base exponent, fun power rounds => ?_⟩
  by_cases within : exponent.natAbs < integerBound
  · have isWithin := raiseDouble_within isFinite isPower rounds bounded within
    exact ⟨iff_of_true (.inl isWithin) (.inl within),
      fun beyond => absurd (.inl within) beyond⟩
  · have isBeyond := @raiseDouble_beyond power _ _ isFinite isPower (Nat.not_lt.mp within)
    by_cases isNegative : value base < 0
    · rw [if_pos isNegative] at isBeyond
      exact ⟨iff_of_true (.inr isBeyond) (.inr isNegative),
        fun beyond => absurd (.inr isNegative) beyond⟩
    · rw [if_neg isNegative] at isBeyond
      have neither : ¬ (exponent.natAbs < integerBound ∨ value base < 0) :=
        not_or.mpr ⟨within, isNegative⟩
      refine ⟨iff_of_false ?_ neither, fun _ => isBeyond⟩
      rw [isBeyond]
      rintro (⟨number, ⟨negative, significand, scale, isShape⟩, isNumber⟩ | isReported)
      · cases isNumber
        rw [Double.shape_infinity] at isShape
        cases isShape
      · cases isReported

def roundedPower (base exponent : Float) : Float :=
  let exact := value base ^ (value exponent).num
  Double.nearest (decide (exact < 0)) exact.num.natAbs exact.den

theorem roundsPowers_roundedPower : RoundsPowers roundedPower := by
  intro base exponent _ _ whole isWhole _
  unfold roundedPower
  rw [isWhole, Rat.num_intCast]
  dsimp only
  generalize value base ^ whole = exact
  have isNearest :=
    Double.nearest_isNearest (decide (exact < 0)) exact.num.natAbs exact.den_pos
  have same : Double.signFactor (decide (exact < 0)) * (exact.num.natAbs / exact.den) =
      exact := by
    have magnitude : (exact.num.natAbs / exact.den : ℚ) = |exact| := by
      rw [Nat.cast_natAbs, Int.cast_abs, ← Nat.abs_cast exact.den, ← abs_div,
        Rat.num_div_den]
    rw [magnitude]
    rcases lt_or_ge exact 0 with isNegative | notNegative
    · simp [Double.signFactor, isNegative, abs_of_neg]
    · simp [Double.signFactor, notNegative, abs_of_nonneg]
  rwa [same] at isNearest

/-! ## One and two -/

theorem shape_one : Double.shape 1 = .finite false (2 ^ 52) (-52) := by decide +kernel

theorem shape_two : Double.shape 2 = .finite false (2 ^ 52) (-51) := by decide +kernel

theorem isFinite_one : IsFinite 1 := ⟨_, _, _, shape_one⟩

theorem value_one : value 1 = 1 := by
  rw [Double.value_of_shape shape_one]
  norm_num [Double.signFactor]

theorem value_two : value 2 = 2 := by
  rw [Double.value_of_shape shape_two]
  norm_num [Double.signFactor]

theorem value_one_ne_zero : value 1 ≠ 0 := by
  rw [value_one]
  exact one_ne_zero

theorem value_one_not_neg : ¬ value 1 < 0 := by
  rw [value_one]
  exact not_lt.mpr zero_le_one

theorem one_zpow_le (exponent : ℤ) : |value 1 ^ exponent| ≤ 1 := by
  rw [value_one, one_zpow, abs_one]

theorem natAbs_two_pow (power : Nat) : (2 ^ power : ℤ).natAbs = 2 ^ power :=
  Int.natAbs_pow 2 power

theorem integerBound_le : integerBound ≤ (2 ^ 1024 : ℤ).natAbs :=
  (Nat.sub_le _ _).trans_eq (natAbs_two_pow 1024).symm

theorem raiseDouble_finite_iff_eighth :
    RoundsPowers roundedPower ∧
      IsFinite 2 ∧ value 2 ≠ 0 ∧ |value 2 ^ (-3 : ℤ)| ≤ 1 ∧
        IsFiniteOrReported "**" (raiseDouble roundedPower 2 (.int (-3))) ∧
      IsFinite 1 ∧ value 1 ≠ 0 ∧ |value 1 ^ (2 ^ 1024 : ℤ)| ≤ 1 ∧
        ¬ IsFiniteOrReported "**" (raiseDouble roundedPower 1 (.int (2 ^ 1024))) := by
  have isTwo : IsFinite 2 := ⟨_, _, _, shape_two⟩
  have notZero : value 2 ≠ 0 := by
    rw [value_two]
    exact two_ne_zero
  have small : |value 2 ^ (-3 : ℤ)| ≤ 1 := by
    rw [value_two]
    norm_num
  have within : (-3 : ℤ).natAbs < integerBound := by decide +kernel
  have beyond : ¬ ((2 ^ 1024 : ℤ).natAbs < integerBound ∨ value 1 < 0) :=
    not_or.mpr ⟨not_lt.mpr integerBound_le, value_one_not_neg⟩
  have eighth := (raiseDouble_finite_iff isTwo (.inl notZero) small).2 roundedPower
    roundsPowers_roundedPower
  have one := (raiseDouble_finite_iff isFinite_one (.inl value_one_ne_zero)
    (one_zpow_le (2 ^ 1024))).2 roundedPower roundsPowers_roundedPower
  exact ⟨roundsPowers_roundedPower, isTwo, notZero, small, eighth.1.mpr (.inl within),
    isFinite_one, value_one_ne_zero, one_zpow_le _, one.1.not.mpr beyond⟩

theorem apply_power_one {exponent : ℤ} (beyond : integerBound ≤ exponent.natAbs) :
    apply "**" (.float 1) (.int exponent) = .ok (.float (Double.infinity false)) := by
  rw [apply_power, raiseDouble_beyond isFinite_one (.inl value_one_ne_zero) beyond,
    if_neg value_one_not_neg]
  rfl

theorem apply_power_beyond :
    IsFinite 1 ∧ |value 1 ^ (2 ^ 1024 : ℤ)| ≤ 1 ∧
      apply "**" (.float 1) (.int (2 ^ 1024)) = .ok (.float (Double.infinity false)) :=
  ⟨isFinite_one, one_zpow_le _, apply_power_one integerBound_le⟩

end Operator

end StackLanguage
