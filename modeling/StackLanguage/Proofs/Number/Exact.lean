import StackLanguage.Proofs.Number.Bits

namespace StackLanguage

/-! The exact values of doubles. A finite double is a rational number with a sign, and no
two finite doubles are the same number with the same sign. -/

namespace Double

open Float.Model.UnpackedFloat (unpackExponent unpackMantissa)

/-! ## Shapes -/

/-- A finite number as doubles have it: the significand is full unless the exponent is the
least. -/
structure IsRegular (significand : Nat) (exponent : Int) : Prop where
  least : -1074 ≤ exponent
  most : exponent ≤ 971
  bounded : significand < 2 ^ 53
  full : 2 ^ 52 ≤ significand ∨ exponent = -1074

def IsFinite (number : Float) : Prop :=
  ∃ negative significand exponent, shape number = .finite negative significand exponent

theorem exists_ofMagnitude (number : Float) :
    number = notANumber ∨
      ∃ negative magnitude,
        magnitude ≤ 2047 * 2 ^ 52 ∧ number = ofMagnitude negative magnitude := by
  have small : number.toBits.toNat < 2 ^ 64 := number.toBits.toNat_lt
  by_cases bound : number.toBits.toNat % 2 ^ 63 ≤ 2047 * 2 ^ 52
  · right
    refine ⟨decide (2 ^ 63 ≤ number.toBits.toNat), number.toBits.toNat % 2 ^ 63, bound,
      ?_⟩
    rw [← Float.toBits_inj, ← UInt64.toNat_inj, toNat_ofMagnitude _ bound]
    by_cases isNegative : 2 ^ 63 ≤ number.toBits.toNat
    · simp only [isNegative, decide_true, if_true]
      omega
    · simp only [isNegative, decide_false, Bool.false_eq_true, if_false]
      omega
  · left
    have fields (bits : Bits) (same : bits.toNat = number.toBits.toNat) :
        unpackExponent bits = -1#_ ∧ unpackMantissa bits ≠ 0#_ := by
      constructor
      · apply BitVec.eq_of_toNat_eq
        rw [toNat_unpackExponent, same]
        change _ = 2047
        omega
      · intro empty
        have isZero := congrArg BitVec.toNat empty
        rw [toNat_unpackMantissa, same, BitVec.toNat_ofNat, Nat.zero_mod] at isZero
        omega
    have isFull := fields number.toBits.toBitVec rfl
    have packed := number.toModel.valid.eq_packedNaN isFull.1 isFull.2
    rw [← Float.toBits_inj, ← UInt64.toBitVec_inj]
    exact packed

theorem shape_notANumber : shape notANumber = .notANumber := by decide +kernel

theorem isRegular_of_shape {number : Float} {negative : Bool} {significand : Nat}
    {exponent : Int} (isShape : shape number = .finite negative significand exponent) :
    IsRegular significand exponent := by
  rcases exists_ofMagnitude number with rfl | ⟨sign, magnitude, bound, rfl⟩
  · rw [shape_notANumber] at isShape
    cases isShape
  · rw [shape_ofMagnitude sign bound] at isShape
    split at isShape
    · cases isShape
    · split at isShape
      · next small =>
          cases isShape
          exact ⟨by decide, by decide, by omega, .inr rfl⟩
      · next large =>
          cases isShape
          exact ⟨by omega, by omega, by omega, .inl (by omega)⟩

def ofShape : Shape → Float
  | .notANumber => notANumber
  | .infinite negative => infinity negative
  | .finite negative significand exponent => pack negative significand exponent

theorem ofShape_shape (number : Float) : ofShape (shape number) = number := by
  rcases exists_ofMagnitude number with rfl | ⟨negative, magnitude, bound, rfl⟩
  · rw [shape_notANumber, ofShape]
  · rw [shape_ofMagnitude negative bound]
    split
    · next isInfinite => rw [isInfinite, ofShape, infinity, Nat.pow_eq]
    · split
      · next small =>
          have same : (-1074 + 1074 : Int).toNat * 2 ^ 52 + magnitude = magnitude := by
            omega
          simp only [ofShape, pack, Nat.pow_eq, same, Nat.min_eq_left bound]
      · next large =>
          have same : (((magnitude / 2 ^ 52 : Nat) : Int) - 1075 + 1074).toNat * 2 ^ 52 +
              (2 ^ 52 + magnitude % 2 ^ 52) = magnitude := by omega
          simp only [ofShape, pack, Nat.pow_eq, same, Nat.min_eq_left bound]

theorem shape_injective : Function.Injective shape :=
  Function.LeftInverse.injective ofShape_shape

theorem shape_pack (negative : Bool) {significand : Nat} {exponent : Int}
    (regular : IsRegular significand exponent) :
    shape (pack negative significand exponent) =
      .finite negative significand exponent := by
  rcases regular with ⟨least, most, bounded, full⟩
  have bound : (exponent + 1074).toNat * 2 ^ 52 + significand < 2047 * 2 ^ 52 := by omega
  simp only [pack, Nat.pow_eq, Nat.min_eq_left bound.le]
  rw [shape_ofMagnitude negative bound.le, if_neg bound.ne]
  rcases Nat.lt_or_ge significand (2 ^ 52) with small | large
  · have isLeast : exponent = -1074 := full.resolve_left (by omega)
    subst isLeast
    rw [if_pos (by omega)]
    simp
  · rw [if_neg (by omega)]
    have fraction : 2 ^ 52 + ((exponent + 1074).toNat * 2 ^ 52 + significand) % 2 ^ 52 =
        significand := by omega
    have field :
        ((((exponent + 1074).toNat * 2 ^ 52 + significand) / 2 ^ 52 : Nat) : Int) - 1075 =
          exponent := by omega
    rw [fraction, field]

theorem pack_carry (negative : Bool) {exponent : Int} (least : -1074 ≤ exponent) :
    pack negative (2 ^ 53) exponent = pack negative (2 ^ 52) (exponent + 1) := by
  have same : (exponent + 1074).toNat * 2 ^ 52 + 2 ^ 53 =
      (exponent + 1 + 1074).toNat * 2 ^ 52 + 2 ^ 52 := by omega
  simp only [pack, Nat.pow_eq, same]

/-! ## Signs -/

def IsSigned (double : Bool → Float) : Prop :=
  ∃ magnitude ≤ 2047 * 2 ^ 52, ∀ negative,
    double negative = ofMagnitude negative magnitude

theorem isSigned_zero : IsSigned zero := ⟨0, Nat.zero_le _, fun _ => rfl⟩

theorem isSigned_infinity : IsSigned infinity := ⟨_, le_rfl, fun _ => rfl⟩

theorem isSigned_pack (significand : Nat) (exponent : Int) :
    IsSigned (pack · significand exponent) := ⟨_, Nat.min_le_right _ _, fun _ => rfl⟩

theorem isSigned_nearest (numerator denominator : Nat) :
    IsSigned (nearest · numerator denominator) := by
  unfold nearest
  split
  · exact isSigned_zero
  · exact isSigned_pack _ _

theorem IsSigned.eq {first second : Bool → Float} (isFirst : IsSigned first)
    (isSecond : IsSigned second) {negative : Bool}
    (same : first negative = second negative) : first = second := by
  obtain ⟨magnitude, bound, isFirst⟩ := isFirst
  obtain ⟨magnitude', bound', isSecond⟩ := isSecond
  rw [isFirst, isSecond] at same
  have equal := congrArg (fun double => double.toBits.toNat) same
  simp only [toNat_ofMagnitude negative bound, toNat_ofMagnitude negative bound',
    Nat.add_left_cancel_iff] at equal
  funext sign
  rw [isFirst, isSecond, equal]

theorem IsSigned.ne_zero {double : Bool → Float} (isSigned : IsSigned double) :
    double false ≠ zero true := by
  obtain ⟨magnitude, bound, isDouble⟩ := isSigned
  intro same
  rw [isDouble] at same
  have bits := congrArg (fun double => double.toBits.toNat) same
  simp only [zero, toNat_ofMagnitude false bound, toNat_ofMagnitude true (Nat.zero_le _),
    Bool.false_eq_true, if_false, if_true] at bits
  omega

/-! ## Values -/

theorem zpow_eq_div (base : ℚ) (exponent : ℤ) :
    base ^ exponent = base ^ exponent.toNat / base ^ (-exponent).toNat := by
  rcases Int.le_total 0 exponent with notNegative | notPositive
  · lift exponent to Nat using notNegative
    simp
  · obtain ⟨power, rfl⟩ : ∃ power : Nat, exponent = -power := ⟨exponent.natAbs, by omega⟩
    simp

theorem mul_two_zpow_lt {significand greatest most bound : Nat} {exponent : ℤ}
    (bounded : significand ≤ greatest) (small : exponent ≤ most)
    (within : greatest * 2 ^ most < bound) :
    (significand : ℚ) * 2 ^ exponent < bound := by
  calc
    (significand : ℚ) * 2 ^ exponent ≤ greatest * 2 ^ (most : ℤ) := by
      gcongr
      exact one_le_two
    _ < bound := by exact_mod_cast within

def signFactor (negative : Bool) : ℚ := if negative then -1 else 1

theorem signFactor_ne_zero (negative : Bool) : signFactor negative ≠ 0 := by
  cases negative <;> norm_num [signFactor]

theorem signFactor_mul_neg_iff (negative : Bool) {number : ℚ} (positive : 0 < number) :
    signFactor negative * number < 0 ↔ negative = true := by
  cases negative <;> simp [signFactor, positive, positive.le]

theorem abs_signFactor_mul (negative : Bool) (number : ℚ) :
    |signFactor negative * number| = |number| := by
  cases negative <;> simp [signFactor]

/-- The number that a finite double is; what is not finite counts as zero. -/
def value (number : Float) : ℚ :=
  match shape number with
  | .finite negative significand exponent =>
      signFactor negative * (significand * 2 ^ exponent)
  | _ => 0

section Value

variable {number other : Float} {negative : Bool} {significand : Nat} {exponent : Int}

theorem value_of_shape (isShape : shape number = .finite negative significand exponent) :
    value number = signFactor negative * (significand * 2 ^ exponent) := by
  simp only [value, isShape]

theorem abs_value (isShape : shape number = .finite negative significand exponent) :
    |value number| = significand * 2 ^ exponent := by
  rw [value_of_shape isShape, abs_signFactor_mul, abs_of_nonneg (by positivity)]

theorem value_neg_iff (isShape : shape number = .finite negative significand exponent) :
    value number < 0 ↔ negative = true ∧ significand ≠ 0 := by
  have positive : (0 : ℚ) < 2 ^ exponent := by positivity
  have notNegative : (0 : ℚ) ≤ significand * 2 ^ exponent := by positivity
  rw [value_of_shape isShape]
  cases negative with
  | false => simpa [signFactor] using notNegative
  | true =>
      have isPositive : (0 : ℚ) < significand * 2 ^ exponent ↔ significand ≠ 0 := by
        rw [mul_pos_iff_of_pos_right positive, Nat.cast_pos, Nat.pos_iff_ne_zero]
      simpa [signFactor] using isPositive

theorem value_eq_zero_iff
    (isShape : shape number = .finite negative significand exponent) :
    value number = 0 ↔ significand = 0 := by
  have positive : (2 : ℚ) ^ exponent ≠ 0 := by positivity
  rw [← abs_eq_zero, abs_value isShape, mul_eq_zero, or_iff_left positive,
    Nat.cast_eq_zero]

end Value

theorem IsRegular.exponent_le {first second : Nat} {firstExponent secondExponent : Int}
    (isFirst : IsRegular first firstExponent) (isSecond : IsRegular second secondExponent)
    (atMost : (first : ℚ) * 2 ^ firstExponent ≤ second * 2 ^ secondExponent) :
    firstExponent ≤ secondExponent := by
  by_contra larger
  rw [not_le] at larger
  have isFull : 2 ^ 52 ≤ first :=
    isFirst.full.resolve_right (by have := isSecond.least; omega)
  obtain ⟨more, rfl⟩ : ∃ more : Nat, firstExponent = secondExponent + (more + 1 : Nat) :=
    ⟨(firstExponent - secondExponent - 1).toNat, by omega⟩
  have positive : (0 : ℚ) < 2 ^ secondExponent := by positivity
  have whole : first * 2 ^ (more + 1) ≤ second := by
    rw [zpow_add₀ two_ne_zero, mul_comm ((2 : ℚ) ^ secondExponent), ← mul_assoc] at atMost
    exact_mod_cast le_of_mul_le_mul_right atMost positive
  have bounded := isSecond.bounded
  have doubled : 2 ^ 52 * 2 ≤ first * 2 ^ (more + 1) :=
    Nat.mul_le_mul isFull (Nat.le_self_pow (Nat.succ_ne_zero more) 2)
  omega

theorem IsRegular.unique {first second : Nat} {firstExponent secondExponent : Int}
    (isFirst : IsRegular first firstExponent) (isSecond : IsRegular second secondExponent)
    (same : (first : ℚ) * 2 ^ firstExponent = second * 2 ^ secondExponent) :
    first = second ∧ firstExponent = secondExponent := by
  obtain rfl : firstExponent = secondExponent :=
    le_antisymm (isFirst.exponent_le isSecond same.le)
      (isSecond.exponent_le isFirst same.ge)
  have positive : (2 : ℚ) ^ firstExponent ≠ 0 := by positivity
  exact ⟨by exact_mod_cast mul_right_cancel₀ positive same, rfl⟩

theorem eq_of_value {first second : Float} (isFirst : IsFinite first)
    (isSecond : IsFinite second) (same : value first = value second)
    (notZero : value first ≠ 0) : first = second := by
  rcases isFirst with ⟨negative, significand, exponent, isFirst⟩
  rcases isSecond with ⟨negative', significand', exponent', isSecond⟩
  have equal : significand = significand' ∧ exponent = exponent' := by
    apply (isRegular_of_shape isFirst).unique (isRegular_of_shape isSecond)
    rw [← abs_value isFirst, ← abs_value isSecond, same]
  have sameSign : negative = negative' := by
    have isZero : significand ≠ 0 :=
      fun zero => notZero ((value_eq_zero_iff isFirst).mpr zero)
    have both := (value_neg_iff isFirst).symm.trans (same ▸ value_neg_iff isSecond)
    rwa [and_iff_left isZero, and_iff_left (equal.1 ▸ isZero),
      Bool.eq_iff_iff.symm] at both
  apply shape_injective
  rw [isFirst, isSecond, equal.1, equal.2, sameSign]

end Double

end StackLanguage
