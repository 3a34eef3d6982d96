import StackLanguage.Number.Decimal
import StackLanguage.Proofs.Number.Nearest

namespace StackLanguage

/-! Decimals as doubles. The double that a decimal is read as is the closest one to it,
also where the decimal is too large or too small to be computed with, and the decimal with
the fewest digits that a double is printed as is read as that double again. -/

namespace Decimal

def number (decimal : Decimal) : ℚ := decimal.digits * 10 ^ decimal.exponent

theorem number_eq_div (decimal : Decimal) :
    decimal.number =
      (decimal.digits * 10 ^ decimal.exponent.toNat : Nat) /
        (10 ^ (-decimal.exponent).toNat : Nat) := by
  rw [number, Double.zpow_eq_div, mul_div_assoc']
  push_cast
  rfl

section Cutoffs

variable {decimal : Decimal}

theorem le_number {least bound : Nat} (notZero : decimal.digits ≠ 0)
    (large : least ≤ decimal.exponent) (beyond : bound ≤ 10 ^ least) :
    (bound : ℚ) ≤ decimal.number := by
  have some : (1 : ℚ) ≤ decimal.digits := by
    exact_mod_cast Nat.one_le_iff_ne_zero.mpr notZero
  have ten : (1 : ℚ) ≤ 10 := by norm_num
  calc
    (bound : ℚ) ≤ 10 ^ (least : ℤ) := by exact_mod_cast beyond
    _ ≤ 10 ^ decimal.exponent := zpow_le_zpow_right₀ ten large
    _ ≤ decimal.digits * 10 ^ decimal.exponent :=
      le_mul_of_one_le_left (by positivity) some

theorem number_le {most places : Nat}
    (small : decimal.exponent + (decimal.digits.log2 + 1) ≤ -(most : ℤ))
    (within : 2 ^ places ≤ 10 ^ most) : decimal.number ≤ 2 ^ (-(places : ℤ)) := by
  have ten : (1 : ℚ) ≤ 10 := by norm_num
  have digits : (decimal.digits : ℚ) ≤ 10 ^ (decimal.digits.log2 + 1) := by
    exact_mod_cast Nat.lt_log2_self.le.trans (Nat.pow_le_pow_left (by decide) _)
  calc
    decimal.number ≤ 10 ^ (decimal.digits.log2 + 1) * 10 ^ decimal.exponent := by
      unfold number
      gcongr
    _ = 10 ^ (decimal.exponent + (decimal.digits.log2 + 1)) := by
      rw [mul_comm, zpow_add₀ (by norm_num)]
      exact_mod_cast rfl
    _ ≤ 10 ^ (-(most : ℤ)) := zpow_le_zpow_right₀ ten small
    _ ≤ 2 ^ (-(places : ℤ)) := by
      rw [zpow_neg, zpow_neg]
      gcongr
      exact_mod_cast within

end Cutoffs

/-- A decimal is read as the double closest to it. -/
theorem toDouble_isNearest (negative : Bool) (decimal : Decimal) :
    Double.IsNearest (Double.signFactor negative * decimal.number)
      (decimal.toDouble negative) := by
  unfold toDouble
  split
  · next noDigits =>
      have isZero : Double.signFactor negative * decimal.number = 0 := by
        rw [number, noDigits, Nat.cast_zero, zero_mul, mul_zero]
      rw [isZero]
      exact Double.isNearest_zero (by rw [abs_zero]; positivity) (absurd rfl)
  · next someDigits =>
      have positive : 0 < decimal.number :=
        mul_pos (Nat.cast_pos.mpr (Nat.pos_of_ne_zero someDigits)) (by positivity)
      have sign := (Double.signFactor_mul_neg_iff negative positive).symm
      split
      · next large =>
          rw [Double.isNearest_iff_of_infinite (Double.shape_infinity negative),
            Double.abs_signFactor_mul, abs_of_pos positive]
          exact ⟨le_number someDigits large (by decide +kernel), sign⟩
      · split
        · next small =>
            apply Double.isNearest_zero _ fun _ => sign
            rw [Double.abs_signFactor_mul, abs_of_pos positive]
            exact number_le small (by decide +kernel)
        · rw [number_eq_div]
          simp only [Nat.pow_eq]
          exact Double.nearest_isNearest negative _ (by positivity)

theorem isSigned_toDouble (decimal : Decimal) : Double.IsSigned (decimal.toDouble ·) := by
  unfold toDouble
  split
  · exact Double.isSigned_zero
  · split
    · exact Double.isSigned_infinity
    · split
      · exact Double.isSigned_zero
      · exact Double.isSigned_nearest _ _

/-! ## The fewest digits -/

theorem toDouble_eq_pack {significand : Nat} {exponent : Int}
    (regular : Double.IsRegular significand exponent) (notZero : significand ≠ 0)
    {decimal : Decimal} (same : decimal.number = significand * 2 ^ exponent)
    (negative : Bool) :
    decimal.toDouble negative = Double.pack negative significand exponent := by
  have isShape := Double.shape_pack negative regular
  have isNearest := decimal.toDouble_isNearest negative
  rw [same, ← Double.value_of_shape isShape] at isNearest
  exact isNearest.eq ⟨_, _, _, isShape⟩
    ((Double.value_eq_zero_iff isShape).not.mpr notZero)

section FewestDigits

variable {significand scale : Nat}

theorem exponent_of_neighbour? {grid : Int} {decimal : Decimal}
    (found : neighbour? significand scale grid = some decimal) :
    decimal.exponent = grid := by
  have isNeighbour := List.mem_of_find?_eq_some found
  simp only [List.map_cons, List.map_nil, List.mem_cons, List.not_mem_nil,
    or_false] at isNeighbour
  rcases isNeighbour with rfl | rfl
  · rfl
  · rfl

theorem fewestDigits_exponent_neg (isScale : 0 < scale) (attempts : Nat) {grid : Int}
    (isPlace : grid < 0) :
    (fewestDigits significand scale attempts grid).exponent < 0 := by
  induction attempts generalizing grid with
  | zero => exact Int.neg_neg_of_pos (Int.natCast_pos.mpr isScale)
  | succ attempts further =>
      unfold fewestDigits
      split
      · next decimal found => exact (exponent_of_neighbour? found).trans_lt isPlace
      · exact further (by omega)

variable (regular : Double.IsRegular significand (-(scale : ℤ)))
    (notZero : significand ≠ 0)

include regular notZero

theorem toDouble_of_neighbour? {grid : Int} {decimal : Decimal}
    (found : neighbour? significand scale grid = some decimal) (negative : Bool) :
    decimal.toDouble negative = Double.pack negative significand (-(scale : ℤ)) := by
  have isShape := Double.shape_pack false regular
  have isNearest := Double.nearest_isNearest false significand (Nat.two_pow_pos scale)
  have same : Double.signFactor false * (significand / (2 ^ scale : Nat) : ℚ) =
      Double.value (Double.pack false significand (-(scale : ℤ))) := by
    rw [Double.value_of_shape isShape, zpow_neg, zpow_natCast, div_eq_mul_inv,
      Nat.cast_pow, Nat.cast_ofNat]
  rw [same] at isNearest
  have exact :=
    isNearest.eq ⟨_, _, _, isShape⟩ ((Double.value_eq_zero_iff isShape).not.mpr notZero)
  -- The candidate was checked without its sign, and the sign is all that it adds.
  have checked := List.find?_some found
  simp only [Nat.pow_eq, exact, decide_eq_true_eq] at checked
  exact congrFun (decimal.isSigned_toDouble.eq (Double.isSigned_pack _ _) checked)
    negative

/-- The decimal with the fewest digits is read as the double that it was made for. -/
theorem fewestDigits_toDouble (attempts : Nat) (grid : Int) (negative : Bool) :
    (fewestDigits significand scale attempts grid).toDouble negative =
      Double.pack negative significand (-(scale : ℤ)) := by
  induction attempts generalizing grid with
  | zero =>
      apply toDouble_eq_pack regular notZero
      unfold fewestDigits number
      simp only [Nat.pow_eq, zpow_neg, zpow_natCast, Nat.cast_mul, Nat.cast_pow,
        Nat.cast_ofNat]
      rw [show (10 : ℚ) = 5 * 2 by norm_num, mul_pow, mul_inv, mul_assoc,
        mul_inv_cancel_left₀ (by positivity)]
  | succ attempts further =>
      unfold fewestDigits
      split
      · next decimal found => exact toDouble_of_neighbour? regular notZero found negative
      · exact further (grid - 1)

end FewestDigits

end Decimal

end StackLanguage
