import StackLanguage.Proofs.Number.Exact

namespace StackLanguage

/-! The grid around a quotient: the multiples of the power of two that doubles of its size
are apart. Rounding takes the closest multiple, and no finite double is closer than
that. -/

namespace Double

/-- A number is rounded to one that is no farther away than another, and that is even if
the other is as close. -/
def IsPreferred (number rounded : ℚ) (isEven : Prop) (other : ℚ) : Prop :=
  |number - rounded| ≤ |number - other| ∧
    (|number - rounded| = |number - other| → other = rounded ∨ isEven)

theorem IsPreferred.scale {number rounded other factor : ℚ} {isEven : Prop}
    (isFactor : factor ≠ 0) :
    IsPreferred (factor * number) (factor * rounded) isEven (factor * other) ↔
      IsPreferred number rounded isEven other := by
  have positive : 0 < |factor| := abs_pos.mpr isFactor
  unfold IsPreferred
  simp only [← mul_sub, abs_mul, mul_le_mul_iff_right₀ positive,
    mul_right_inj' positive.ne', mul_right_inj' isFactor]

/-! ## Rounded quotients -/

section Rounding

variable (numerator denominator : Nat)

theorem roundQuotient_le :
    roundQuotient numerator denominator ≤ numerator / denominator + 1 := by
  unfold roundQuotient
  dsimp only
  split
  · omega
  · split <;> omega

theorem lt_roundQuotient_iff (isOdd : numerator / denominator % 2 = 1) :
    numerator / denominator < roundQuotient numerator denominator ↔
      denominator ≤ 2 * (numerator % denominator) := by
  unfold roundQuotient
  dsimp only
  split
  · omega
  · split <;> omega

end Rounding

section Quotient

variable {numerator denominator : Nat}

theorem div_eq_whole_add_fraction (positive : 0 < denominator) :
    (numerator / denominator : ℚ) =
      (numerator / denominator : Nat) + (numerator % denominator : Nat) /
        denominator := by
  have isPositive : (denominator : ℚ) ≠ 0 := by exact_mod_cast positive.ne'
  have parts : (denominator : ℚ) * (numerator / denominator : Nat) +
      (numerator % denominator : Nat) = numerator := by
    exact_mod_cast Nat.div_add_mod numerator denominator
  rw [div_eq_iff isPositive, add_mul, div_mul_cancel₀ _ isPositive, mul_comm, parts]

theorem roundQuotient_close (positive : 0 < denominator) :
    |(numerator / denominator : ℚ) - roundQuotient numerator denominator| < 1 / 2 ∨
      |(numerator / denominator : ℚ) - roundQuotient numerator denominator| = 1 / 2 ∧
        Even (roundQuotient numerator denominator) := by
  have isPositive : (0 : ℚ) < denominator := by exact_mod_cast positive
  have isFraction := Nat.mod_lt numerator positive
  rw [div_eq_whole_add_fraction positive]
  unfold roundQuotient
  dsimp only
  generalize numerator / denominator = quotient
  generalize numerator % denominator = remainder at isFraction ⊢
  split
  · next below =>
      left
      have isBelow : (remainder / denominator : ℚ) < 1 / 2 := by
        rw [div_lt_div_iff₀ isPositive two_pos]
        exact_mod_cast (by omega : remainder * 2 < 1 * denominator)
      rwa [add_sub_cancel_left, abs_of_nonneg (by positivity)]
  · split
    · next above =>
        left
        have isAbove : (1 / 2 : ℚ) < remainder / denominator := by
          rw [div_lt_div_iff₀ two_pos isPositive]
          exact_mod_cast (by omega : 1 * denominator < remainder * 2)
        have isSmall : (remainder / denominator : ℚ) < 1 := by
          rw [div_lt_one isPositive]
          exact_mod_cast isFraction
        rw [Nat.cast_succ, add_sub_add_left_eq_sub, abs_of_neg (by linarith)]
        linarith
    · right
      have isHalf : (remainder / denominator : ℚ) = 1 / 2 := by
        rw [div_eq_div_iff isPositive.ne' two_ne_zero]
        exact_mod_cast (by omega : remainder * 2 = 1 * denominator)
      rw [isHalf, Nat.cast_add, add_sub_add_left_eq_sub]
      rcases Nat.mod_two_eq_zero_or_one quotient with isEven | isOdd
      · rw [isEven]
        exact ⟨by norm_num, Nat.even_iff.mpr isEven⟩
      · rw [isOdd]
        exact ⟨by norm_num [abs_of_neg], (Nat.odd_iff.mpr isOdd).add_odd odd_one⟩

theorem roundQuotient_isPreferred (positive : 0 < denominator) (other : ℤ) :
    IsPreferred (numerator / denominator) (roundQuotient numerator denominator)
      (Even (roundQuotient numerator denominator)) other := by
  have close := @roundQuotient_close numerator denominator positive
  unfold IsPreferred
  generalize (numerator / denominator : ℚ) = quotient at close ⊢
  generalize roundQuotient numerator denominator = rounded at close ⊢
  by_cases same : other = rounded
  · subst same
    exact ⟨by simp, fun _ => .inl (Int.cast_natCast rounded)⟩
  · have apart : (1 : ℚ) ≤ |(rounded : ℚ) - other| := by
      exact_mod_cast Int.one_le_abs (sub_ne_zero.mpr (Ne.symm same))
    have triangle : |(rounded : ℚ) - other| ≤
        |quotient - rounded| + |quotient - other| := by
      rw [abs_sub_comm quotient rounded]
      exact abs_sub_le _ quotient _
    rcases close with near | ⟨half, isEven⟩
    · exact ⟨by linarith, fun tie => by linarith⟩
    · exact ⟨by linarith, fun _ => .inr isEven⟩

/-! ## The binary exponent -/

theorem div_two_zpow (exponent : Int) :
    ((numerator * 2 ^ (-exponent).toNat : Nat) /
      (denominator * 2 ^ exponent.toNat : Nat) : ℚ) =
      numerator / denominator / 2 ^ exponent := by
  rw [zpow_eq_div, div_div_div_eq]
  push_cast
  rfl

theorem zpow_le_div_iff (isPositive : 0 < denominator) (exponent : Int) :
    (2 : ℚ) ^ exponent ≤ numerator / denominator ↔
      denominator * 2 ^ exponent.toNat ≤ numerator * 2 ^ (-exponent).toNat := by
  have power : (0 : ℚ) < 2 ^ exponent := by positivity
  have bottom : (0 : ℚ) < (denominator * 2 ^ exponent.toNat : Nat) := by positivity
  rw [← one_le_div power, ← div_two_zpow, one_le_div bottom, Nat.cast_le]

theorem log2_bounds (someNumerator : numerator ≠ 0) (isPositive : 0 < denominator) :
    (2 : ℚ) ^ ((numerator.log2 : Int) - denominator.log2 - 1) ≤ numerator / denominator ∧
      (numerator / denominator : ℚ) <
        2 ^ ((numerator.log2 : Int) - denominator.log2 + 1) := by
  have bottom : (0 : ℚ) < denominator := by exact_mod_cast isPositive
  rw [le_div_iff₀ bottom, div_lt_iff₀ bottom]
  constructor
  · calc
      (2 : ℚ) ^ ((numerator.log2 : Int) - denominator.log2 - 1) * denominator
          ≤ 2 ^ ((numerator.log2 : Int) - denominator.log2 - 1) * 2 ^
          (denominator.log2 + 1) := by
        have upper : (denominator : ℚ) ≤ 2 ^ (denominator.log2 + 1) := by
          exact_mod_cast Nat.lt_log2_self.le
        gcongr
      _ = 2 ^ numerator.log2 := by
        rw [← zpow_natCast, ← zpow_natCast, ← zpow_add₀ two_ne_zero]
        congr 1
        push_cast
        ring
      _ ≤ numerator := by exact_mod_cast Nat.log2_self_le someNumerator
  · calc
      (numerator : ℚ) < 2 ^ (numerator.log2 + 1) := by exact_mod_cast Nat.lt_log2_self
      _ = 2 ^ ((numerator.log2 : Int) - denominator.log2 + 1) * 2 ^ denominator.log2 := by
        rw [← zpow_natCast, ← zpow_natCast, ← zpow_add₀ two_ne_zero]
        congr 1
        push_cast
        ring
      _ ≤ 2 ^ ((numerator.log2 : Int) - denominator.log2 + 1) * denominator := by
        have lower : (2 : ℚ) ^ denominator.log2 ≤ denominator := by
          exact_mod_cast Nat.log2_self_le isPositive.ne'
        gcongr

theorem binaryExponent_bounds (someNumerator : numerator ≠ 0)
    (isPositive : 0 < denominator) :
    (2 : ℚ) ^ binaryExponent numerator denominator ≤ numerator / denominator ∧
      (numerator / denominator : ℚ) < 2 ^ (binaryExponent numerator denominator + 1) := by
  have bounds := log2_bounds someNumerator isPositive
  have decided := @zpow_le_div_iff numerator denominator isPositive
    ((numerator.log2 : Int) - denominator.log2)
  unfold binaryExponent
  simp only [Nat.pow_eq]
  split
  · next atLeast => exact ⟨decided.mpr atLeast, bounds.2⟩
  · next below =>
      rw [sub_add_cancel]
      exact ⟨bounds.1, not_le.mp (decided.not.mpr below)⟩

end Quotient

/-! ## The greatest grid -/

def integerBound : Nat := 2 ^ 1024 - 2 ^ 970

theorem roundQuotient_carries_iff {number unit : Nat} (positive : 0 < unit)
    (bound : number / unit < 2 ^ 53) :
    2 ^ 53 ≤ roundQuotient number unit ↔ (2 ^ 54 - 1) * unit ≤ 2 * number := by
  have split := Nat.div_add_mod number unit
  have remainder := Nat.mod_lt number positive
  by_cases isLast : number / unit = 2 ^ 53 - 1
  · have carries := lt_roundQuotient_iff number unit (isLast ▸ by decide)
    rw [isLast] at carries split
    omega
  · have below := roundQuotient_le number unit
    have next : number < unit * (number / unit + 1) := by
      rw [Nat.mul_add]
      omega
    have small : unit * (number / unit + 1) ≤ unit * (2 ^ 53 - 1) :=
      Nat.mul_le_mul_left unit (by omega)
    constructor
    · intro carries
      omega
    · intro large
      omega

/-! ## The grid around a quotient -/

theorem IsRegular.lt_of_lt {significand : Nat} {exponent grid : Int}
    (regular : IsRegular significand exponent) (fine : exponent < grid) :
    (significand : ℚ) * 2 ^ exponent < 2 ^ 52 * 2 ^ grid := by
  have bounded : (significand : ℚ) < 2 ^ 53 := by exact_mod_cast regular.bounded
  calc
    (significand : ℚ) * 2 ^ exponent < 2 ^ 53 * 2 ^ exponent := by gcongr
    _ ≤ 2 ^ 53 * 2 ^ (grid - 1) := by
      gcongr
      · exact one_le_two
      · omega
    _ = 2 ^ 52 * 2 ^ grid := by
      rw [zpow_sub_one₀ two_ne_zero]
      ring

section Grid

variable (numerator denominator : Nat)

def gridExponent : Int := max (-1074) (binaryExponent numerator denominator - 52)

def gridSignificand : Nat :=
  roundQuotient (numerator * 2 ^ (-gridExponent numerator denominator).toNat)
    (denominator * 2 ^ (gridExponent numerator denominator).toNat)

def gridValue : ℚ :=
  gridSignificand numerator denominator * 2 ^ gridExponent numerator denominator

variable {numerator denominator}

theorem nearest_eq_pack (negative : Bool) (someNumerator : numerator ≠ 0) :
    nearest negative numerator denominator =
      pack negative (gridSignificand numerator denominator)
        (gridExponent numerator denominator) :=
  if_neg someNumerator

theorem least_le_gridExponent : -1074 ≤ gridExponent numerator denominator :=
  le_max_left ..

theorem gridValue_isPreferred (numerator : Nat) {denominator : Nat}
    (isPositive : 0 < denominator) (other : ℤ) :
    IsPreferred (numerator / denominator) (gridValue numerator denominator)
      (Even (gridSignificand numerator denominator))
      (other * 2 ^ gridExponent numerator denominator) := by
  have unit : (2 : ℚ) ^ gridExponent numerator denominator ≠ 0 := by positivity
  have preferred := @roundQuotient_isPreferred
    (numerator * 2 ^ (-gridExponent numerator denominator).toNat)
    (denominator * 2 ^ (gridExponent numerator denominator).toNat) (by positivity) other
  rw [div_two_zpow, ← IsPreferred.scale unit, mul_div_cancel₀ _ unit,
    mul_comm _ (Nat.cast _), mul_comm _ (Int.cast _)] at preferred
  exact preferred

variable (someNumerator : numerator ≠ 0) (isPositive : 0 < denominator)

include someNumerator isPositive

theorem div_lt_grid :
    (numerator / denominator : ℚ) < 2 ^ 53 * 2 ^ gridExponent numerator denominator := by
  have upper := (binaryExponent_bounds someNumerator isPositive).2
  have larger : binaryExponent numerator denominator - 52 ≤
      gridExponent numerator denominator :=
    le_max_right ..
  rw [← zpow_natCast, ← zpow_add₀ two_ne_zero]
  exact upper.trans_le (zpow_le_zpow_right₀ one_le_two (by push_cast; omega))

theorem grid_le_div (notLeast : gridExponent numerator denominator ≠ -1074) :
    (2 : ℚ) ^ 52 * 2 ^ gridExponent numerator denominator ≤ numerator / denominator := by
  have lower := (binaryExponent_bounds someNumerator isPositive).1
  have same : gridExponent numerator denominator =
      binaryExponent numerator denominator - 52 := by
    unfold gridExponent at notLeast ⊢
    omega
  rw [← zpow_natCast, ← zpow_add₀ two_ne_zero, same]
  convert lower using 2
  push_cast
  ring

theorem gridSignificand_le : gridSignificand numerator denominator ≤ 2 ^ 53 := by
  have unit : (0 : ℚ) < 2 ^ gridExponent numerator denominator := by positivity
  have upper := div_lt_grid someNumerator isPositive
  have closest := (gridValue_isPreferred numerator isPositive (2 ^ 53)).1
  rw [Int.cast_pow, Int.cast_ofNat, abs_of_neg (sub_neg.mpr upper)] at closest
  have within := (abs_le.mp closest).1
  have bounded : gridValue numerator denominator ≤
      2 ^ 53 * 2 ^ gridExponent numerator denominator := by linarith
  exact_mod_cast le_of_mul_le_mul_right bounded unit

theorem le_gridSignificand (notLeast : gridExponent numerator denominator ≠ -1074) :
    2 ^ 52 ≤ gridSignificand numerator denominator := by
  have unit : (0 : ℚ) < 2 ^ gridExponent numerator denominator := by positivity
  have lower := grid_le_div someNumerator isPositive notLeast
  have closest := (gridValue_isPreferred numerator isPositive (2 ^ 52)).1
  rw [Int.cast_pow, Int.cast_ofNat, abs_of_nonneg (sub_nonneg.mpr lower)] at closest
  have within := (abs_le.mp closest).2
  have bounded : (2 : ℚ) ^ 52 * 2 ^ gridExponent numerator denominator ≤
      gridValue numerator denominator := by linarith
  exact_mod_cast le_of_mul_le_mul_right bounded unit

/-- No finite double is closer than the rounded multiple: one on a coarser grid is a
multiple itself, and one on a finer grid is too small. -/
theorem gridValue_isPreferred_of_regular {significand : Nat} {exponent : Int}
    (regular : IsRegular significand exponent) (negative : Bool) :
    IsPreferred (numerator / denominator) (gridValue numerator denominator)
      (Even (gridSignificand numerator denominator))
      (signFactor negative * (significand * 2 ^ exponent)) := by
  rcases le_or_gt (gridExponent numerator denominator) exponent with coarse | fine
  · obtain ⟨more, rfl⟩ : ∃ more : Nat,
        exponent = gridExponent numerator denominator + more :=
      ⟨(exponent - gridExponent numerator denominator).toNat, by omega⟩
    have multiple : signFactor negative *
        (significand * 2 ^ (gridExponent numerator denominator + more)) =
          ((if negative then -1 else 1 : ℤ) * (significand * 2 ^ more) : ℤ) *
            2 ^ gridExponent numerator denominator := by
      rw [zpow_add₀ two_ne_zero, zpow_natCast, signFactor]
      push_cast
      ring
    rw [multiple]
    exact gridValue_isPreferred numerator isPositive _
  · have notLeast : gridExponent numerator denominator ≠ -1074 := by
      have := regular.least
      omega
    have lower := grid_le_div someNumerator isPositive notLeast
    have closest := (gridValue_isPreferred numerator isPositive (2 ^ 52)).1
    rw [Int.cast_pow, Int.cast_ofNat, abs_of_nonneg (sub_nonneg.mpr lower)] at closest
    have small := regular.lt_of_lt fine
    have atMost : signFactor negative * (significand * 2 ^ exponent) ≤
        significand * 2 ^ exponent := by
      refine (le_abs_self _).trans_eq ?_
      rw [abs_signFactor_mul, abs_of_nonneg (by positivity)]
    have apart :=
      (sub_le_sub_left atMost (numerator / denominator : ℚ)).trans (le_abs_self _)
    exact ⟨by linarith, fun tie => by linarith⟩

theorem gridSignificand_carries_iff (isLast : gridExponent numerator denominator = 971) :
    2 ^ 53 ≤ gridSignificand numerator denominator ↔
      integerBound ≤ (numerator / denominator : ℚ) := by
  have bottom : (0 : ℚ) < denominator := by exact_mod_cast isPositive
  have upper := div_lt_grid someNumerator isPositive
  have half : 2 * integerBound = (2 ^ 54 - 1) * 2 ^ 971 := by decide +kernel
  have unit : (-(971 : Int)).toNat = 0 ∧ (971 : Int).toNat = 971 := by decide
  have small : numerator / (denominator * 2 ^ 971) < 2 ^ 53 := by
    rw [isLast, div_lt_iff₀ bottom] at upper
    rw [Nat.div_lt_iff_lt_mul (by positivity), mul_left_comm, mul_comm]
    exact_mod_cast upper
  unfold gridSignificand
  rw [isLast, unit.1, unit.2, pow_zero, mul_one,
    roundQuotient_carries_iff (by positivity) small, mul_left_comm, ← half,
    le_div_iff₀ bottom,
    ← Nat.cast_mul, Nat.cast_le]
  constructor
  · intro carries
    linarith
  · intro beyond
    linarith

theorem div_lt_of_gridExponent_le {most bound : Nat}
    (fine : gridExponent numerator denominator ≤ most)
    (within : 2 ^ 53 * 2 ^ most < bound) : (numerator / denominator : ℚ) < bound := by
  have upper := div_lt_grid someNumerator isPositive
  have unit := mul_two_zpow_lt le_rfl fine within
  rw [Nat.cast_pow, Nat.cast_ofNat] at unit
  exact upper.trans unit

theorem le_div_of_le_gridExponent {least bound : Nat}
    (coarse : (least : ℤ) ≤ gridExponent numerator denominator)
    (beyond : bound ≤ 2 ^ 52 * 2 ^ least) : (bound : ℚ) ≤ numerator / denominator := by
  calc
    (bound : ℚ) ≤ 2 ^ 52 * 2 ^ (least : ℤ) := by exact_mod_cast beyond
    _ ≤ 2 ^ 52 * 2 ^ gridExponent numerator denominator := by
      gcongr
      exact one_le_two
    _ ≤ numerator / denominator := grid_le_div someNumerator isPositive (by omega)

theorem grid_isFinite_iff :
    (gridExponent numerator denominator + 1074).toNat * 2 ^ 52 +
          gridSignificand numerator denominator < 2047 * 2 ^ 52 ↔
      (numerator / denominator : ℚ) < integerBound := by
  have bounded := gridSignificand_le someNumerator isPositive
  -- The bound lies within the last grid, so that only there the rounding decides.
  rcases lt_trichotomy (gridExponent numerator denominator) 971 with
    small | atLimit | large
  · exact iff_of_true (by omega)
      (div_lt_of_gridExponent_le someNumerator isPositive (Int.lt_add_one_iff.mp small)
        (by decide +kernel))
  · rw [← not_le, ← not_le,
      ← gridSignificand_carries_iff someNumerator isPositive atLimit]
    omega
  · have full := le_gridSignificand someNumerator isPositive (by omega)
    exact iff_of_false (by omega)
      (not_lt.mpr
        (le_div_of_le_gridExponent someNumerator isPositive large (by decide +kernel)))

end Grid

end Double

end StackLanguage
