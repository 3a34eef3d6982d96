import StackLanguage.Proofs.Number.Grid

namespace StackLanguage

/-! Rounding. The double that a quotient is rounded to is the closest one, of two equally
close ones the one with the even significand, and infinite from half a unit above the
greatest double on. -/

namespace Double

/-- A double is the number rounded: no finite double is closer, and the significand is
even if another is as close. From the bound on the number is rounded to infinity. -/
def IsNearest (number : ℚ) (double : Float) : Prop :=
  match shape double with
  | .notANumber => False
  | .infinite negative => integerBound ≤ |number| ∧ (negative = true ↔ number < 0)
  | .finite negative significand _ =>
      |number| < integerBound ∧ (number ≠ 0 → (negative = true ↔ number < 0)) ∧
        ∀ other, IsFinite other →
          IsPreferred number (value double) (Even significand) (value other)

section IsNearest

variable {number : ℚ} {double : Float} {negative : Bool} {significand : Nat}
    {exponent : Int}

theorem IsNearest.isNumber (isNearest : IsNearest number double) :
    shape double ≠ .notANumber := by
  intro isShape
  unfold IsNearest at isNearest
  rw [isShape] at isNearest
  exact isNearest

theorem isNearest_iff_of_infinite (isShape : shape double = .infinite negative) :
    IsNearest number double ↔
      integerBound ≤ |number| ∧ (negative = true ↔ number < 0) := by
  unfold IsNearest
  rw [isShape]

theorem isNearest_iff_of_finite
    (isShape : shape double = .finite negative significand exponent) :
    IsNearest number double ↔
      |number| < integerBound ∧ (number ≠ 0 → (negative = true ↔ number < 0)) ∧
        ∀ other, IsFinite other →
          IsPreferred number (value double) (Even significand) (value other) := by
  unfold IsNearest
  rw [isShape]

end IsNearest

theorem shape_infinity (negative : Bool) :
    shape (infinity negative) = .infinite negative := by
  rw [infinity, Nat.pow_eq, shape_ofMagnitude negative le_rfl, if_pos rfl]

theorem shape_zero (negative : Bool) :
    shape (zero negative) = .finite negative 0 (-1074) := by
  rw [zero, shape_ofMagnitude negative (Nat.zero_le _)]
  rfl

theorem le_abs_value {double : Float} (isFinite : IsFinite double)
    (notZero : value double ≠ 0) : (2 : ℚ) ^ (-1074 : ℤ) ≤ |value double| := by
  obtain ⟨negative, significand, exponent, isShape⟩ := isFinite
  have some : 1 ≤ significand :=
    Nat.one_le_iff_ne_zero.mpr ((value_eq_zero_iff isShape).not.mp notZero)
  have least := (isRegular_of_shape isShape).least
  rw [abs_value isShape]
  calc
    (2 : ℚ) ^ (-1074 : ℤ) ≤ 2 ^ exponent := by
      gcongr
      exact one_le_two
    _ ≤ significand * 2 ^ exponent :=
      le_mul_of_one_le_left (by positivity) (by exact_mod_cast some)

theorem isNearest_zero {number : ℚ} {negative : Bool} (small : |number| ≤ 2 ^ (-1075 : ℤ))
    (sign : number ≠ 0 → (negative = true ↔ number < 0)) :
    IsNearest number (zero negative) := by
  have zeroValue : value (zero negative) = 0 :=
    (value_eq_zero_iff (shape_zero negative)).mpr rfl
  have half : (2 : ℚ) ^ (-1074 : ℤ) = 2 ^ (-1075 : ℤ) * 2 :=
    zpow_add_one₀ two_ne_zero (-1075)
  rw [isNearest_iff_of_finite (shape_zero negative), zeroValue]
  refine ⟨?_, sign, fun other otherFinite => ⟨?_, fun _ => .inr Even.zero⟩⟩
  · calc
      |number| ≤ 2 ^ (-1075 : ℤ) := small
      _ ≤ 1 := zpow_le_one_of_nonpos₀ one_le_two (by decide)
      _ < integerBound := Nat.one_lt_cast.mpr (by decide +kernel)
  · rcases eq_or_ne (value other) 0 with isZero | notZero
    · rw [isZero]
    · have apart := le_abs_value otherFinite notZero
      have triangle := abs_sub_abs_le_abs_sub (value other) number
      rw [sub_zero, abs_sub_comm number]
      linarith

/-! ## Nearest doubles of quotients -/

theorem exists_shape_pack (negative : Bool) {significand : Nat} {exponent : Int}
    (least : -1074 ≤ exponent) (bounded : significand ≤ 2 ^ 53)
    (full : exponent ≠ -1074 → 2 ^ 52 ≤ significand)
    (small : (exponent + 1074).toNat * 2 ^ 52 + significand < 2047 * 2 ^ 52) :
    ∃ rounded scale,
      shape (pack negative significand exponent) = .finite negative rounded scale ∧
        (rounded : ℚ) * 2 ^ scale = significand * 2 ^ exponent ∧
          (Even significand → Even rounded) := by
  rcases bounded.lt_or_eq with short | rfl
  · have regular : IsRegular significand exponent :=
      ⟨least, by omega, short, or_iff_not_imp_right.mpr full⟩
    exact ⟨significand, exponent, shape_pack negative regular, rfl, id⟩
  · -- A carry leaves the least full significand of the next exponent,
    -- which is even like itself.
    have regular : IsRegular (2 ^ 52) (exponent + 1) :=
      ⟨by omega, by omega, by omega, .inl le_rfl⟩
    refine ⟨2 ^ 52, exponent + 1, ?_, ?_, fun _ => even_two.pow_of_ne_zero (by decide)⟩
    · rw [pack_carry negative least, shape_pack negative regular]
    · rw [zpow_add_one₀ two_ne_zero]
      push_cast
      ring

theorem exists_shape_nearest (negative : Bool) {numerator denominator : Nat}
    (someNumerator : numerator ≠ 0) (isPositive : 0 < denominator)
    (isFinite : (numerator / denominator : ℚ) < integerBound) :
    ∃ rounded scale,
      shape (nearest negative numerator denominator) = .finite negative rounded scale ∧
        (rounded : ℚ) * 2 ^ scale = gridValue numerator denominator ∧
          (Even (gridSignificand numerator denominator) → Even rounded) := by
  rw [nearest_eq_pack negative someNumerator]
  exact exists_shape_pack negative least_le_gridExponent
    (gridSignificand_le someNumerator isPositive)
    (le_gridSignificand someNumerator isPositive)
    ((grid_isFinite_iff someNumerator isPositive).mpr isFinite)

theorem pack_eq_infinity (negative : Bool) {significand : Nat} {exponent : Int}
    (large : 2047 * 2 ^ 52 ≤ (exponent + 1074).toNat * 2 ^ 52 + significand) :
    pack negative significand exponent = infinity negative := by
  simp only [pack, infinity, Nat.pow_eq, Nat.min_eq_right large]

theorem signFactor_mul_value (negative : Bool) {double : Float}
    (isFinite : IsFinite double) :
    ∃ sign significand exponent, IsRegular significand exponent ∧
      value double =
        signFactor negative * (signFactor sign * (significand * 2 ^ exponent)) := by
  obtain ⟨sign, significand, exponent, isShape⟩ := isFinite
  refine ⟨negative ^^ sign, significand, exponent, isRegular_of_shape isShape, ?_⟩
  rw [value_of_shape isShape]
  cases negative <;> cases sign <;> simp [signFactor]

/-- The double closest to a quotient is the closest of all finite doubles, or the quotient
is beyond them. -/
theorem nearest_isNearest (negative : Bool) (numerator : Nat) {denominator : Nat}
    (isPositive : 0 < denominator) :
    IsNearest (signFactor negative * (numerator / denominator))
      (nearest negative numerator denominator) := by
  rcases eq_or_ne numerator 0 with rfl | someNumerator
  · have isZero : signFactor negative * ((0 : Nat) / denominator : ℚ) = 0 := by simp
    rw [nearest, if_pos rfl, isZero]
    exact isNearest_zero (by rw [abs_zero]; positivity) (absurd rfl)
  · have quotient : (0 : ℚ) < numerator / denominator :=
      div_pos (by exact_mod_cast Nat.pos_of_ne_zero someNumerator)
        (by exact_mod_cast isPositive)
    have sign := (signFactor_mul_neg_iff negative quotient).symm
    by_cases isFinite : (numerator / denominator : ℚ) < integerBound
    · obtain ⟨significand, exponent, isShape, same, isEven⟩ :=
        exists_shape_nearest negative someNumerator isPositive isFinite
      rw [isNearest_iff_of_finite isShape, value_of_shape isShape, same,
        abs_signFactor_mul, abs_of_pos quotient]
      refine ⟨isFinite, fun _ => sign, fun other otherFinite => ?_⟩
      obtain ⟨otherSign, otherSignificand, otherExponent, otherRegular, otherValue⟩ :=
        signFactor_mul_value negative otherFinite
      rw [otherValue, IsPreferred.scale (signFactor_ne_zero negative)]
      have preferred :=
        gridValue_isPreferred_of_regular someNumerator isPositive otherRegular otherSign
      exact ⟨preferred.1, fun tie => (preferred.2 tie).imp_right isEven⟩
    · have beyond := (grid_isFinite_iff someNumerator isPositive).not.mpr isFinite
      rw [nearest_eq_pack negative someNumerator,
        pack_eq_infinity negative (not_lt.mp beyond),
        isNearest_iff_of_infinite (shape_infinity negative), abs_signFactor_mul,
        abs_of_pos quotient]
      exact ⟨not_lt.mp isFinite, sign⟩

/-! ## Numbers that are doubles -/

theorem abs_value_lt {double : Float} (isFinite : IsFinite double) :
    |value double| < integerBound := by
  obtain ⟨negative, significand, exponent, isShape⟩ := isFinite
  have regular := isRegular_of_shape isShape
  rw [abs_value isShape]
  exact mul_two_zpow_lt (Nat.le_sub_one_of_lt regular.bounded) regular.most
    (by decide +kernel)

theorem IsNearest.eq {double exact : Float} (isNearest : IsNearest (value exact) double)
    (isFinite : IsFinite exact) (notZero : value exact ≠ 0) : double = exact := by
  rcases isShape : shape double with _ | negative | ⟨negative, significand, exponent⟩
  · exact absurd isShape isNearest.isNumber
  · rw [isNearest_iff_of_infinite isShape] at isNearest
    exact absurd (abs_value_lt isFinite) (not_lt.mpr isNearest.1)
  · rw [isNearest_iff_of_finite isShape] at isNearest
    have close := (isNearest.2.2 exact isFinite).1
    rw [sub_self, abs_zero, abs_nonpos_iff, sub_eq_zero] at close
    exact (eq_of_value isFinite ⟨negative, significand, exponent, isShape⟩ close
      notZero).symm

theorem IsNearest.isFinite_iff {number : ℚ} {double : Float}
    (isNearest : IsNearest number double) :
    IsFinite double ↔ |number| < integerBound := by
  rcases isShape : shape double with _ | negative | ⟨negative, significand, exponent⟩
  · exact absurd isShape isNearest.isNumber
  · have beyond := ((isNearest_iff_of_infinite isShape).mp isNearest).1
    refine iff_of_false ?_ (not_lt.mpr beyond)
    rintro ⟨_, _, _, isFinite⟩
    rw [isShape] at isFinite
    cases isFinite
  · exact iff_of_true ⟨_, _, _, isShape⟩
      ((isNearest_iff_of_finite isShape).mp isNearest).1

/-! ## Only one double is closest -/

theorem abs_sub_lt_of_tie {number first second between : ℚ}
    (tie : |number - first| = |number - second|) (above : first < between)
    (below : between < second) : |number - between| < |number - first| := by
  have isMiddle : number - first = second - number := by
    rcases abs_eq_abs.mp tie with same | opposite
    · linarith
    · linarith
  rw [abs_of_nonneg (by linarith : 0 ≤ number - first), abs_sub_lt_iff]
  exact ⟨by linarith, by linarith⟩

section Regular

variable {first second : Nat} {firstExponent secondExponent : Int}
  (isFirst : IsRegular first firstExponent) (isSecond : IsRegular second secondExponent)

include isFirst isSecond

theorem IsRegular.exists_between (evenFirst : Even first) (evenSecond : Even second)
    (less : (first : ℚ) * 2 ^ firstExponent < second * 2 ^ secondExponent) :
    IsRegular (first + 1) firstExponent ∧
      (first + 1 : Nat) * (2 : ℚ) ^ firstExponent < second * 2 ^ secondExponent := by
  obtain ⟨more, rfl⟩ : ∃ more : Nat, secondExponent = firstExponent + more :=
    Int.le.dest (isFirst.exponent_le isSecond less.le) |>.imp fun _ => Eq.symm
  have positive : (0 : ℚ) < 2 ^ firstExponent := by positivity
  rw [zpow_add₀ two_ne_zero, mul_comm ((2 : ℚ) ^ firstExponent), ← mul_assoc,
    zpow_natCast] at less ⊢
  have lessSignificand : first < second * 2 ^ more := by
    exact_mod_cast lt_of_mul_lt_mul_right less positive.le
  -- Even significands on one grid are at least two apart.
  have apart : first + 1 < second * 2 ^ more := by
    obtain ⟨half, isHalf⟩ := evenFirst
    obtain ⟨other, isOther⟩ := evenSecond.mul_right (2 ^ more)
    omega
  have bounded : first + 1 < 2 ^ 53 := by
    obtain ⟨half, isHalf⟩ := evenFirst
    have := isFirst.bounded
    omega
  refine ⟨⟨isFirst.least, isFirst.most, bounded,
    isFirst.full.imp_left (Nat.le_succ_of_le ·)⟩, ?_⟩
  exact mul_lt_mul_of_pos_right (by exact_mod_cast apart) positive

variable {size : ℚ}

/-- Of two closest regular numbers none is smaller: halfway between them there would be a
tie of even significands, and a third number would be closer. -/
theorem not_lt_of_isPreferred
    (firstClosest : ∀ significand exponent, IsRegular significand exponent →
      IsPreferred size (first * 2 ^ firstExponent) (Even first)
        (significand * 2 ^ exponent))
    (secondClosest : ∀ significand exponent, IsRegular significand exponent →
      IsPreferred size (second * 2 ^ secondExponent) (Even second)
        (significand * 2 ^ exponent)) :
    ¬ (first : ℚ) * 2 ^ firstExponent < second * 2 ^ secondExponent := by
  intro less
  have toSecond := firstClosest second secondExponent isSecond
  have toFirst := secondClosest first firstExponent isFirst
  have tie := le_antisymm toSecond.1 toFirst.1
  have evenFirst := (toSecond.2 tie).resolve_left less.ne'
  have evenSecond := (toFirst.2 tie.symm).resolve_left less.ne
  obtain ⟨regular, below⟩ := isFirst.exists_between isSecond evenFirst evenSecond less
  have above : (first : ℚ) * 2 ^ firstExponent < (first + 1 : Nat) * 2 ^ firstExponent :=
    mul_lt_mul_of_pos_right (by exact_mod_cast Nat.lt_succ_self first) (by positivity)
  exact (firstClosest _ _ regular).1.not_gt (abs_sub_lt_of_tie tie above below)

end Regular

theorem IsNearest.isPreferred {number : ℚ} {double : Float} {negative : Bool}
    {significand : Nat} {exponent : Int} (isNearest : IsNearest number double)
    (isShape : shape double = .finite negative significand exponent) {other : Nat}
    {otherExponent : Int} (regular : IsRegular other otherExponent) :
    IsPreferred (signFactor negative * number) (significand * 2 ^ exponent)
      (Even significand) (other * 2 ^ otherExponent) := by
  have isOther := shape_pack negative regular
  have preferred :=
    ((isNearest_iff_of_finite isShape).mp isNearest).2.2 _ ⟨_, _, _, isOther⟩
  rw [value_of_shape isShape, value_of_shape isOther] at preferred
  rw [← IsPreferred.scale (signFactor_ne_zero negative), ← mul_assoc]
  have squared : signFactor negative * signFactor negative = 1 := by
    cases negative <;> norm_num [signFactor]
  rwa [squared, one_mul]

theorem IsNearest.unique {number : ℚ} {first second : Float} (notZero : number ≠ 0)
    (isFirst : IsNearest number first) (isSecond : IsNearest number second) :
    first = second := by
  apply shape_injective
  rcases firstShape : shape first with _ | negative | ⟨negative, significand, exponent⟩
  · exact absurd firstShape isFirst.isNumber
  · obtain ⟨beyond, sign⟩ := (isNearest_iff_of_infinite firstShape).mp isFirst
    rcases secondShape : shape second with
      _ | other | ⟨other, otherSignificand, otherExponent⟩
    · exact absurd secondShape isSecond.isNumber
    · have otherSign := ((isNearest_iff_of_infinite secondShape).mp isSecond).2
      rw [Bool.eq_iff_iff.mpr (sign.trans otherSign.symm)]
    · exact absurd ((isNearest_iff_of_finite secondShape).mp isSecond).1
        (not_lt.mpr beyond)
  · obtain ⟨within, sign, -⟩ := (isNearest_iff_of_finite firstShape).mp isFirst
    rcases secondShape : shape second with
      _ | other | ⟨other, otherSignificand, otherExponent⟩
    · exact absurd secondShape isSecond.isNumber
    · have beyond := ((isNearest_iff_of_infinite secondShape).mp isSecond).1
      exact absurd within (not_lt.mpr beyond)
    · have otherSign := ((isNearest_iff_of_finite secondShape).mp isSecond).2.1 notZero
      obtain rfl : negative = other :=
        Bool.eq_iff_iff.mpr ((sign notZero).trans otherSign.symm)
      have firstRegular := isRegular_of_shape firstShape
      have secondRegular := isRegular_of_shape secondShape
      have firstClosest (significand exponent) := @IsNearest.isPreferred _ _ _ _ _ isFirst
        firstShape significand exponent
      have secondClosest (significand exponent) :=
        @IsNearest.isPreferred _ _ _ _ _ isSecond
          secondShape significand exponent
      have same : (significand : ℚ) * 2 ^ exponent =
          otherSignificand * 2 ^ otherExponent :=
        le_antisymm
          (not_lt.mp
            (not_lt_of_isPreferred secondRegular firstRegular secondClosest firstClosest))
          (not_lt.mp
            (not_lt_of_isPreferred firstRegular secondRegular firstClosest secondClosest))
      obtain ⟨rfl, rfl⟩ := firstRegular.unique secondRegular same
      rfl

theorem IsNearest.eq_zero {double : Float} (isNearest : IsNearest 0 double) :
    ∃ negative, double = zero negative := by
  rcases isShape : shape double with _ | negative | ⟨negative, significand, exponent⟩
  · exact absurd isShape isNearest.isNumber
  · have beyond := ((isNearest_iff_of_infinite isShape).mp isNearest).1
    rw [abs_zero] at beyond
    exact absurd beyond (not_le.mpr (Nat.cast_pos.mpr (by decide +kernel)))
  · have isFinite : IsFinite (zero negative) := ⟨_, _, _, shape_zero negative⟩
    have close := (((isNearest_iff_of_finite isShape).mp isNearest).2.2 _ isFinite).1
    rw [(value_eq_zero_iff (shape_zero negative)).mpr rfl, sub_self, abs_zero, zero_sub,
      abs_neg, abs_nonpos_iff, value_eq_zero_iff isShape] at close
    subst close
    have isLeast : exponent = -1074 :=
      (isRegular_of_shape isShape).full.resolve_left (by decide)
    exact ⟨negative, shape_injective (by rw [isShape, isLeast, shape_zero])⟩

/-- A number is rounded to one double only, but for minus zero beside zero. -/
theorem IsNearest.eq_of_ne_zero {number : ℚ} {first second : Float}
    (isFirst : IsNearest number first) (isSecond : IsNearest number second)
    (noMinus : first ≠ zero true) (noOtherMinus : second ≠ zero true) :
    first = second := by
  rcases eq_or_ne number 0 with rfl | notZero
  · obtain ⟨_ | _, rfl⟩ := isFirst.eq_zero
    · obtain ⟨_ | _, rfl⟩ := isSecond.eq_zero
      · rfl
      · exact absurd rfl noOtherMinus
    · exact absurd rfl noMinus
  · exact isFirst.unique notZero isSecond

/-! ## Whole numbers -/

theorem gridValue_whole {number : Nat} (positive : number ≠ 0) :
    ∃ whole : Nat, 0 < whole ∧ gridValue number 1 = whole := by
  rcases le_or_gt 0 (gridExponent number 1) with coarse | fine
  · have full := le_gridSignificand positive one_pos (by omega)
    obtain ⟨power, isPower⟩ := Int.eq_ofNat_of_zero_le coarse
    refine ⟨gridSignificand number 1 * 2 ^ power, by positivity, ?_⟩
    rw [gridValue, isPower]
    push_cast
    rw [zpow_natCast]
  · refine ⟨number, Nat.pos_of_ne_zero positive, ?_⟩
    obtain ⟨power, isPower⟩ : ∃ power : Nat, gridExponent number 1 = -power :=
      ⟨(gridExponent number 1).natAbs, by omega⟩
    have isMultiple : ((number * 2 ^ power : ℤ) : ℚ) * 2 ^ gridExponent number 1 =
        number := by
      rw [isPower, zpow_neg, zpow_natCast]
      push_cast
      rw [mul_inv_cancel_right₀ (by positivity)]
    have closest := (gridValue_isPreferred number one_pos (number * 2 ^ power)).1
    rw [isMultiple, Nat.cast_one, div_one, sub_self, abs_zero, abs_nonpos_iff,
      sub_eq_zero] at closest
    exact closest.symm

theorem ofInteger?_eq_some {integer : Int} {double : Float}
    (isDouble : ofInteger? integer = some double) :
    double = nearest (decide (integer < 0)) integer.natAbs 1 ∧ IsFinite double := by
  unfold ofInteger? at isDouble
  dsimp only at isDouble
  split at isDouble
  · next isShape =>
      cases isDouble
      exact ⟨rfl, _, _, _, isShape⟩
  · cases isDouble

theorem ofInteger?_eq_none_iff (integer : Int) :
    ofInteger? integer = none ↔ integerBound ≤ integer.natAbs := by
  have isNone : ofInteger? integer = none ↔
      ¬ IsFinite (nearest (decide (integer < 0)) integer.natAbs 1) := by
    unfold ofInteger? IsFinite
    dsimp only
    split
    · next isFinite => simp [isFinite]
    · next notFinite => simpa using notFinite
  have isNearest := nearest_isNearest (decide (integer < 0)) integer.natAbs one_pos
  rw [isNone, isNearest.isFinite_iff, abs_signFactor_mul, abs_of_nonneg (by positivity),
    Nat.cast_one, div_one, Nat.cast_lt, not_lt]

theorem ofInteger?_whole {integer : Int} {double : Float}
    (isDouble : ofInteger? integer = some double) :
    ∃ whole : ℤ, value double = whole ∧ whole.sign = integer.sign := by
  obtain ⟨rfl, isFinite⟩ := ofInteger?_eq_some isDouble
  rcases eq_or_ne integer 0 with rfl | notZero
  · exact ⟨0, (value_eq_zero_iff (shape_zero _)).mpr rfl, rfl⟩
  · have someNumber : integer.natAbs ≠ 0 := Int.natAbs_ne_zero.mpr notZero
    have isNearest := nearest_isNearest (decide (integer < 0)) integer.natAbs one_pos
    have bounded := isNearest.isFinite_iff.mp isFinite
    rw [abs_signFactor_mul, abs_of_nonneg (by positivity)] at bounded
    obtain ⟨rounded, scale, isShape, same, -⟩ :=
      exists_shape_nearest (decide (integer < 0)) someNumber one_pos bounded
    obtain ⟨whole, positive, isWhole⟩ := gridValue_whole someNumber
    rw [value_of_shape isShape, same, isWhole]
    rcases lt_or_gt_of_ne notZero with isNegative | isPositive
    · refine ⟨-whole, ?_, ?_⟩
      · simp [signFactor, isNegative]
      · rw [Int.sign_eq_neg_one_of_neg isNegative, Int.sign_eq_neg_one_of_neg (by omega)]
    · refine ⟨whole, ?_, ?_⟩
      · simp [signFactor, isPositive.le]
      · rw [Int.sign_eq_one_of_pos isPositive, Int.sign_eq_one_of_pos (by omega)]

end Double

end StackLanguage
