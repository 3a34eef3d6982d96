import Mathlib
import StackLanguage.Proofs.Evaluation.Answers

namespace StackLanguage

/-! Division of integers. Quotient and remainder are each made from the sizes of the
operands, with a sign rule of their own, and fit together: the quotient is the exact one
without its fraction, and the remainder is what it leaves of the dividend. -/

namespace Double

theorem abs_signed (negative : Bool) (magnitude : Nat) :
    |signed negative magnitude| = magnitude := by
  cases negative <;> simp [signed]

theorem signed_xor_mul_add (first second : Bool) (quotient divisor remainder : Nat) :
    signed (first ^^ second) quotient * signed second divisor + signed first remainder =
      signed first (divisor * quotient + remainder) := by
  cases first <;> cases second <;> simp [signed] <;> ring

theorem sign_signed {negative : Bool} {first second : Nat} (someFirst : first ≠ 0)
    (someSecond : second ≠ 0) :
    (signed negative first).sign = (signed negative second).sign := by
  cases negative <;>
    simp [signed, Int.sign_natCast_of_ne_zero someFirst,
      Int.sign_natCast_of_ne_zero someSecond]

end Double

namespace Operator

open Double (signed)

/-- The integer that is left of a number without its fraction. -/
def truncated (number : ℚ) : ℤ := if 0 ≤ number then ⌊number⌋ else ⌈number⌉

theorem truncated_eq_signed (number : ℚ) :
    truncated number = signed (decide (number < 0)) ⌊|number|⌋₊ := by
  rcases le_or_gt 0 number with notNegative | isNegative
  · rw [truncated, if_pos notNegative, signed, decide_eq_false notNegative.not_gt,
      abs_of_nonneg notNegative]
    exact (Int.natCast_floor_eq_floor notNegative).symm
  · have isSize : 0 ≤ -number := (neg_pos.mpr isNegative).le
    rw [truncated, if_neg isNegative.not_ge, signed, decide_eq_true isNegative,
      if_pos rfl, abs_of_neg isNegative, Int.natCast_floor_eq_floor isSize, Int.floor_neg,
      neg_neg]

theorem floor_abs_div (dividend divisor : ℤ) :
    ⌊|(dividend / divisor : ℚ)|⌋₊ = dividend.natAbs / divisor.natAbs := by
  rw [abs_div, ← Int.cast_abs, ← Int.cast_abs, Int.abs_eq_natAbs, Int.abs_eq_natAbs,
    Int.cast_natCast, Int.cast_natCast, Nat.floor_div_eq_div]

theorem signed_mod_sign (dividend divisor : ℤ) :
    signed (decide (dividend < 0)) (dividend.natAbs % divisor.natAbs) = 0 ∨
      (signed (decide (dividend < 0)) (dividend.natAbs % divisor.natAbs)).sign =
        dividend.sign := by
  rcases eq_or_ne (dividend.natAbs % divisor.natAbs) 0 with isZero | someRemainder
  · left
    simp [isZero, signed]
  · right
    have someDividend : dividend.natAbs ≠ 0 := by
      intro isZero
      rw [isZero, Nat.zero_mod] at someRemainder
      exact someRemainder rfl
    rw [Double.sign_signed someRemainder someDividend, Double.signed_natAbs]

section Division

variable {dividend divisor : ℤ} (notZero : divisor ≠ 0)

include notZero

theorem divideIntegers_of_ne_zero :
    divideIntegers dividend divisor =
      .ok (signed (decide (0 ≤ dividend) != decide (0 < divisor))
        (dividend.natAbs / divisor.natAbs)) :=
  if_neg notZero

theorem remainderOfIntegers_of_ne_zero :
    remainderOfIntegers dividend divisor =
      .ok (signed (decide (dividend < 0)) (dividend.natAbs % divisor.natAbs)) :=
  if_neg notZero

theorem signed_div_eq_truncated :
    signed (decide (0 ≤ dividend) != decide (0 < divisor))
      (dividend.natAbs / divisor.natAbs) =
      truncated (dividend / divisor) := by
  rw [truncated_eq_signed, floor_abs_div]
  rcases eq_or_ne dividend 0 with rfl | someDividend
  -- The signs of zero and of a negative divisor differ, but the quotient of
  -- zero has no sign.
  · simp [signed]
  · have isNegative : (decide (0 ≤ dividend) != decide (0 < divisor)) =
        decide ((dividend / divisor : ℚ) < 0) := by
      rw [Bool.eq_iff_iff, bne_iff_ne, ne_eq, decide_eq_decide, decide_eq_true_iff,
        div_neg_iff, Int.cast_pos, Int.cast_pos, Int.cast_lt_zero, Int.cast_lt_zero]
      omega
    rw [isNegative]

theorem signed_div_mul_add_signed_mod :
    signed (decide (0 ≤ dividend) != decide (0 < divisor))
      (dividend.natAbs / divisor.natAbs) *
        divisor +
      signed (decide (dividend < 0)) (dividend.natAbs % divisor.natAbs) = dividend := by
  have signsDiffer : (decide (0 ≤ dividend) != decide (0 < divisor)) =
      (decide (dividend < 0) ^^ decide (divisor < 0)) := by
    rw [Bool.eq_iff_iff, bne_iff_ne, bne_iff_ne, ne_eq, ne_eq, decide_eq_decide,
      decide_eq_decide]
    omega
  have fits := Double.signed_xor_mul_add (decide (dividend < 0)) (decide (divisor < 0))
    (dividend.natAbs / divisor.natAbs) divisor.natAbs (dividend.natAbs % divisor.natAbs)
  rwa [Nat.div_add_mod, Double.signed_natAbs, Double.signed_natAbs, ← signsDiffer] at fits

theorem abs_signed_mod_lt (negative : Bool) :
    |signed negative (dividend.natAbs % divisor.natAbs)| < |divisor| := by
  rw [Double.abs_signed, Int.abs_eq_natAbs]
  exact_mod_cast Nat.mod_lt dividend.natAbs (Int.natAbs_pos.mpr notZero)

end Division

theorem apply_divide (dividend divisor : ℤ) :
    apply "/" (.int dividend) (.int divisor) =
      (divideIntegers dividend divisor).map .int := rfl

theorem apply_remainder (dividend divisor : ℤ) :
    apply "%" (.int dividend) (.int divisor) =
      (remainderOfIntegers dividend divisor).map .int := rfl

end Operator

namespace Run

open Operator (truncated)

/-- Division leaves the exact quotient without its fraction, and the remainder is what
this leaves of the dividend, smaller than the divisor and of no other sign than the
dividend. With a divisor of zero both operators leave nothing but an error. -/
theorem operator_division (dividend divisor : ℤ) (location : Location) (rest : List Value)
    (machine : Machine) :
    (divisor ≠ 0 → ∃ quotient remainder : ℤ,
      operator location "/"
        { machine with stack := .int divisor :: .int dividend :: rest } =
          .ok () { machine with stack := .int quotient :: rest } ∧
        operator location "%"
          { machine with stack := .int divisor :: .int dividend :: rest } =
          .ok () { machine with stack := .int remainder :: rest } ∧
        dividend = quotient * divisor + remainder ∧ |remainder| < |divisor| ∧
        (remainder = 0 ∨ remainder.sign = dividend.sign) ∧
        quotient = truncated (dividend / divisor)) ∧
    (divisor = 0 →
      operator location "/"
        { machine with stack := .int divisor :: .int dividend :: rest } =
          .error (.error ⟨.operation .divisionByZero, location⟩)
            { machine with stack := rest } ∧
        operator location "%"
          { machine with stack := .int divisor :: .int dividend :: rest } =
          .error (.error ⟨.operation .remainderByZero, location⟩)
            { machine with stack := rest }) := by
  rw [operator_eq, operator_eq, Operator.apply_divide, Operator.apply_remainder]
  constructor
  · intro notZero
    rw [Operator.divideIntegers_of_ne_zero notZero,
      Operator.remainderOfIntegers_of_ne_zero notZero]
    exact ⟨_, _, rfl, rfl, (Operator.signed_div_mul_add_signed_mod notZero).symm,
      Operator.abs_signed_mod_lt notZero _, Operator.signed_mod_sign dividend divisor,
      Operator.signed_div_eq_truncated notZero⟩
  · rintro rfl
    exact ⟨rfl, rfl⟩

theorem operator_division_negative :
    (2 : ℤ) ≠ 0 ∧
      operator .nowhere "/" { Machine.initial [] with stack := [.int 2, .int (-7)] } =
        .ok () { Machine.initial [] with stack := [.int (-3)] } ∧
      operator .nowhere "%" { Machine.initial [] with stack := [.int 2, .int (-7)] } =
        .ok () { Machine.initial [] with stack := [.int (-1)] } ∧
      truncated ((-7 : ℤ) / (2 : ℤ)) = -3 ∧
      operator .nowhere "/" { Machine.initial [] with stack := [.int 0, .int 7] } =
        .error (.error ⟨.operation .divisionByZero, .nowhere⟩) (.initial []) ∧
      operator .nowhere "%" { Machine.initial [] with stack := [.int 0, .int 7] } =
        .error (.error ⟨.operation .remainderByZero, .nowhere⟩) (.initial []) := by
  have notZero : (2 : ℤ) ≠ 0 := by decide
  obtain ⟨quotient, remainder, isQuotient, isRemainder, -, -, -, isTruncated⟩ :=
    (operator_division (-7) 2 .nowhere [] (.initial [])).1 notZero
  have divided :
      operator .nowhere "/" { Machine.initial [] with stack := [.int 2, .int (-7)] } =
        .ok () { Machine.initial [] with stack := [.int (-3)] } := rfl
  cases isQuotient.symm.trans divided
  have left :
      operator .nowhere "%" { Machine.initial [] with stack := [.int 2, .int (-7)] } =
        .ok () { Machine.initial [] with stack := [.int (-1)] } := rfl
  cases isRemainder.symm.trans left
  exact ⟨notZero, isQuotient, isRemainder, isTruncated.symm,
    (operator_division 7 0 .nowhere [] (.initial [])).2 rfl⟩

end Run

end StackLanguage
