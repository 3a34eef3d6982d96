namespace StackLanguage

/-! Double-precision numbers seen exactly. `shape` takes a double apart into a whole
significand times a power of two, `nearest` rounds a quotient of whole numbers to the
closest double, and what the language needs beyond the four operations is computed exactly
between the two. Powers of whole numbers are written `Nat.pow`, which means the same
whichever notations are in scope. -/

/-- Doubles are the same when their bits are: the two zeros differ, and there is one
not-a-number. -/
instance Double.decidableEq : DecidableEq Float := fun first second =>
  if same : first.toBits = second.toBits then
    isTrue (by
      rcases first with ⟨⟨bits, valid⟩⟩
      rcases second with ⟨⟨bits', valid'⟩⟩
      have sameBits : bits = bits' := same
      subst sameBits
      rfl)
  else
    isFalse fun equal => same (congrArg Float.toBits equal)

namespace Double

/-- What a double stands for. A finite one is `significand * 2 ^ exponent`, negated on
demand. -/
inductive Shape where
  | notANumber
  | infinite (negative : Bool)
  | finite (negative : Bool) (significand : Nat) (exponent : Int)
deriving DecidableEq, Repr

def shape (number : Float) : Shape :=
  let bits := number.toBits.toNat
  let negative := decide (Nat.pow 2 63 ≤ bits)
  let field : Nat := bits / Nat.pow 2 52 % Nat.pow 2 11
  let fraction := bits % Nat.pow 2 52
  if field = 2047 then
    if fraction = 0 then .infinite negative else .notANumber
  else if field = 0 then
    .finite negative fraction (-1074)
  else
    .finite negative (Nat.pow 2 52 + fraction) ((field : Int) - 1075)

def ofMagnitude (negative : Bool) (magnitude : Nat) : Float :=
  Float.ofBits (UInt64.ofNat ((if negative then Nat.pow 2 63 else 0) + magnitude))

def zero (negative : Bool) : Float := ofMagnitude negative 0

def infinity (negative : Bool) : Float := ofMagnitude negative (2047 * Nat.pow 2 52)

def notANumber : Float := ofMagnitude false (2047 * Nat.pow 2 52 + Nat.pow 2 51)

/-- The double `significand * 2 ^ exponent`, for an exponent from `-1074` on and a
significand up to `2 ^ 53` that is below `2 ^ 52` at the least exponent only. The
significand overflows into the exponent field, so that `2 ^ 53` needs no case of its own.
Too large a value is infinite. -/
def pack (negative : Bool) (significand : Nat) (exponent : Int) : Float :=
  let magnitude := (exponent + 1074).toNat * Nat.pow 2 52 + significand
  ofMagnitude negative (min magnitude (2047 * Nat.pow 2 52))

def roundQuotient (numerator denominator : Nat) : Nat :=
  let quotient := numerator / denominator
  let remainder := numerator % denominator
  if 2 * remainder < denominator then quotient
  else if denominator < 2 * remainder then quotient + 1
  else quotient + quotient % 2

def binaryExponent (numerator denominator : Nat) : Int :=
  let estimate := (numerator.log2 : Int) - denominator.log2
  if denominator * Nat.pow 2 estimate.toNat ≤
    numerator * Nat.pow 2 (-estimate).toNat then estimate
  else estimate - 1

/-- The double closest to a quotient of positive whole numbers; a half goes to the even
neighbour, and from half a unit above the greatest double on the result is infinite. -/
def nearest (negative : Bool) (numerator denominator : Nat) : Float :=
  if numerator = 0 then zero negative
  else
    let exponent := max (-1074) (binaryExponent numerator denominator - 52)
    pack negative
      (roundQuotient (numerator * Nat.pow 2 (-exponent).toNat)
        (denominator * Nat.pow 2 exponent.toNat))
      exponent

def ofInteger? (integer : Int) : Option Float :=
  let number := nearest (decide (integer < 0)) integer.natAbs 1
  match shape number with
  | .finite .. => some number
  | _ => none

def signed (negative : Bool) (magnitude : Nat) : Int :=
  if negative then -(magnitude : Int) else magnitude

theorem signed_natAbs (integer : Int) :
    signed (decide (integer < 0)) integer.natAbs = integer := by
  by_cases isNegative : integer < 0
  · rw [signed, if_pos (decide_eq_true isNegative)]
    omega
  · rw [signed, if_neg (by simpa using isNegative)]
    omega

def truncate? (number : Float) : Option Int :=
  match shape number with
  | .finite negative significand exponent =>
      some (signed negative
        (significand * Nat.pow 2 exponent.toNat / Nat.pow 2 (-exponent).toNat))
  | _ => none

def isWhole (number : Float) : Bool :=
  match shape number with
  | .finite _ significand exponent => significand % Nat.pow 2 (-exponent).toNat = 0
  | _ => false

/-- What is left of the first number after the greatest whole multiple of the second that
is not larger in size. It has the sign of the first number. A zero divisor or an infinite
dividend leaves no number, and an infinite divisor leaves the dividend. -/
def remainder (dividend divisor : Float) : Float :=
  match shape dividend, shape divisor with
  | .notANumber, _ | _, .notANumber | .infinite _, _ => notANumber
  | .finite .., .infinite _ => dividend
  | .finite negative first firstExponent, .finite _ second secondExponent =>
      if second = 0 then notANumber
      else
        let exponent := min firstExponent secondExponent
        let rest := (first * Nat.pow 2 (firstExponent - exponent).toNat) %
          (second * Nat.pow 2 (secondExponent - exponent).toNat)
        nearest negative (rest * Nat.pow 2 exponent.toNat) (Nat.pow 2 (-exponent).toNat)

def quotient (dividend divisor : Float) : Float :=
  match shape dividend, shape divisor with
  | .finite _ 0 _, .finite _ 0 _ | .notANumber, _ => notANumber
  | .finite first _ _, .finite second 0 _ | .infinite first, .finite second 0 _ =>
      infinity (first != second)
  | _, _ => dividend / divisor

def isOdd (number : Float) : Bool :=
  match shape number with
  | .finite _ significand exponent =>
      significand % Nat.pow 2 (-exponent).toNat = 0 &&
        significand * Nat.pow 2 exponent.toNat / Nat.pow 2 (-exponent).toNat % 2 = 1
  | _ => false

end Double

end StackLanguage
