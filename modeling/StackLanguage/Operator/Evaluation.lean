import StackLanguage.Conversion
import StackLanguage.Number.Quantity
import StackLanguage.Operator

namespace StackLanguage

/-! What an operator leaves on two values. Typed programs apply operators to fitting
operands only. Without that check a truth value counts as the integer one or zero,
arithmetic that mixes kinds is done on doubles, and a text takes part where a double can
be read from it. -/

/-- Failures that the language has no message for: whatever runs is given up at once. -/
inductive Fault where
  | kinds
  | numeral
  | overflow
  | literalOverflow
deriving DecidableEq, Repr

inductive OperationError where
  | divisionByZero
  | remainderByZero
  | negativeExponent (exponent : String)
  | powerTooLarge (base exponent : String)
  | overflow (symbol : String)
  | unknownOperator (symbol : String)
deriving DecidableEq

namespace OperationError

def message : OperationError → String
  | divisionByZero => "attempt to divide by zero"
  | remainderByZero => "attempt to calculate the remainder with a divisor of zero"
  | negativeExponent exponent => "negative exponent " ++ exponent ++ " in integer power"
  | powerTooLarge base exponent =>
      "integer power " ++ base ++ " ** " ++ exponent ++ " is too large"
  | overflow symbol => "numeric overflow in " ++ symbol
  | unknownOperator symbol => "Unknown operator " ++ symbol

end OperationError

inductive OperationFailure where
  | error (cause : OperationError)
  | fault (fault : Fault)
deriving DecidableEq

namespace Operator

def failWith {Result : Type} (cause : String → OperationError) (number : Int) :
    Except OperationFailure Result :=
  match Numeral.integerText? number with
  | some text => .error (.error (cause text))
  | none => .error (.fault .numeral)

def divideIntegers (dividend divisor : Int) : Except OperationFailure Int :=
  if divisor = 0 then .error (.error .divisionByZero)
  else
    let negative := decide (0 ≤ dividend) != decide (0 < divisor)
    .ok (Double.signed negative (dividend.natAbs / divisor.natAbs))

def remainderOfIntegers (dividend divisor : Int) : Except OperationFailure Int :=
  if divisor = 0 then .error (.error .remainderByZero)
  else .ok (Double.signed (decide (dividend < 0)) (dividend.natAbs % divisor.natAbs))

def powerBitLimit : Nat := Nat.pow 2 22

/-- A power of an integer; powers of minus one, zero and one are not computed step by
step, for their exponents may be of any size. -/
def integerPower (base : Int) (exponent : Nat) : Int :=
  if base.natAbs ≤ 1 then
    if exponent = 0 then 1 else if exponent % 2 = 0 then base.natAbs else base
  else if base < 0 ∧ exponent % 2 = 1 then -((Nat.pow base.natAbs exponent : Nat) : Int)
  else ((Nat.pow base.natAbs exponent : Nat) : Int)

/-- A power of integers. It is refused when even the least number with the bits of the
base has a power with more bits than the limit. -/
def raiseIntegers (base exponent : Int) : Except OperationFailure Int :=
  if exponent < 0 then failWith .negativeExponent exponent
  else if 1 < base.natAbs ∧ powerBitLimit < exponent.toNat * base.natAbs.log2 then
    match Numeral.integerText? base with
    | some text => failWith (.powerTooLarge text) exponent
    | none => .error (.fault .numeral)
  else .ok (integerPower base exponent.toNat)

inductive Operand where
  | quantity (quantity : Quantity)
  | text (text : String)

def operand : Value → Operand
  | .int number => .quantity (.int number)
  | .float number => .quantity (.float number)
  | .bool truth => .quantity (.int (if truth then 1 else 0))
  | .string text => .text text

def compareValues (comparison : Comparison) (first second : Value) :
    Except OperationFailure Value :=
  match operand first, operand second with
  | .quantity first, .quantity second =>
      .ok (.bool ((first.compare? second).any comparison.holds))
  | .text first, .text second =>
      .ok (.bool (comparison.holds (compareOfLessAndEq first second)))
  | _, _ => .error (.fault .kinds)

def toDouble (symbol : String) : Operand → Except OperationFailure Float
  | .quantity quantity =>
      match quantity.toFloat? with
      | some number => .ok number
      | none => .error (.error (.overflow symbol))
  | .text text =>
      match Numeral.double? text.toList with
      | some number => .ok number
      | none => .error (.fault .numeral)

/-- A power of a double, for a given power of two doubles. An exponent beyond the doubles
leaves infinity, except where the sign of the power hangs on whether the exponent is
odd. -/
def raiseDouble (power : Float → Float → Float) (base : Float) (exponent : Quantity) :
    Except OperationFailure Float :=
  match exponent.toFloat? with
  | some value => .ok (power base value)
  | none =>
      if base < 0 ∨ (base == 0 ∧ exponent.isNegative) then
        .error (.error (.overflow (symbol (.arithmetic .power))))
      else .ok (Double.infinity false)

def raiseDoubleToText (power : Float → Float → Float) (base : Float) (exponent : String) :
    Except OperationFailure Float :=
  if base == 0 then .error (.fault .kinds)
  else
    match Numeral.double? exponent.toList with
    | some value => .ok (power base value)
    | none => .ok Double.notANumber

/-- As many copies of a text as are ever read as a number. More of them leave the same
double: zero if all digits are zeros, or else infinity. -/
def copyLimit : Nat := 400

def repeatText (text : String) (count : Int) : Except OperationFailure Float :=
  if count < -Nat.pow 2 63 ∨ Nat.pow 2 63 ≤ count * max 1 text.length then
    .error (.error (.overflow (symbol (.arithmetic .multiply))))
  else
    let copies := min count.toNat copyLimit
    match Numeral.double? (List.replicate copies text.toList).flatten with
    | some number => .ok number
    | none => .error (.fault .numeral)

def combine (symbol : String) (onIntegers : Int → Int → Int)
    (onDoubles : Float → Float → Float) (first second : Quantity) :
    Except OperationFailure Float :=
  match first, second with
  | .int first, .int second =>
      match Double.ofInteger? (onIntegers first second) with
      | some number => .ok number
      | none => .error (.fault .overflow)
  | _, _ => do
      let first ← toDouble symbol (.quantity first)
      let second ← toDouble symbol (.quantity second)
      pure (onDoubles first second)

def arithmeticOnIntegers (operation : Arithmetic) (first second : Int) :
    Except OperationFailure Int :=
  match operation with
  | .add => .ok (first + second)
  | .subtract => .ok (first - second)
  | .multiply => .ok (first * second)
  | .divide => divideIntegers first second
  | .remainder => remainderOfIntegers first second
  | .power => raiseIntegers first second

def arithmeticOnDoubles (operation : Arithmetic) (first second : Operand) :
    Except OperationFailure Float :=
  let symbol := symbol (.arithmetic operation)
  match operation, first, second with
  | .add, .quantity first, .quantity second => combine symbol (· + ·) (· + ·) first second
  | .subtract, .quantity first, .quantity second =>
      combine symbol (· - ·) (· - ·) first second
  | .multiply, .quantity first, .quantity second =>
      combine symbol (· * ·) (· * ·) first second
  | .multiply, .text text, .quantity (.int count)
  | .multiply, .quantity (.int count), .text text => repeatText text count
  | .add, _, _ | .subtract, _, _ | .multiply, _, _ => .error (.fault .kinds)
  | .divide, _, _ => do
      let first ← toDouble symbol first
      let second ← toDouble symbol second
      pure (Double.quotient first second)
  | .remainder, _, _ => do
      let first ← toDouble symbol first
      let second ← toDouble symbol second
      pure (Double.remainder first second)
  | .power, _, _ => do
      let base ← toDouble symbol first
      match second with
      | .quantity exponent => raiseDouble Float.pow base exponent
      | .text exponent => raiseDoubleToText Float.pow base exponent

def apply (symbol : String) (first second : Value) : Except OperationFailure Value :=
  match ofSymbol? symbol with
  | none => .error (.error (.unknownOperator symbol))
  | some .equal => .ok (.bool (first.equals second))
  | some .notEqual => .ok (.bool (!first.equals second))
  | some (.comparison order) => compareValues order first second
  | some (.arithmetic operation) =>
      match operation, first, second with
      | .add, .string first, .string second => .ok (.string (first ++ second))
      | _, .int first, .int second =>
          (arithmeticOnIntegers operation first second).map .int
      | _, _, _ =>
          (arithmeticOnDoubles operation (operand first) (operand second)).map .float

end Operator

end StackLanguage
