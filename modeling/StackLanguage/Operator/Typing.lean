import StackLanguage.Operator
import StackLanguage.ValueType

namespace StackLanguage

/-! The type of what an operator leaves, from the types of its operands. -/

inductive OperandError where
  | equality (symbol : String) (first second : ValueType)
  | comparison
  | addition
  | arithmetic (symbol : String)
  | floatPowerOfInt
deriving DecidableEq

namespace OperandError

def message : OperandError → String
  | equality symbol first second =>
      "cannot " ++ symbol ++ " compare values of different types (" ++ first.name ++
        " and " ++ second.name ++ ")"
  | comparison => "can only arithmetically compare int to int and float to float!"
  | addition => "+ only works on numbers and string+string concat"
  | arithmetic symbol => symbol ++ " only works on numbers"
  | floatPowerOfInt => "cannot raise an int to the power of a float"

end OperandError

namespace Operator

def arithmeticType (first second : ValueType) : ValueType :=
  if first = .int ∧ second = .int then .int else .float

/-- The type that the operator with a symbol leaves on operands of the given types. A
symbol without an operator is typed like arithmetic; it has no meaning when it is
evaluated. -/
def resultType (symbol : String) (first second : ValueType) :
    Except OperandError ValueType :=
  match ofSymbol? symbol with
  | some .equal | some .notEqual =>
      if first = second then .ok .bool else .error (.equality symbol first second)
  | some (.comparison _) =>
      if first = second ∧ first.isNumber then .ok .bool else .error .comparison
  | some (.arithmetic .add) =>
      if first = .string ∧ second = .string then .ok .string
      else if first.isNumber ∧ second.isNumber then .ok (arithmeticType first second)
      else .error .addition
  | some (.arithmetic .power) =>
      if first.isNumber ∧ second.isNumber then
        if first = .int ∧ second = .float then .error .floatPowerOfInt else .ok first
      else .error (.arithmetic symbol)
  | _ =>
      if first.isNumber ∧ second.isNumber then .ok (arithmeticType first second)
      else .error (.arithmetic symbol)

end Operator

end StackLanguage
