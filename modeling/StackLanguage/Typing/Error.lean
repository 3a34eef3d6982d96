import StackLanguage.Operator.Typing
import StackLanguage.Typing.Signature

namespace StackLanguage

/-! Why a program is not well typed. -/

inductive TypeError where
  | tooFewValues (what : String)
  | wrongType (what : String) (expected actual : ValueType)
  | operands (cause : OperandError)
  | functionAsVariable (name : String)
  | unknownVariable (name : String)
  | variableAsFunction (name : String)
  | unknownFunction (name : String)
  | boundToFunction (name : String)
  | boundToVariable (name : String)
  | rebinding (name : String) (previous new : ValueType)
  | redefinition (name : String) (previous new : Signature)
  | stackChangedByIf
  | unequalBranches
  | unknownStatement (kind : String)
  | unknownWord (name : String)
  | brokenPromise (cause : TypeError)
  | leftovers (name : String) (count : Nat)
  | resultCount
  | wrongResult (declared actual : ValueType)
  | excessValues (count : Nat)
  | nestedTooDeep
  deriving DecidableEq

namespace TypeError

def message : TypeError → String
  | tooFewValues what => "too few values on stack when " ++ what ++ " executes"
  | wrongType what expected actual =>
      "wrong type on stack when " ++ what ++ " executes: expected " ++ expected.name ++
        ", found " ++ actual.name
  | operands cause => cause.message
  | functionAsVariable name =>
      "'" ++ name ++ "' is a function, call it with " ++ name ++ "()"
  | unknownVariable name =>
      "variable binding " ++ name ++ " doesn't exist when this executes"
  | variableAsFunction name => "'" ++ name ++ "' is a variable, not a function"
  | unknownFunction name => "function '" ++ name ++ "' doesn't exist when this executes!"
  | boundToFunction name =>
      "'" ++ name ++ "' is already bound to a function in this scope"
  | boundToVariable name =>
      "'" ++ name ++ "' is already bound to a variable in this scope"
  | rebinding name previous new =>
      "cannot rebind '" ++ name ++ "' of type " ++ previous.name ++ " to type " ++
        new.name
  | redefinition name previous new =>
      "cannot redefine function '" ++ name ++ previous.text ++ "' as '" ++ name ++
        new.text ++ "'"
  | stackChangedByIf => "if without else part is not allowed to modify stack"
  | unequalBranches => "if and else body don't have equal effect on stack"
  | unknownStatement kind => "unsupported statement " ++ kind
  | unknownWord name => "unknown word " ++ name
  | brokenPromise cause => "function signature promise not correct: " ++ cause.message
  | leftovers name count =>
      "function '" ++ name ++ "' leaves " ++ toString count ++
        " values on the stack but declares no return type"
  | resultCount => "functions can only have one return value!"
  | wrongResult declared actual =>
      "function has wrong return type! declared " ++ declared.name ++ ", body leaves " ++
        actual.name
  | excessValues count => toString count ++ " excess values on the stack!"
  | nestedTooDeep => "blocks nested too deep"

end TypeError

end StackLanguage
