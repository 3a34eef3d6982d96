import StackLanguage.Location
import StackLanguage.Operator.Evaluation

namespace StackLanguage

/-! How the run of a program can end early. -/

inductive RuntimeError where
  | emptyStack
  | unknownVariable (name : String)
  | unknownFunction (name : String)
  | unknownWord (name : String)
  | unknownStatement (kind : String)
  | operation (cause : OperationError)
  | callLimit (limit : Nat) (name : String)
  | unprintable
  | nestedTooDeep
  | noProgram
deriving DecidableEq

namespace RuntimeError

def message : RuntimeError → String
  | emptyStack => "empty stack"
  | unknownVariable name => "unknown variable binding '" ++ name ++ "'"
  | unknownFunction name => "unknown function '" ++ name ++ "'"
  | unknownWord name => "unknown word " ++ name
  | unknownStatement kind => "Unsupported statement: " ++ kind
  | operation cause => cause.message
  | callLimit limit name =>
      "maximum call depth of " ++ toString limit ++ " exceeded in " ++ name ++ "()"
  | unprintable => "integer too large to print"
  | nestedTooDeep => "interpreter recursion limit reached"
  | noProgram => "No program loaded"

end RuntimeError

inductive Stop where
  | error (error : Located RuntimeError)
  | exit (code : Int)
  | fault (fault : Fault)
deriving DecidableEq

end StackLanguage
