import StackLanguage.Program

namespace StackLanguage

/-! What a caller has to know of a function. -/

structure Signature where
  parameters : List ValueType
  named : Bool
  result : Option ValueType
deriving DecidableEq, Repr

namespace Signature

def of (parameters : List Parameter) (result : Option ValueType) : Signature where
  parameters := parameters.map (·.type)
  named := Parameter.areNamed parameters
  result := result

def text (signature : Signature) : String :=
  let result :=
    match signature.result with
    | some type => " -> " ++ type.name
    | none => ""
  "(" ++ ", ".intercalate (signature.parameters.map (·.name)) ++ ")" ++ result

end Signature

end StackLanguage
