import StackLanguage.Table
import StackLanguage.Typing.Error

namespace StackLanguage

/-! What the checker knows at a place in a program: the declarations of the scopes around
it, the innermost first, and the types on the stack, the top first. -/

namespace Typing

/-- The declarations of one scope. A name is a variable or a function there, not both. -/
structure Scope where
  types : Table ValueType
  signatures : Table Signature
deriving DecidableEq, Inhabited

namespace Scope

def empty : Scope := ⟨.empty, .empty⟩

def declareVariable (scope : Scope) (name : String) (type : ValueType) :
    Except TypeError Scope :=
  if scope.signatures.contains name then .error (.boundToFunction name)
  else
    match scope.types.get? name with
    | some previous =>
        if previous = type then .ok { scope with types := scope.types.set name type }
        else .error (.rebinding name previous type)
    | none => .ok { scope with types := scope.types.set name type }

def declareFunction (scope : Scope) (name : String) (signature : Signature) :
    Except TypeError Scope :=
  if scope.types.contains name then .error (.boundToVariable name)
  else
    match scope.signatures.get? name with
    | some previous =>
        if previous = signature then
          .ok { scope with signatures := scope.signatures.set name signature }
        else .error (.redefinition name previous signature)
    | none => .ok { scope with signatures := scope.signatures.set name signature }

/-- The scope of a function body with named parameters. The name that messages give to
parameters without one stands for all of them. -/
def ofParameters : (scope : Scope) → (unnamed : Option ValueType) → List Parameter →
    Except TypeError Scope
  | scope, _, [] => .ok scope
  | scope, unnamed, ⟨type, some name⟩ :: rest => do
      ofParameters (← scope.declareVariable name type) unnamed rest
  | scope, none, ⟨type, none⟩ :: rest => ofParameters scope (some type) rest
  | scope, some previous, ⟨type, none⟩ :: rest =>
      if previous = type then ofParameters scope (some type) rest
      else .error (.rebinding "None" previous type)

end Scope

def lookupVariable? (scopes : List Scope) (name : String) : Option ValueType :=
  scopes.findSome? (·.types.get? name)

def lookupFunction? (scopes : List Scope) (name : String) : Option Signature :=
  scopes.findSome? (·.signatures.get? name)

/-! ## The stack of types -/

def need (size : Nat) (what : String) (stack : List ValueType) : Except TypeError Unit :=
  if stack.length < size then .error (.tooFewValues what) else .ok ()

/-- Takes the top of a stack, whose type must be accepted. The stack without it is what
remains also where the type is wrong. -/
def popExpected (expected : ValueType) (what : String) :
    List ValueType → Except TypeError ValueType × List ValueType
  | [] => (.error (.tooFewValues what), [])
  | actual :: rest =>
      (if expected.accepts actual then .ok actual
      else .error (.wrongType what expected actual),
        rest)

def dropExpected (expected : ValueType) (what : String) (stack : List ValueType) :
    Except TypeError (List ValueType) :=
  let (result, rest) := popExpected expected what stack
  result.map fun _ => rest

def dropArguments (what : String) : (reversedParameters : List ValueType) →
    List ValueType → Except TypeError (List ValueType)
  | [], stack => .ok stack
  | expected :: rest,
    stack => do dropArguments what rest (← dropExpected expected what stack)

end Typing

end StackLanguage
