import StackLanguage.Evaluation.Error
import StackLanguage.Program
import StackLanguage.Table

namespace StackLanguage

/-! The state of a run: values on the stack, top first, scopes with what they bind,
innermost first, and what was written and is still to be read. -/

/-- A variable with its declared type, which may be wider than the type of its value. -/
structure Binding where
  type : ValueType
  value : Value
deriving DecidableEq

structure Function where
  name : String
  parameters : List Parameter
  result : Option ValueType
  body : List Statement

structure Scope where
  bindings : Table Binding
  functions : Table Function
deriving Inhabited

namespace Scope

def empty : Scope := ⟨.empty, .empty⟩

def bind (scope : Scope) (name : String) (binding : Binding) : Scope :=
  { scope with bindings := scope.bindings.set name binding }

def define (scope : Scope) (name : String) (function : Function) : Scope :=
  { scope with functions := scope.functions.set name function }

def ofArguments (parameters : List Parameter) (arguments : List Value) : Scope :=
  (parameters.zip arguments).foldl
    (fun scope (parameter, argument) =>
      match parameter.name with
      | some name => scope.bind name ⟨parameter.type, argument⟩
      | none => scope)
    empty

end Scope

structure Machine where
  stack : List Value
  scopes : List Scope
  output : String
  input : List Char
  calls : Nat
  depth : Nat

namespace Machine

def initial (input : List Char) : Machine := ⟨[], [.empty], "", input, 0, 0⟩

def scope (machine : Machine) : Scope := machine.scopes.headD .empty

def changeScope (machine : Machine) (change : Scope → Scope) : Machine :=
  { machine with scopes := change machine.scope :: machine.scopes.tail }

def write (machine : Machine) (text : String) : Machine :=
  { machine with output := machine.output ++ text }

/-- The next line of the input without the line feed at its end, and the machine after it
is read. After the last line every line is empty. -/
def readLine (machine : Machine) : String × Machine :=
  let line := machine.input.takeWhile (· ≠ '\n')
  (String.ofList line, { machine with input := machine.input.drop (line.length + 1) })

end Machine

def lookupVariable? (scopes : List Scope) (name : String) : Option Value :=
  (scopes.findSome? (·.bindings.get? name)).map (·.value)

/-- The function of a name in the innermost scope that defines it, the scopes inside that
one, and the scopes from that one outwards. -/
def lookupFunction? : (scopes : List Scope) → (name : String) →
    Option (Function × List Scope × List Scope)
  | [], _ => none
  | scope :: outer, name =>
      match scope.functions.get? name with
      | some function => some (function, [], scope :: outer)
      | none =>
          (lookupFunction? outer name).map fun (function, inner, defining) =>
            (function, scope :: inner, defining)

end StackLanguage
