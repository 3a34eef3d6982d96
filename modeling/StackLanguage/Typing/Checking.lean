import StackLanguage.Typing.Environment
import StackLanguage.Vocabulary

namespace StackLanguage

/-! Checking programs by running them on types. Every statement changes the stack of types
and the declarations of the innermost scope; bodies are checked in scopes of their own. -/

namespace Typing

structure State where
  stack : List ValueType
  scopes : List Scope
deriving DecidableEq

namespace State

def initial : State := ⟨[], [.empty]⟩

def scope (state : State) : Scope := state.scopes.headD .empty

def withScope (state : State) (scope : Scope) : State :=
  { state with scopes := scope :: state.scopes.tail }

/-- The state that a check has left, with the stack and the innermost scope from before
it. Nothing puts the scopes around that one back. -/
def rolledBack (state before : State) : State where
  stack := before.stack
  scopes := before.scopes.take 1 ++ state.scopes.tail

end State

inductive Failure where
  | error (error : Located TypeError)
  | nestedTooDeep
deriving DecidableEq

abbrev Check := EStateM Failure State

namespace Check

def located {Result : Type} (location : Location) : Except TypeError Result → Check Result
  | .ok result => pure result
  | .error cause => throw (.error ⟨cause, location⟩)

def changeStack (location : Location)
    (change : List ValueType → Except TypeError (List ValueType)) : Check Unit := do
  let stack ← located location (change (← get).stack)
  modify ({ · with stack })

def changeScope (location : Location) (change : Scope → Except TypeError Scope) :
    Check Unit := do
  let scope ← located location (change (← get).scope)
  modify (·.withScope scope)

/-- The stack that a check leaves when it starts from the given stack in a new innermost
scope. The stack and the scopes around it stay as they are. -/
def inside (stack : List ValueType) (scope : Scope) (check : Check Unit) :
    Check (List ValueType) := fun state =>
  match check ⟨stack, scope :: state.scopes⟩ with
  | .ok _ after => .ok after.stack { state with scopes := after.scopes.tail }
  | .error failure after => .error failure { state with scopes := after.scopes.tail }

/-- A failure inside the body of a function breaks the promise of its signature. -/
def promised {Result : Type} (check : Check Result) : Check Result := fun state =>
  match check state with
  | .error (.error ⟨cause, location⟩) after =>
      .error (.error ⟨.brokenPromise cause, location⟩) after
  | result => result

end Check

def wordEffect (word : BuiltinWord) (stack : List ValueType) :
    Except TypeError (List ValueType) :=
  match word, stack with
  | .dup, top :: rest => .ok (top :: top :: rest)
  | .drop, _ :: rest | .print, _ :: rest | .println, _ :: rest => .ok rest
  | .swap, first :: second :: rest => .ok (second :: first :: rest)
  | .overTop, first :: second :: rest => .ok (second :: first :: second :: rest)
  | .rot, first :: second :: third :: rest => .ok (third :: first :: second :: rest)
  | .clear, _ => .ok []
  | .pstack, stack | .okexit, stack => .ok stack
  | .input, stack => .ok (.string :: stack)
  | .exit, stack => dropExpected .int word.name stack
  | .not, stack => (dropExpected .bool word.name stack).map (.bool :: ·)
  | _, _ => .error (.tooFewValues word.name)

def operatorEffect (symbol : String) : List ValueType → Except TypeError (List ValueType)
  | second :: first :: rest =>
      match Operator.resultType symbol first second with
      | .ok type => .ok (type :: rest)
      | .error cause => .error (.operands cause)
  | _ => .error (.tooFewValues symbol)

def loadedType (scopes : List Scope) (name : String) : Except TypeError ValueType :=
  match lookupVariable? scopes name, lookupFunction? scopes name with
  | some type, _ => .ok type
  | none, some _ => .error (.functionAsVariable name)
  | none, none => .error (.unknownVariable name)

def calledSignature (scopes : List Scope) (name : String) : Except TypeError Signature :=
  match lookupFunction? scopes name, lookupVariable? scopes name with
  | some signature, _ => .ok signature
  | none, some _ => .error (.variableAsFunction name)
  | none, none => .error (.unknownFunction name)

def callEffect (name : String) (signature : Signature) (stack : List ValueType) :
    Except TypeError (List ValueType) := do
  let rest ← dropArguments (name ++ "()") signature.parameters.reverse stack
  pure (signature.result.toList ++ rest)

def checkResult (name : String) (result : Option ValueType) (stack : List ValueType) :
    Except TypeError Unit :=
  match result, stack with
  | none, [] => .ok ()
  | none, stack => .error (.leftovers name stack.length)
  | some declared, [actual] =>
      if declared.accepts actual then .ok () else .error (.wrongResult declared actual)
  | some _, _ => .error .resultCount

open Check

/-- Checks the definition of a function, given how bodies are checked. The body sees the
function itself; it starts with the arguments on the stack, or in variables if they are
named. -/
def checkDefinition (body : List Statement → Check Unit) (location : Location)
    (name : String) (parameters : List Parameter) (result : Option ValueType)
    (statements : List Statement) :
    Check Unit := do
  let signature := Signature.of parameters result
  changeScope location (·.declareFunction name signature)
  let (stack, scope) ←
    if signature.named then do
      let scope ← located location (Scope.ofParameters .empty none parameters)
      pure ([], scope)
    else
      pure (signature.parameters.reverse, Scope.empty)
  let left ← promised (inside stack scope (body statements))
  located location (checkResult name result left)

def checkStatement (body : List Statement → Check Unit) : Statement → Check Unit
  | .push location value => changeStack location fun stack => .ok (value.type :: stack)
  | .word location name =>
      match BuiltinWord.ofName? name with
      | some word => changeStack location (wordEffect word)
      | none => throw (.error ⟨.unknownWord name, location⟩)
  | .operator location symbol => changeStack location (operatorEffect symbol)
  | .load location name => do
      let type ← located location (loadedType (← get).scopes name)
      changeStack location fun stack => .ok (type :: stack)
  | .call location name => do
      let signature ← located location (calledSignature (← get).scopes name)
      changeStack location (callEffect name signature)
  | .bind location name type initial => do
      if initial.isNone then
        changeStack location (dropExpected type ("let " ++ name))
      changeScope location (·.declareVariable name type)
  | .define location name parameters result statements =>
      checkDefinition body location name parameters result statements
  | .ifThen location thenBody => do
      changeStack location (dropExpected .bool "if")
      let stack := (← get).stack
      let thenStack ← inside stack .empty (body thenBody)
      unless thenStack = stack do throw (.error ⟨.stackChangedByIf, location⟩)
  | .ifThenElse location thenBody elseBody => do
      changeStack location (dropExpected .bool "if")
      let stack := (← get).stack
      let thenStack ← inside stack .empty (body thenBody)
      let elseStack ← inside stack .empty (body elseBody)
      unless thenStack = elseStack do throw (.error ⟨.unequalBranches, location⟩)
      changeStack location fun _ => .ok thenStack
  | .block location statements => do
      let left ← inside (← get).stack .empty (body statements)
      changeStack location fun _ => .ok left
  | .unknown location kind => throw (.error ⟨.unknownStatement kind, location⟩)

def checkStatements : (room : Nat) → List Statement → Check Unit
  | 0, _ => throw .nestedTooDeep
  | room + 1, statements => statements.forM (checkStatement (checkStatements room))

/-- Checks a whole program, which starts and ends with an empty stack, over the
declarations of the given scopes. The second result are the scopes afterwards, whatever
the first is. -/
def checkProgram (scopes : List Scope) (program : Program) :
    Except (Located TypeError) Unit × List Scope :=
  let whole := Location.whole program.sourceName
  match checkStatements Program.nestingLimit program.statements ⟨[], scopes⟩ with
  | .ok _ after =>
      (if after.stack.isEmpty then .ok ()
        else .error ⟨.excessValues after.stack.length, whole⟩, after.scopes)
  | .error (.error error) after => (.error error, after.scopes)
  | .error .nestedTooDeep after => (.error ⟨.nestedTooDeep, whole⟩, after.scopes)

/-- Checks more statements, which follow those that were checked before. The second result
is the state afterwards; of a failed check the stack and the innermost scope are put
back. -/
def checkMore (statements : List Statement) (state : State) :
    Except (Located TypeError) Unit × State :=
  match checkStatements Program.nestingLimit statements state with
  | .ok _ after => (.ok (), after)
  | .error (.error error) after => (.error error, after.rolledBack state)
  | .error .nestedTooDeep after =>
      (.error ⟨.nestedTooDeep, .nowhere⟩, after.rolledBack state)

end Typing

end StackLanguage
