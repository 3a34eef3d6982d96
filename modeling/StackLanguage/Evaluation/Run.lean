import StackLanguage.Evaluation.Machine
import StackLanguage.Vocabulary

namespace StackLanguage

/-! Running statements. A run works on a machine and keeps what it has done when it stops
early. Each body runs in a scope of its own, each call on a stack of its own. -/

abbrev Run := EStateM Stop Machine

namespace Run

def fail {Result : Type} (location : Location) (cause : RuntimeError) : Run Result :=
  throw (.error ⟨cause, location⟩)

def push (value : Value) : Run Unit :=
  modify fun machine => { machine with stack := value :: machine.stack }

def pop (location : Location) : Run Value := do
  match (← get).stack with
  | [] => fail location .emptyStack
  | top :: rest =>
      modify ({ · with stack := rest })
      pure top

def print (location : Location) (value : Value) (after : String) : Run Unit :=
  match value.text? with
  | some text => modify (·.write (text ++ after))
  | none => fail location .unprintable

def exitCode (value : Value) : Except Fault Int := do
  let code ←
    match value with
    | .int number => pure number
    | .bool truth => pure (if truth then 1 else 0)
    | .float number =>
        match Double.shape number with
        | .notANumber => throw .numeral
        | .infinite _ => throw .overflow
        | .finite .. => pure ((Double.truncate? number).getD 0)
    | .string text =>
        match Numeral.integer (.fixed 10) text.toList with
        | .ok number => pure number
        | .error _ => throw .numeral
  match Numeral.integerText? code with
  | some _ => pure code
  | none => throw .numeral

def rearrange (location : Location) (change : List Value → Option (List Value)) :
    Run Unit := do
  match change (← get).stack with
  | some stack => modify ({ · with stack })
  | none => fail location .emptyStack

def word (location : Location) : BuiltinWord → Run Unit
  | .dup => rearrange location fun
      | top :: rest => some (top :: top :: rest)
      | _ => none
  | .swap => rearrange location fun
      | first :: second :: rest => some (second :: first :: rest)
      | _ => none
  | .overTop => rearrange location fun
      | first :: second :: rest => some (second :: first :: second :: rest)
      | _ => none
  | .rot => rearrange location fun
      | first :: second :: third :: rest => some (third :: first :: second :: rest)
      | _ => none
  | .clear => modify ({ · with stack := [] })
  | .drop => discard (pop location)
  | .print => do print location (← pop location) ""
  | .println => do print location (← pop location) "\n"
  | .pstack => do (← get).stack.reverse.forM (print location · "\n")
  | .input => do
      let line ← modifyGet Machine.readLine
      push (.string line)
  | .exit => do
      match exitCode (← pop location) with
      | .ok code => throw (.exit code)
      | .error fault => throw (.fault fault)
  | .okexit => throw (.exit 0)
  | .not => do push (.bool !(← pop location).isTruthy)

def operator (location : Location) (symbol : String) : Run Unit := do
  let second ← pop location
  let first ← pop location
  match Operator.apply symbol first second with
  | .ok value => push value
  | .error (.error cause) => fail location (.operation cause)
  | .error (.fault fault) => throw (.fault fault)

def inScope (run : Run Unit) : Run Unit := fun machine =>
  match run { machine with scopes := .empty :: machine.scopes } with
  | .ok _ after => .ok () { after with scopes := after.scopes.tail }
  | .error stop after => .error stop { after with scopes := after.scopes.tail }

/-- Runs a call: `frame` is the stack and `scope` the innermost scope of the callee, which
sees the scopes `defining` outside it. Afterwards the stack and the scopes of the caller
are back, and one call less is active. The result is what the callee leaves on its
stack. -/
def inFrame (frame : List Value) (scope : Scope) (inner defining : List Scope)
    (run : Run Unit) : Run (List Value) := fun machine =>
  let restore (after : Machine) : Machine :=
    { after with
      stack := machine.stack, scopes := inner ++ after.scopes.tail,
      depth := after.depth - 1 }
  match run
      { machine with
        stack := frame, scopes := scope :: defining,
        calls := machine.calls + 1, depth := machine.depth + 1 } with
  | .ok _ after => .ok after.stack (restore after)
  | .error stop after => .error stop (restore after)

def popArguments (location : Location) (count : Nat) : Run (List Value) := do
  let stack := (← get).stack
  if stack.length < count then fail location .emptyStack
  else
    modify ({ · with stack := stack.drop count })
    pure (stack.take count)

/-- Calls a function, given how bodies are run. At most `limit` calls are active at once.
Arguments of named parameters are in variables, others on the stack of the callee. Of what
the callee leaves the top is the result, if one is declared. -/
def call (body : List Statement → Run Unit) (limit : Nat) (location : Location)
    (name : String) :
    Run Unit := do
  let machine ← get
  match lookupFunction? machine.scopes name with
  | none => fail location (.unknownFunction name)
  | some (function, inner, defining) =>
      if limit ≤ machine.depth then fail location (.callLimit limit function.name)
      else
        let arguments ← popArguments location function.parameters.length
        let named := Parameter.areNamed function.parameters
        let frame := if named then [] else arguments
        let scope :=
          if named then .ofArguments function.parameters arguments.reverse else .empty
        let left ← inFrame frame scope inner defining (body function.body)
        if function.result.isSome then
          match left with
          | [] => fail location .emptyStack
          | top :: _ => push top

def statement (body : List Statement → Run Unit) (limit : Nat) : Statement → Run Unit
  | .push _ value => push value
  | .word location name =>
      match BuiltinWord.ofName? name with
      | some builtin => word location builtin
      | none => fail location (.unknownWord name)
  | .operator location symbol => operator location symbol
  | .load location name => do
      match lookupVariable? (← get).scopes name with
      | some value => push value
      | none => fail location (.unknownVariable name)
  | .call location name => call body limit location name
  | .bind location name type initial => do
      let value ←
        match initial with
        | some value => pure value
        | none => pop location
      modify (·.changeScope (·.bind name ⟨type, value⟩))
  | .define _ name parameters result statements =>
      modify (·.changeScope (·.define name ⟨name, parameters, result, statements⟩))
  | .ifThen location thenBody => do
      if (← pop location).isTruthy then inScope (body thenBody)
  | .ifThenElse location thenBody elseBody => do
      if (← pop location).isTruthy then inScope (body thenBody)
      else inScope (body elseBody)
  | .block _ statements => inScope (body statements)
  | .unknown location kind => fail location (.unknownStatement kind)

/-- Runs statements with at most `room` bodies inside one another, those of calls
included. -/
def statements (limit : Nat) : (room : Nat) → List Statement → Run Unit
  | 0, _ => fail .nowhere .nestedTooDeep
  | room + 1, list => list.forM (statement (statements limit room) limit)

def whole (limit : Nat) (list : List Statement) : Run Unit :=
  statements limit Program.nestingLimit list

end Run

end StackLanguage
