import StackLanguage.Evaluation.Run
import StackLanguage.Proofs.Typing.Visits

namespace StackLanguage

/-! The moments of a run: each statement that is carried out, with the machine just before
it. What a machine has bound is compared with what the checker knew through the
declarations that its scopes amount to. -/

def Function.signature (function : Function) : Signature :=
  .of function.parameters function.result

namespace Scope

def declarations (scope : Scope) : Typing.Scope where
  types := scope.bindings.map (·.type)
  signatures := scope.functions.map Function.signature

@[simp] theorem declarations_empty : empty.declarations = .empty := rfl

@[simp] theorem declarations_bind (scope : Scope) (name : String) (binding : Binding) :
    (scope.bind name binding).declarations =
      { scope.declarations with
        types := scope.declarations.types.set name binding.type } := by
  simp [declarations, bind]

@[simp] theorem declarations_define (scope : Scope) (name : String)
    (function : Function) :
    (scope.define name function).declarations =
      { scope.declarations with
        signatures := scope.declarations.signatures.set name function.signature } := by
  simp [declarations, define]

theorem declaration?_value (scope : Scope) (name : String) :
    scope.declarations.declaration? ⟨.value, name⟩ =
      (scope.bindings.get? name).map fun binding => .value binding.type := by
  simp [Typing.Scope.declaration?, declarations, Function.comp_def]

theorem declaration?_function (scope : Scope) (name : String) :
    scope.declarations.declaration? ⟨.function, name⟩ =
      (scope.functions.get? name).map fun function => .function function.signature := by
  simp [Typing.Scope.declaration?, declarations, Function.comp_def]

end Scope

def declarationsOf (scopes : List Scope) : List Typing.Scope :=
  scopes.map Scope.declarations

@[simp] theorem declarationsOf_cons (scope : Scope) (outer : List Scope) :
    declarationsOf (scope :: outer) = scope.declarations :: declarationsOf outer := rfl

theorem lookupFunction?_split {scopes inner defining : List Scope} {name : String}
    {function : Function}
    (found : lookupFunction? scopes name = some (function, inner, defining)) :
    inner ++ defining = scopes ∧
      ∃ scope outer,
        defining = scope :: outer ∧ scope.functions.get? name = some function := by
  induction scopes generalizing inner with
  | nil => cases found
  | cons scope outer induction =>
      simp only [lookupFunction?] at found
      cases here : scope.functions.get? name with
      | some defined =>
          simp only [here, Option.some.injEq, Prod.mk.injEq] at found
          rcases found with ⟨rfl, rfl, rfl⟩
          exact ⟨rfl, scope, outer, rfl, here⟩
      | none =>
          simp only [here, Option.map_eq_some_iff, Prod.mk.injEq, Prod.exists] at found
          rcases found with ⟨_, innerRest, _, found, rfl, rfl, rfl⟩
          rcases induction found with ⟨split, defined⟩
          exact ⟨by rw [List.cons_append, split], defined⟩

theorem exists_lookupFunction? {scopes : List Scope} {name : String}
    {signature : Signature}
    (found : Typing.lookup? (declarationsOf scopes) ⟨.function, name⟩ =
      some (.function signature)) :
    ∃ function inner defining,
      lookupFunction? scopes name = some (function, inner, defining) ∧
      function.signature = signature := by
  induction scopes with
  | nil => cases found
  | cons scope outer induction =>
      simp only [Typing.lookup?, declarationsOf_cons, List.findSome?_cons,
        Scope.declaration?_function] at found induction
      simp only [lookupFunction?]
      cases here : scope.functions.get? name with
      | some function =>
          simp only [here, Option.map_some, Option.some.injEq,
            Declaration.function.injEq] at found
          exact ⟨function, [], scope :: outer, rfl, found⟩
      | none =>
          simp only [here, Option.map_none] at found
          rcases induction found with ⟨function, inner, defining, isFound, same⟩
          exact ⟨function, scope :: inner, defining, by simp [isFound], same⟩

def Machine.enter (machine : Machine) (function : Function) (defining : List Scope) :
    Machine :=
  let arguments := machine.stack.take function.parameters.length
  let named := Parameter.areNamed function.parameters
  { machine with
    stack := if named then [] else arguments
    scopes :=
      (if named then .ofArguments function.parameters arguments.reverse else .empty) ::
        defining
    calls := machine.calls + 1
    depth := machine.depth + 1 }

def Machine.inner (machine : Machine) (stack : List Value) : Machine :=
  { machine with stack, scopes := .empty :: machine.scopes }

namespace Run

/-- The bodies that a run goes into from a statement, with the machine that each starts
in. -/
inductive Enters (limit : Nat) : Statement → Machine → List Statement → Machine → Prop
  | call {location name} {machine : Machine} {function inner defining}
      (found : lookupFunction? machine.scopes name = some (function, inner, defining))
      (allowed : machine.depth < limit)
      (supplied : function.parameters.length ≤ machine.stack.length) :
      Enters limit (.call location name) machine function.body
        (machine.enter function defining)
  | onlyBranch {location thenBody} {machine : Machine} {condition : Value} {stack}
      (popped : machine.stack = condition :: stack) (holds : condition.isTruthy = true) :
      Enters limit (.ifThen location thenBody) machine thenBody (machine.inner stack)
  | thenBranch {location thenBody elseBody} {machine : Machine}
      {condition : Value} {stack} (popped : machine.stack = condition :: stack)
      (holds : condition.isTruthy = true) :
      Enters limit (.ifThenElse location thenBody elseBody) machine thenBody
        (machine.inner stack)
  | elseBranch {location thenBody elseBody} {machine : Machine}
      {condition : Value} {stack} (popped : machine.stack = condition :: stack)
      (fails : condition.isTruthy = false) :
      Enters limit (.ifThenElse location thenBody elseBody) machine elseBody
        (machine.inner stack)
  | block {location body} {machine : Machine} :
      Enters limit (.block location body) machine body (machine.inner machine.stack)

theorem Enters.unique {limit : Nat} {statement : Statement}
    {machine now otherMachine : Machine} {list other : List Statement}
    (first : Enters limit statement machine list now)
    (second : Enters limit statement machine other otherMachine) :
    other = list ∧ otherMachine = now := by
  cases first with
  | call found =>
      cases second with
      | call found' =>
          cases found.symm.trans found'
          exact ⟨rfl, rfl⟩
  | onlyBranch popped =>
      cases second with
      | onlyBranch popped' =>
          cases popped.symm.trans popped'
          exact ⟨rfl, rfl⟩
  | thenBranch popped holds =>
      cases second with
      | thenBranch popped' =>
          cases popped.symm.trans popped'
          exact ⟨rfl, rfl⟩
      | elseBranch popped' fails =>
          cases popped.symm.trans popped'
          cases holds.symm.trans fails
  | elseBranch popped fails =>
      cases second with
      | thenBranch popped' holds =>
          cases popped.symm.trans popped'
          cases holds.symm.trans fails
      | elseBranch popped' =>
          cases popped.symm.trans popped'
          exact ⟨rfl, rfl⟩
  | block =>
      cases second
      exact ⟨rfl, rfl⟩

theorem Enters.exists_or_none (limit : Nat) (statement : Statement) (machine : Machine) :
    (∃ list bodyMachine, Enters limit statement machine list bodyMachine) ∨
      ∀ list bodyMachine, ¬ Enters limit statement machine list bodyMachine := by
  by_cases enters : ∃ list bodyMachine, Enters limit statement machine list bodyMachine
  · exact .inl enters
  · exact .inr fun list bodyMachine isEntered => enters ⟨list, bodyMachine, isEntered⟩

/-- While statements are run on a machine, a statement among them or in the body of a
function that is called is carried out, on the machine as it is then. -/
inductive Moment (limit : Nat) :
    (room : Nat) → List Statement → Machine → Statement → Machine →
    Prop
  | here {room statement rest machine} :
      Moment limit (room + 1) (statement :: rest) machine statement machine
  | inside {room statement rest machine body bodyMachine current now}
      (enters : Enters limit statement machine body bodyMachine)
      (moment : Moment limit room body bodyMachine current now) :
      Moment limit (room + 1) (statement :: rest) machine current now
  | later {room statement rest machine between current now}
      (ran : Run.statement (statements limit room) limit statement machine =
        .ok () between)
      (moment : Moment limit (room + 1) rest between current now) :
      Moment limit (room + 1) (statement :: rest) machine current now

theorem statements_cons (limit room : Nat) (statement : Statement) (rest : List Statement)
    (machine : Machine) :
    statements limit (room + 1) (statement :: rest) machine =
      match Run.statement (statements limit room) limit statement machine with
      | .ok _ between => statements limit (room + 1) rest between
      | .error stop after => .error stop after := by
  change EStateM.bind _ _ machine = _
  unfold EStateM.bind
  cases Run.statement (statements limit room) limit statement machine <;> rfl

theorem statements_append (limit room : Nat) (first second : List Statement) :
    statements limit room (first ++ second) =
      (statements limit room first >>= fun _ => statements limit room second) := by
  cases room with
  | zero => rfl
  | succ room => exact List.forM_append

end Run

end StackLanguage
