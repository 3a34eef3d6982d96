import StackLanguage.Proofs.Evaluation.Outcome

namespace StackLanguage

/-! How a statement runs the bodies that it goes into: a block and a branch in a new
scope, the body of a function from a machine of its own. The run of a statement depends on
them alone. -/

namespace Run

theorem get_bind {Result : Type} (run : Machine → Run Result) (machine : Machine) :
    (get >>= run) machine = run machine machine := rfl

theorem inScope_eq (run : Run Unit) (machine : Machine) :
    inScope run machine =
      match run (machine.inner machine.stack) with
      | .ok _ left => .ok () { left with scopes := left.scopes.tail }
      | .error stop left => .error stop { left with scopes := left.scopes.tail } := rfl

theorem inScope_ends {run : Run Unit} {machine : Machine} {atEnd : Unit → Machine → Prop}
    {atStop : Stop → Machine → Prop}
    (ends : Ends run (machine.inner machine.stack)
      (fun _ left => atEnd () { left with scopes := left.scopes.tail })
      fun stop left => atStop stop { left with scopes := left.scopes.tail }) :
    Ends (inScope run) machine atEnd atStop := by
  unfold Ends at ends ⊢
  rw [inScope_eq]
  cases outcome : run (machine.inner machine.stack) <;> rw [outcome] at ends <;>
    exact ends

theorem pop_nil {location : Location} {machine : Machine} (isEmpty : machine.stack = []) :
    pop location machine = .error (.error ⟨.emptyStack, location⟩) machine := by
  rcases machine with ⟨stack, scopes, output, input, calls, depth⟩
  cases isEmpty
  rfl

theorem call_eq {body : List Statement → Run Unit} {limit : Nat} {location : Location}
    {name : String} {machine : Machine} {function : Function}
    {inner defining : List Scope}
    (found : lookupFunction? machine.scopes name = some (function, inner, defining))
    (allowed : machine.depth < limit)
    (supplied : function.parameters.length ≤ machine.stack.length) :
    let restored (left : Machine) : Machine :=
      { left with
        stack := machine.stack.drop function.parameters.length
        scopes := inner ++ left.scopes.tail
        depth := left.depth - 1 }
    call body limit location name machine =
      match body function.body (machine.enter function defining) with
      | .ok _ left =>
          match function.result, left.stack with
          | none, _ => .ok () (restored left)
          | some _, [] => .error (.error ⟨.emptyStack, location⟩) (restored left)
          | some _, top :: _ =>
              .ok () { restored left with stack := top :: (restored left).stack }
      | .error stop left => .error stop (restored left) := by
  intro restored
  have arguments : popArguments location function.parameters.length machine =
      .ok (machine.stack.take function.parameters.length)
        { machine with stack := machine.stack.drop function.parameters.length } := by
    change (if _ then _ else _ : Run (List Value)) machine = _
    rw [if_neg (by omega)]
    rfl
  unfold call
  rw [get_bind]
  simp only [found]
  rw [if_neg (by omega)]
  simp only [bind, EStateM.bind, arguments, inFrame, Machine.enter]
  generalize body function.body _ = outcome
  rcases outcome with ⟨_, ⟨stack, _, _, _, _, _⟩⟩ | ⟨stop, left⟩
  · cases function.result <;> cases stack <;> rfl
  · rfl

theorem call_refused {body : List Statement → Run Unit} {limit : Nat}
    {location : Location} {name : String} {machine : Machine} {function : Function}
    {inner defining : List Scope}
    (found : lookupFunction? machine.scopes name = some (function, inner, defining))
    (refused : limit ≤ machine.depth) :
    call body limit location name machine =
      .error (.error ⟨.callLimit limit function.name, location⟩) machine := by
  unfold call
  rw [get_bind]
  simp only [found]
  rw [if_pos refused]
  rfl

theorem call_missing {body : List Statement → Run Unit} {limit : Nat}
    {location : Location} {name : String} {machine : Machine} {function : Function}
    {inner defining : List Scope}
    (found : lookupFunction? machine.scopes name = some (function, inner, defining))
    (allowed : machine.depth < limit)
    (missing : machine.stack.length < function.parameters.length) :
    call body limit location name machine =
      .error (.error ⟨.emptyStack, location⟩) machine := by
  have arguments : popArguments location function.parameters.length machine =
      fail location .emptyStack machine := by
    change (if _ then _ else _ : Run (List Value)) machine = _
    rw [if_pos missing]
  unfold call
  rw [get_bind]
  simp only [found]
  rw [if_neg (by omega)]
  simp only [bind, EStateM.bind, arguments]
  rfl

theorem call_unknown {body : List Statement → Run Unit} {limit : Nat}
    {location : Location} {name : String} {machine : Machine}
    (notFound : lookupFunction? machine.scopes name = none) :
    call body limit location name machine =
      .error (.error ⟨.unknownFunction name, location⟩) machine := by
  unfold call
  rw [get_bind]
  simp only [notFound]
  rfl

theorem call_congr {first second : List Statement → Run Unit} {limit : Nat}
    {location : Location} {name : String} {machine : Machine}
    (same : ∀ body bodyMachine,
      Enters limit (.call location name) machine body bodyMachine →
        first body bodyMachine = second body bodyMachine) :
    call first limit location name machine = call second limit location name machine := by
  cases found : lookupFunction? machine.scopes name with
  | none => rw [call_unknown found, call_unknown found]
  | some callee =>
      rcases callee with ⟨function, inner, defining⟩
      by_cases allowed : machine.depth < limit
      · by_cases supplied : function.parameters.length ≤ machine.stack.length
        · rw [call_eq found allowed supplied, call_eq found allowed supplied,
            same _ _ (.call found allowed supplied)]
        · rw [call_missing found allowed (by omega),
            call_missing found allowed (by omega)]
      · rw [call_refused found (by omega), call_refused found (by omega)]

section Conditions

variable {body : List Statement → Run Unit} {limit : Nat} {location : Location}
variable {thenBody elseBody : List Statement}
variable {machine : Machine} {condition : Value} {stack : List Value}

theorem ifThen_true (popped : machine.stack = condition :: stack)
    (holds : condition.isTruthy = true) :
    Run.statement body limit (.ifThen location thenBody) machine =
      inScope (body thenBody) { machine with stack } := by
  simp only [Run.statement, bind, EStateM.bind, pop_eq popped, holds]
  rfl

theorem ifThen_false (popped : machine.stack = condition :: stack)
    (fails : condition.isTruthy = false) :
    Run.statement body limit (.ifThen location thenBody) machine =
      (pure () : Run Unit) { machine with stack } := by
  simp only [Run.statement, bind, EStateM.bind, pop_eq popped, fails]
  rfl

theorem ifThenElse_true (popped : machine.stack = condition :: stack)
    (holds : condition.isTruthy = true) :
    Run.statement body limit (.ifThenElse location thenBody elseBody) machine =
      inScope (body thenBody) { machine with stack } := by
  simp only [Run.statement, bind, EStateM.bind, pop_eq popped, holds]
  rfl

theorem ifThenElse_false (popped : machine.stack = condition :: stack)
    (fails : condition.isTruthy = false) :
    Run.statement body limit (.ifThenElse location thenBody elseBody) machine =
      inScope (body elseBody) { machine with stack } := by
  simp only [Run.statement, bind, EStateM.bind, pop_eq popped, fails]
  rfl

end Conditions

theorem inScope_congr {first second : Run Unit} {machine : Machine}
    (same : first (machine.inner machine.stack) = second (machine.inner machine.stack)) :
    inScope first machine = inScope second machine := by
  rw [inScope_eq, inScope_eq, same]

/-- A statement runs the bodies that it enters and no others. -/
theorem statement_congr {first second : List Statement → Run Unit} {limit : Nat}
    {statement : Statement} {machine : Machine}
    (same : ∀ body bodyMachine, Enters limit statement machine body bodyMachine →
      first body bodyMachine = second body bodyMachine) :
    Run.statement first limit statement machine =
      Run.statement second limit statement machine := by
  cases statement with
  | call location name => exact call_congr same
  | ifThen location thenBody =>
      cases stack : machine.stack with
      | nil => simp only [Run.statement, bind, EStateM.bind, pop_nil stack]
      | cons condition rest =>
          cases holds : condition.isTruthy with
          | true =>
              rw [ifThen_true stack holds, ifThen_true stack holds]
              exact inScope_congr (same _ _ (.onlyBranch stack holds))
          | false => rw [ifThen_false stack holds, ifThen_false stack holds]
  | ifThenElse location thenBody elseBody =>
      cases stack : machine.stack with
      | nil => simp only [Run.statement, bind, EStateM.bind, pop_nil stack]
      | cons condition rest =>
          cases holds : condition.isTruthy with
          | true =>
              rw [ifThenElse_true stack holds, ifThenElse_true stack holds]
              exact inScope_congr (same _ _ (.thenBranch stack holds))
          | false =>
              rw [ifThenElse_false stack holds, ifThenElse_false stack holds]
              exact inScope_congr (same _ _ (.elseBranch stack holds))
  | block location body => exact inScope_congr (same _ _ .block)
  | _ => rfl

end Run

end StackLanguage
