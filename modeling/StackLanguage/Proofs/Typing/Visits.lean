import StackLanguage.Proofs.Typing.Declaration
import StackLanguage.Proofs.Typing.Rollback

namespace StackLanguage

/-! What a successful check of a statement has done, one theorem for each form of
statement, and the states in which the checker visits the statements of a program. -/

theorem bind_eq_ok {Error State First Second : Type} {first : EStateM Error State First}
    {second : First → EStateM Error State Second} {state after : State} {result : Second}
    (succeeded : (first >>= second) state = .ok result after) :
    ∃ value between,
      first state = .ok value between ∧ second value between = .ok result after := by
  change EStateM.bind first second state = _ at succeeded
  unfold EStateM.bind at succeeded
  split at succeeded
  · next value between firstOk => exact ⟨value, between, firstOk, succeeded⟩
  · cases succeeded

theorem get_bind_eq_ok {Error State Result : Type}
    {second : State → EStateM Error State Result} {state after : State} {result : Result}
    (succeeded : (get >>= second) state = .ok result after) :
    second state state = .ok result after :=
  succeeded

namespace Typing

def StartsBody (parameters : List Parameter) (stack : List ValueType) (scope : Scope) :
    Prop :=
  if Parameter.areNamed parameters then
    stack = [] ∧ Scope.ofParameters .empty none parameters = .ok scope
  else stack = (parameters.map (·.type)).reverse ∧ scope = .empty

namespace Check

/-! ## The parts of a check -/

theorem located_ok {Result : Type} {location : Location}
    {outcome : Except TypeError Result} {result : Result} {state after : State}
    (succeeded : located location outcome state = .ok result after) :
    outcome = .ok result ∧ after = state := by
  cases outcome with
  | ok value => cases succeeded; exact ⟨rfl, rfl⟩
  | error cause => cases succeeded

theorem changeStack_ok {location : Location}
    {change : List ValueType → Except TypeError (List ValueType)} {state after : State}
    (succeeded : changeStack location change state = .ok () after) :
    ∃ stack, change state.stack = .ok stack ∧ after = { state with stack } := by
  rcases bind_eq_ok (get_bind_eq_ok succeeded) with ⟨stack, between, found, modified⟩
  rcases located_ok found with ⟨changed, rfl⟩
  cases modified
  exact ⟨stack, changed, rfl⟩

theorem changeScope_ok {location : Location} {change : Scope → Except TypeError Scope}
    {state after : State} (succeeded : changeScope location change state = .ok () after) :
    ∃ scope, change state.scope = .ok scope ∧ after = state.withScope scope := by
  rcases bind_eq_ok (get_bind_eq_ok succeeded) with ⟨scope, between, found, modified⟩
  rcases located_ok found with ⟨changed, rfl⟩
  cases modified
  exact ⟨scope, changed, rfl⟩

theorem inside_ok {stack left : List ValueType} {scope : Scope} {check : Check Unit}
    {state after : State} (succeeded : inside stack scope check state = .ok left after) :
    ∃ inner, check ⟨stack, scope :: state.scopes⟩ = .ok () inner ∧ left = inner.stack ∧
      after = { state with scopes := inner.scopes.tail } := by
  unfold inside at succeeded
  split at succeeded
  · next inner checked => cases succeeded; exact ⟨inner, checked, rfl, rfl⟩
  · cases succeeded

theorem promised_ok {Result : Type} {check : Check Result} {result : Result}
    {state after : State} (succeeded : promised check state = .ok result after) :
    check state = .ok result after := by
  unfold promised at succeeded
  split at succeeded
  · cases succeeded
  · exact succeeded

theorem unless_ok {condition : Prop} [Decidable condition] {failure : Failure}
    {state after : State}
    (succeeded : (unless condition do throw failure : Check Unit) state = .ok () after) :
    condition ∧ after = state := by
  by_cases holds : condition
  · rw [if_pos holds] at succeeded
    cases succeeded
    exact ⟨holds, rfl⟩
  · rw [if_neg holds] at succeeded
    cases succeeded

/-! ## Statements -/

section Statements

variable {body : List Statement → Check Unit} {location : Location} {state after : State}

theorem push_ok {value : Value}
    (succeeded : checkStatement body (.push location value) state = .ok () after) :
    after = { state with stack := value.type :: state.stack } := by
  have changed : changeStack location (fun stack => .ok (value.type :: stack)) state =
      .ok () after := succeeded
  rcases changeStack_ok changed with ⟨stack, pushed, rfl⟩
  cases pushed
  rfl

theorem word_ok {name : String}
    (succeeded : checkStatement body (.word location name) state = .ok () after) :
    ∃ word stack, BuiltinWord.ofName? name = some word ∧
      wordEffect word state.stack = .ok stack ∧ after = { state with stack } := by
  unfold checkStatement at succeeded
  cases found : BuiltinWord.ofName? name with
  | none => simp only [found] at succeeded; cases succeeded
  | some word =>
      simp only [found] at succeeded
      rcases changeStack_ok succeeded with ⟨stack, changed, rfl⟩
      exact ⟨word, stack, rfl, changed, rfl⟩

theorem operator_ok {symbol : String}
    (succeeded : checkStatement body (.operator location symbol) state = .ok () after) :
    ∃ stack,
      operatorEffect symbol state.stack = .ok stack ∧ after = { state with stack } :=
  changeStack_ok succeeded

theorem load_ok {name : String}
    (succeeded : checkStatement body (.load location name) state = .ok () after) :
    ∃ type, lookup? state.scopes ⟨.value, name⟩ = some (.value type) ∧
      after = { state with stack := type :: state.stack } := by
  rcases bind_eq_ok (get_bind_eq_ok succeeded) with ⟨type, between, found, changed⟩
  rcases located_ok found with ⟨loaded, rfl⟩
  rcases changeStack_ok changed with ⟨stack, pushed, rfl⟩
  cases pushed
  refine ⟨type, ?_, rfl⟩
  unfold loadedType at loaded
  split at loaded <;> cases loaded
  simp_all [lookup?_value]

theorem call_ok {name : String}
    (succeeded : checkStatement body (.call location name) state = .ok () after) :
    ∃ signature stack,
      lookup? state.scopes ⟨.function, name⟩ = some (.function signature) ∧
        callEffect name signature state.stack = .ok stack ∧
        after = { state with stack } := by
  rcases bind_eq_ok (get_bind_eq_ok succeeded) with ⟨signature, between, found, changed⟩
  rcases located_ok found with ⟨called, rfl⟩
  rcases changeStack_ok changed with ⟨stack, effect, rfl⟩
  refine ⟨signature, stack, ?_, effect, rfl⟩
  unfold calledSignature at called
  split at called <;> cases called
  simp_all [lookup?_function]

theorem bind_ok {name : String} {type : ValueType} {initial : Option Value}
    (succeeded : checkStatement body (.bind location name type initial) state =
      .ok () after) :
    ∃ stack scope,
      (if initial.isNone then dropExpected type ("let " ++ name) state.stack = .ok stack
        else stack = state.stack) ∧
      state.scope.declareVariable name type = .ok scope ∧
      after = { stack, scopes := scope :: state.scopes.tail } := by
  cases initial with
  | none =>
      rcases bind_eq_ok succeeded with ⟨_, _, popped, changed⟩
      rcases changeStack_ok popped with ⟨stack, dropped, rfl⟩
      rcases changeScope_ok changed with ⟨scope, declared, rfl⟩
      exact ⟨stack, scope, dropped, declared, rfl⟩
  | some value =>
      have changed : changeScope location (·.declareVariable name type) state =
          .ok () after :=
        succeeded
      rcases changeScope_ok changed with ⟨scope, declared, rfl⟩
      exact ⟨state.stack, scope, rfl, declared, rfl⟩

theorem define_ok {name : String} {parameters : List Parameter}
    {result : Option ValueType} {statements : List Statement}
    (succeeded :
      checkStatement body (.define location name parameters result statements) state =
        .ok () after) :
    ∃ scope stack bodyScope inner,
      state.scope.declareFunction name (.of parameters result) = .ok scope ∧
      StartsBody parameters stack bodyScope ∧
      body statements ⟨stack, bodyScope :: scope :: state.scopes.tail⟩ = .ok () inner ∧
      checkResult name result inner.stack = .ok () ∧
      after = { state with scopes := inner.scopes.tail } := by
  rcases bind_eq_ok succeeded with ⟨_, _, changed, afterDeclaring⟩
  rcases changeScope_ok changed with ⟨scope, declared, rfl⟩
  have starts : ∃ stack bodyScope, StartsBody parameters stack bodyScope ∧
      (promised (inside stack bodyScope (body statements)) >>=
        fun left => located location (checkResult name result left))
          (state.withScope scope) =
        .ok () after := by
    by_cases named : Parameter.areNamed parameters = true
    · simp only [Signature.of, named, if_true] at afterDeclaring
      rcases bind_eq_ok afterDeclaring with ⟨bodyScope, _, found, remaining⟩
      rcases located_ok found with ⟨ofParameters, rfl⟩
      exact ⟨[], bodyScope, by simp [StartsBody, named, ofParameters], remaining⟩
    · simp only [Signature.of, named, Bool.false_eq_true, if_false] at afterDeclaring
      exact ⟨_, .empty, by simp [StartsBody, named], afterDeclaring⟩
  rcases starts with ⟨stack, bodyScope, starts, remaining⟩
  rcases bind_eq_ok remaining with ⟨left, afterBody, promise, atEnd⟩
  rcases inside_ok (promised_ok promise) with ⟨inner, checked, rfl, rfl⟩
  rcases located_ok atEnd with ⟨kept, rfl⟩
  exact ⟨scope, stack, bodyScope, inner, declared, starts, checked, kept, rfl⟩

theorem ifThen_ok {thenBody : List Statement}
    (succeeded : checkStatement body (.ifThen location thenBody) state = .ok () after) :
    ∃ stack inner, dropExpected .bool "if" state.stack = .ok stack ∧
      body thenBody ⟨stack, .empty :: state.scopes⟩ = .ok () inner ∧ inner.stack = stack ∧
      after = ⟨stack, inner.scopes.tail⟩ := by
  rcases bind_eq_ok succeeded with ⟨_, _, popped, afterCondition⟩
  rcases changeStack_ok popped with ⟨stack, dropped, rfl⟩
  rcases bind_eq_ok (get_bind_eq_ok afterCondition) with ⟨left, between, body, compared⟩
  rcases inside_ok body with ⟨inner, checked, rfl, rfl⟩
  rcases unless_ok compared with ⟨same, rfl⟩
  exact ⟨stack, inner, dropped, checked, same, rfl⟩

theorem ifThenElse_ok {thenBody elseBody : List Statement}
    (succeeded :
      checkStatement body (.ifThenElse location thenBody elseBody) state = .ok () after) :
    ∃ stack thenInner elseInner, dropExpected .bool "if" state.stack = .ok stack ∧
      body thenBody ⟨stack, .empty :: state.scopes⟩ = .ok () thenInner ∧
      body elseBody ⟨stack, .empty :: thenInner.scopes.tail⟩ = .ok () elseInner ∧
      elseInner.stack = thenInner.stack ∧
      after = ⟨thenInner.stack, elseInner.scopes.tail⟩ := by
  rcases bind_eq_ok succeeded with ⟨_, _, popped, afterCondition⟩
  rcases changeStack_ok popped with ⟨stack, dropped, rfl⟩
  rcases bind_eq_ok (get_bind_eq_ok afterCondition) with ⟨_, _, thenPart, afterThen⟩
  rcases inside_ok thenPart with ⟨thenInner, thenChecked, rfl, rfl⟩
  rcases bind_eq_ok afterThen with ⟨_, _, elsePart, afterElse⟩
  rcases inside_ok elsePart with ⟨elseInner, elseChecked, rfl, rfl⟩
  by_cases same : thenInner.stack = elseInner.stack
  · simp only [same, if_true] at afterElse
    rcases changeStack_ok afterElse with ⟨_, replaced, rfl⟩
    cases replaced
    exact ⟨stack, thenInner, elseInner, dropped, thenChecked, elseChecked,
      same.symm, by rw [same]⟩
  · simp only [same, if_false] at afterElse
    cases afterElse

theorem block_ok {statements : List Statement}
    (succeeded : checkStatement body (.block location statements) state = .ok () after) :
    ∃ inner, body statements ⟨state.stack, .empty :: state.scopes⟩ = .ok () inner ∧
      after = ⟨inner.stack, inner.scopes.tail⟩ := by
  rcases bind_eq_ok (get_bind_eq_ok succeeded) with ⟨_, _, body, changed⟩
  rcases inside_ok body with ⟨inner, checked, rfl, rfl⟩
  rcases changeStack_ok changed with ⟨_, replaced, rfl⟩
  cases replaced
  exact ⟨inner, checked, rfl⟩

theorem unknown_not_ok {kind : String} :
    checkStatement body (.unknown location kind) state ≠ .ok () after := nofun

end Statements

end Check

/-! ## Lists of statements -/

theorem checkStatements_nil_ok {room : Nat} {state after : State}
    (succeeded : checkStatements (room + 1) [] state = .ok () after) : after = state := by
  cases succeeded
  rfl

theorem checkStatements_cons (room : Nat) (statement : Statement) (rest : List Statement)
    (state : State) :
    checkStatements (room + 1) (statement :: rest) state =
      match checkStatement (checkStatements room) statement state with
      | .ok _ between => checkStatements (room + 1) rest between
      | .error failure after => .error failure after := by
  change EStateM.bind _ _ state = _
  unfold EStateM.bind
  cases checkStatement (checkStatements room) statement state <;> rfl

theorem checkStatements_cons_ok {room : Nat} {statement : Statement}
    {rest : List Statement} {state after : State}
    (succeeded : checkStatements (room + 1) (statement :: rest) state = .ok () after) :
    ∃ between, checkStatement (checkStatements room) statement state = .ok () between ∧
      checkStatements (room + 1) rest between = .ok () after := by
  rcases bind_eq_ok succeeded with ⟨_, between, first, remaining⟩
  exact ⟨between, first, remaining⟩

theorem checkStatements_append (room : Nat) (first second : List Statement) :
    checkStatements room (first ++ second) =
      (checkStatements room first >>= fun _ => checkStatements room second) := by
  cases room with
  | zero => rfl
  | succ room => exact List.forM_append

theorem checkStatements_append_ok {room : Nat} {first second : List Statement}
    {state after : State}
    (succeeded : checkStatements room (first ++ second) state = .ok () after) :
    ∃ between, checkStatements room first state = .ok () between ∧
      checkStatements room second between = .ok () after := by
  rw [checkStatements_append] at succeeded
  rcases bind_eq_ok succeeded with ⟨_, between, firstOk, secondOk⟩
  exact ⟨between, firstOk, secondOk⟩

/-! ## Visits -/

/-- The bodies that the checker goes into from a statement, with the state that each is
checked from. -/
inductive Enters : Statement → State → List Statement → State → Prop
  | definition {location name parameters result body} {state : State}
      {scope stack bodyScope}
      (declared : state.scope.declareFunction name (.of parameters result) = .ok scope)
      (starts : StartsBody parameters stack bodyScope) :
      Enters (.define location name parameters result body) state body
        ⟨stack, bodyScope :: scope :: state.scopes.tail⟩
  | onlyBranch {location thenBody} {state : State} {stack}
      (popped : dropExpected .bool "if" state.stack = .ok stack) :
      Enters (.ifThen location thenBody) state thenBody ⟨stack, .empty :: state.scopes⟩
  | thenBranch {location thenBody elseBody} {state : State} {stack}
      (popped : dropExpected .bool "if" state.stack = .ok stack) :
      Enters (.ifThenElse location thenBody elseBody) state thenBody
        ⟨stack, .empty :: state.scopes⟩
  | elseBranch {location thenBody elseBody} {state : State} {stack}
      (popped : dropExpected .bool "if" state.stack = .ok stack) :
      Enters (.ifThenElse location thenBody elseBody) state elseBody
        ⟨stack, .empty :: state.scopes⟩
  | block {location body} {state : State} :
      Enters (.block location body) state body ⟨state.stack, .empty :: state.scopes⟩

/-- While statements are checked from a state, the checker comes to a statement among
them, at any depth, in a state of its own. -/
inductive Visits : (room : Nat) → List Statement → State → Statement → State → Prop
  | here {room statement rest state} :
      Visits (room + 1) (statement :: rest) state statement state
  | inside {room statement rest state body bodyState visited visitState}
      (enters : Enters statement state body bodyState)
      (visits : Visits room body bodyState visited visitState) :
      Visits (room + 1) (statement :: rest) state visited visitState
  | later {room statement rest state between visited visitState}
      (checked : checkStatement (checkStatements room) statement state = .ok () between)
      (visits : Visits (room + 1) rest between visited visitState) :
      Visits (room + 1) (statement :: rest) state visited visitState

theorem Enters.isBody {statement : Statement} {state bodyState : State}
    {body : List Statement} (enters : Enters statement state body bodyState) :
    ∃ known, (known, body) ∈ statement.bodies := by
  cases enters with
  | definition => exact ⟨_, .head _⟩
  | onlyBranch => exact ⟨_, .head _⟩
  | thenBranch => exact ⟨_, .head _⟩
  | elseBranch => exact ⟨_, .tail _ (.head _)⟩
  | block => exact ⟨_, .head _⟩

theorem Visits.mem {room : Nat} {statements : List Statement} {state visitState : State}
    {visited : Statement} (visits : Visits room statements state visited visitState) :
    visited ∈ Statement.everyNested statements := by
  induction visits with
  | here => exact Statement.mem_everyNested_head (Statement.mem_withNested_self _)
  | inside enters _ member =>
      rcases enters.isBody with ⟨known, isBody⟩
      exact Statement.mem_everyNested_head
        (Statement.mem_withNested_of_body isBody member)
  | later _ _ member => exact Statement.mem_everyNested_tail member

end Typing

end StackLanguage
