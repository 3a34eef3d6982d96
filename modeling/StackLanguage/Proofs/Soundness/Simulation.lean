import StackLanguage.Proofs.Evaluation.Bodies
import StackLanguage.Proofs.Soundness.Agreement

namespace StackLanguage

/-! Running statements that check: from a machine that agrees with the state that they
were checked from, the run ends in a machine that agrees with the state after the check or
stops as expected. -/

open Typing (IsChecked State)

/-- The lists inside statements declare in time, or whatever is overtaken when it runs is
found to be what it was checked as. -/
def IsHarmless (premises : Premises) (limit room : Nat) (list : List Statement)
    (machine : Machine) : Prop :=
  premises.inTime ∨ ∀ current now state, Run.Moment limit room list machine current now →
    premises.visited current state → IsOvertaken state now current →
    Fits state now current

namespace IsHarmless

variable {premises : Premises} {limit room : Nat} {statement : Statement}
    {rest : List Statement}
variable {machine : Machine}

theorem inside
    (harmless : IsHarmless premises limit (room + 1) (statement :: rest) machine)
    {body : List Statement} {bodyMachine : Machine}
    (enters : Run.Enters limit statement machine body bodyMachine) :
    IsHarmless premises limit room body bodyMachine :=
  harmless.imp_right fun fits current now state moment =>
    fits current now state (.inside enters moment)

theorem later
    (harmless : IsHarmless premises limit (room + 1) (statement :: rest) machine)
    {between : Machine}
    (ran : Run.statement (Run.statements limit room) limit statement machine =
      .ok () between) : IsHarmless premises limit (room + 1) rest between :=
  harmless.imp_right fun fits current now state moment =>
    fits current now state (.later ran moment)

theorem fits (harmless : IsHarmless premises limit (room + 1) (statement :: rest) machine)
    {known : List Typing.Scope} {outer : List Scope} {state after : State}
    (agrees : Agrees premises known outer (statement :: rest) state machine)
    {body : List Statement → Typing.Check Unit}
    (checked : Typing.checkStatement body statement state = .ok () after)
    (visited : premises.visited statement state) : Fits state machine statement := by
  by_cases overtaken : IsOvertaken state machine statement
  · cases harmless with
    | inl strict => exact absurd overtaken (agrees.not_overtaken strict)
    | inr fits => exact fits _ _ _ .here visited overtaken
  · exact agrees.fits checked overtaken

end IsHarmless

def RunsSoundly (premises : Premises) (limit room : Nat) : Prop :=
  ∀ {known outer list state after machine},
    IsChecked premises.visited list state after →
    Agrees premises known outer list state machine →
    IsHarmless premises limit room list machine →
    Ends (Run.statements limit room list) machine
      (fun _ left => Agrees premises known outer [] after left)
      (HasStopped premises outer)

section Statements

variable {premises : Premises} {limit room : Nat} {known : List Typing.Scope}
    {outer : List Scope}
variable {statement : Statement} {rest : List Statement} {state : State}
    {machine : Machine}

theorem RunsSoundly.inScope (sound : RunsSoundly premises limit room)
    (agrees : Agrees premises known outer (statement :: rest) state machine)
    (declaresNothing : statement.declared? = none) {body : List Statement}
    (isBody : ([], body) ∈ statement.bodies) {values : List Value}
    {types : List ValueType} (fits : StackFits values types) {bodyAfter : State}
    (checked : IsChecked premises.visited body ⟨types, .empty :: state.scopes⟩ bodyAfter)
    (harmless : IsHarmless premises limit room body (machine.inner values)) :
    Ends (Run.inScope (Run.statements limit room body)) { machine with stack := values }
      (fun _ left =>
        Agrees premises known outer rest { state with stack := bodyAfter.stack } left)
      (HasStopped premises outer) := by
  apply Run.inScope_ends
  refine Ends.mono (sound checked (agrees.inner isBody fits) harmless) ?_ ?_
  · intro _ left agreesLeft
    exact agrees.unchanged declaresNothing rfl (by rw [agreesLeft.scopes]; rfl)
      agreesLeft.stack
  · intro stop left stopped
    exact agrees.hasStopped stopped.isExpected (by rw [stopped.scopes]; rfl)

theorem Typing.checkResult_fits {name : String} {result : Option ValueType}
    {types : List ValueType} (kept : Typing.checkResult name result types = .ok ())
    {values : List Value} (fits : StackFits values types) :
    result = none ∧ values = [] ∨
      ∃ type value,
        result = some type ∧ values = [value] ∧ type.accepts value.type = true := by
  cases fits with
  | nil =>
      cases result with
      | none => exact .inl ⟨rfl, rfl⟩
      | some declared => cases kept
  | @cons value actual values types top fits =>
      cases result with
      | none => cases kept
      | some declared =>
          cases fits with
          | cons second fits => cases kept
          | nil =>
              simp only [Typing.checkResult] at kept
              split at kept
              · next accepted =>
                  exact .inr ⟨declared, value, rfl, rfl,
                    ValueType.accepts_trans accepted top⟩
              · cases kept

theorem Agrees.callee {location : Location} {name : String}
    (agrees : Agrees premises known outer (.call location name :: rest) state machine)
    (fits : Fits state machine (.call location name)) {after : State}
    {body : List Statement → Typing.Check Unit}
    (checked : Typing.checkStatement body (.call location name) state = .ok () after) :
    ∃ function inner defining bodyKnown types scope bodyAfter typesBelow,
      lookupFunction? machine.scopes name = some (function, inner, defining) ∧
      function.parameters.length ≤ machine.stack.length ∧
      function.ChecksIn premises defining bodyKnown types scope bodyAfter ∧
      Agrees premises bodyKnown defining function.body ⟨types, scope :: bodyKnown⟩
        (machine.enter function defining) ∧
      StackFits (machine.stack.drop function.parameters.length) typesBelow ∧
      after = { state with stack := function.result.toList ++ typesBelow } := by
  rcases fits with ⟨signature, function, inner, defining, signatureFound, found, rfl⟩
  rcases Typing.Check.call_ok checked with ⟨used, stack, usedFound, effect, rfl⟩
  rw [Typing.lookup?_function, signatureFound] at usedFound
  cases usedFound
  rcases agrees.wellTyped.lookupFunction found with
    ⟨⟨bodyKnown, types, scope, bodyAfter, checks⟩, wellTyped⟩
  unfold Typing.callEffect at effect
  cases dropped :
      Typing.dropArguments (name ++ "()") function.signature.parameters.reverse
        state.stack with
  | error cause => rw [dropped] at effect; cases effect
  | ok typesBelow =>
      rw [dropped] at effect
      cases effect
      rcases Typing.dropArguments_fits dropped agrees.stack with
        ⟨arguments, below, stackIs, argumentsFit, belowFits⟩
      have count : arguments.length = function.parameters.length := by
        simpa [Function.signature, Signature.of] using argumentsFit.length_eq
      have taken : machine.stack.take function.parameters.length = arguments := by
        rw [stackIs, ← count, List.take_left]
      have left : machine.stack.drop function.parameters.length = below := by
        rw [stackIs, ← count, List.drop_left]
      refine ⟨function, inner, defining, bodyKnown, types, scope, bodyAfter, typesBelow,
        found, ?_, checks, checks.enter wellTyped (taken ▸ argumentsFit),
        left ▸ belowFits, rfl⟩
      rw [stackIs, List.length_append]
      omega

theorem call_sound (sound : RunsSoundly premises limit room) {location : Location}
    {name : String}
    (agrees : Agrees premises known outer (.call location name :: rest) state machine)
    (fits : Fits state machine (.call location name)) {after : State}
    {body : List Statement → Typing.Check Unit}
    (checked : Typing.checkStatement body (.call location name) state = .ok () after)
    (harmless :
      IsHarmless premises limit (room + 1) (.call location name :: rest) machine) :
    Ends (Run.call (Run.statements limit room) limit location name) machine
      (fun _ left => Agrees premises known outer rest after left)
      (HasStopped premises outer) := by
  rcases agrees.callee fits checked with
    ⟨function, inner, defining, bodyKnown, types, scope,
      bodyAfter, typesBelow, found, supplied, checks, entered, belowFits, rfl⟩
  have restored : ∀ left : Machine, left.scopes = left.scope :: defining →
      inner ++ left.scopes.tail = machine.scopes := by
    intro left scopes
    rw [scopes]
    exact (lookupFunction?_split found).1
  by_cases allowed : machine.depth < limit
  · have ends :=
      sound checks.checked entered (harmless.inside (.call found allowed supplied))
    unfold Ends at ends ⊢
    rw [Run.call_eq found allowed supplied]
    cases outcome :
      Run.statements limit room function.body (machine.enter function defining) with
    | error stop left =>
        rw [outcome] at ends
        exact agrees.hasStopped ends.isExpected (restored left ends.scopes)
    | ok _ left =>
        rw [outcome] at ends
        rcases Typing.checkResult_fits checks.result ends.stack with
          ⟨noResult, isEmpty⟩ | ⟨type, value, result, single, accepted⟩
        · simp only [noResult]
          exact agrees.unchanged rfl rfl (restored left ends.scopes) belowFits
        · simp only [result, single]
          exact agrees.unchanged rfl rfl (restored left ends.scopes)
            (.cons accepted belowFits)
  · unfold Ends
    rw [Run.call_refused found (by omega)]
    refine agrees.hasStopped ?_ rfl
    rfl

theorem Agrees.binds {location : Location} {name : String} {type : ValueType}
    {initial : Option Value}
    (agrees : Agrees premises known outer (.bind location name type initial :: rest) state
      machine)
    {scope : Typing.Scope} (declared : state.scope.declareVariable name type = .ok scope)
    {value : Value} (accepted : type.accepts value.type = true) {values : List Value}
    {types : List ValueType} (fits : StackFits values types) :
    Agrees premises known outer rest ⟨types, scope :: state.scopes.tail⟩
      ({ machine with stack := values }.changeScope (·.bind name ⟨type, value⟩)) := by
  have stateScope : state.scope = machine.scope.declarations := by
    rw [State.scope, agrees.declared]
    rfl
  rw [stateScope] at declared
  rcases Typing.Scope.declareVariable_ok declared with ⟨scopeIs, extension⟩
  have bound : (machine.scope.bind name ⟨type, value⟩).declarations = scope := by
    rw [scopeIs, Scope.declarations_bind]
  rw [← bound] at extension ⊢
  have wellTyped := agrees.wellTyped
  rw [agrees.scopes] at wellTyped
  have outerIs : machine.scopes.tail = outer := by rw [agrees.scopes]; rfl
  refine ⟨by rw [← outerIs]; rfl, by rw [agrees.declared]; rfl, agrees.around, fits, ?_,
    fun strict => (agrees.inTime strict).declaring rfl extension fun _ _ isFound =>
      .inl isFound⟩
  change WellTyped premises (machine.scope.bind name ⟨type, value⟩ :: machine.scopes.tail)
  rw [outerIs]
  exact wellTyped.bind accepted extension.within
    fun strict inside _ _ isFound _ isExpected =>
      (agrees.inTime strict).unguarded rfl extension inside isFound isExpected

theorem Agrees.defines {location : Location} {name : String} {parameters : List Parameter}
    {result : Option ValueType} {body : List Statement}
    (agrees :
      Agrees premises known outer (.define location name parameters result body :: rest)
        state machine)
    {scope : Typing.Scope}
    (declared : state.scope.declareFunction name (.of parameters result) = .ok scope)
    {types : List ValueType} {bodyScope : Typing.Scope} {bodyAfter : State}
    (starts : Typing.StartsBody parameters types bodyScope)
    (checked :
      IsChecked premises.visited body ⟨types, bodyScope :: scope :: state.scopes.tail⟩
        bodyAfter)
    (kept : Typing.checkResult name result bodyAfter.stack = .ok ()) :
    Agrees premises known outer rest { state with scopes := scope :: state.scopes.tail }
      (machine.changeScope (·.define name ⟨name, parameters, result, body⟩)) := by
  have stateScope : state.scope = machine.scope.declarations := by
    rw [State.scope, agrees.declared]
    rfl
  rw [stateScope] at declared
  rcases Typing.Scope.declareFunction_ok declared with ⟨scopeIs, extension⟩
  have defined :
      (machine.scope.define name ⟨name, parameters, result, body⟩).declarations =
        scope := by
    rw [scopeIs, Scope.declarations_define]
    rfl
  rw [← defined] at extension checked ⊢
  have wellTyped := agrees.wellTyped
  rw [agrees.scopes] at wellTyped
  have outerIs : machine.scopes.tail = outer := by rw [agrees.scopes]; rfl
  have knownIs : state.scopes.tail = known := by rw [agrees.declared]; rfl
  refine ⟨by rw [← outerIs]; rfl, by rw [knownIs]; rfl, agrees.around, agrees.stack, ?_,
    fun strict =>
      (agrees.inTime strict).declaring rfl extension fun other function isFound => ?_⟩
  · change WellTyped premises (machine.scope.define name _ :: machine.scopes.tail)
    rw [outerIs]
    rw [knownIs] at checked
    refine wellTyped.define ?_ extension.within
      fun strict inside _ _ isFound _ isExpected =>
        (agrees.inTime strict).unguarded rfl extension inside isFound isExpected
    exact ⟨_, types, bodyScope, bodyAfter,
      ⟨.cons (Typing.Scope.Within.refl _) agrees.around,
        starts, checked, kept,
        fun strict => (agrees.inTime strict).definition extension.within⟩⟩
  · change (machine.scope.functions.set name _).get? other = some function at isFound
    rw [Table.get?_set] at isFound
    split at isFound
    · cases isFound
      exact .inr rfl
    · exact .inl isFound

theorem Agrees.pops (agrees : Agrees premises known outer rest state machine)
    {expected : ValueType} {what : String} {types : List ValueType}
    (popped : Typing.dropExpected expected what state.stack = .ok types) :
    ∃ value values, machine.stack = value :: values ∧ expected.accepts value.type = true ∧
      StackFits values types := by
  rcases Typing.dropExpected_ok popped with ⟨actual, stackIs, accepted⟩
  have fits := agrees.stack
  rw [stackIs] at fits
  generalize machine.stack = values at fits
  cases fits with
  | cons top below => exact ⟨_, _, rfl, ValueType.accepts_trans accepted top, below⟩

theorem statement_sound (sound : RunsSoundly premises limit room)
    (agrees : Agrees premises known outer (statement :: rest) state machine)
    (visited : premises.visited statement state) (wellFormed : statement.IsWellFormed)
    {checkRoom : Nat} {after : State}
    (checked : Typing.checkStatement (Typing.checkStatements checkRoom) statement state =
      .ok () after)
    (bodies : ∀ {body bodyState bodyAfter}, Typing.Enters statement state body bodyState →
      Typing.checkStatements checkRoom body bodyState = .ok () bodyAfter →
      IsChecked premises.visited body bodyState bodyAfter)
    (harmless : IsHarmless premises limit (room + 1) (statement :: rest) machine) :
    Ends (Run.statement (Run.statements limit room) limit statement) machine
      (fun _ left => Agrees premises known outer rest after left)
      (HasStopped premises outer) := by
  have fits := harmless.fits agrees checked visited
  cases statement with
  | push location value =>
      rw [Typing.Check.push_ok checked]
      exact agrees.keeps rfl ⟨.cons (ValueType.accepts_refl _) agrees.stack, rfl⟩
  | word location name =>
      rcases Typing.Check.word_ok checked with ⟨word, stack, found, effect, rfl⟩
      simp only [Run.statement, found]
      exact agrees.keeps rfl (Run.word_keeps effect agrees.stack)
  | operator location symbol =>
      rcases Typing.Check.operator_ok checked with ⟨stack, effect, rfl⟩
      exact agrees.keeps rfl (Run.operator_keeps wellFormed effect agrees.stack)
  | load location name =>
      rcases fits with ⟨type, value, typeFound, found, accepted⟩
      rcases Typing.Check.load_ok checked with ⟨used, usedFound, rfl⟩
      rw [Typing.lookup?_value, typeFound] at usedFound
      cases usedFound
      have loaded :
          Run.statement (Run.statements limit room) limit (.load location name) machine =
            .ok () { machine with stack := value :: machine.stack } := by
        simp only [Run.statement, Run.get_bind, found]
        rfl
      apply agrees.keeps rfl
      unfold Run.KeepsScopes Ends
      rw [loaded]
      exact ⟨.cons accepted agrees.stack, rfl⟩
  | call location name => exact call_sound sound agrees fits checked harmless
  | bind location name type initial =>
      rcases Typing.Check.bind_ok checked with ⟨stack, scope, popped, declared, rfl⟩
      cases initial with
      | some value =>
          cases popped
          exact agrees.binds declared wellFormed agrees.stack
      | none =>
          rcases agrees.pops popped with ⟨value, values, valuesAre, accepted, stackFits⟩
          apply Ends.bind
          unfold Ends
          rw [Run.pop_eq valuesAre]
          exact agrees.binds declared accepted stackFits
  | define location name parameters result body =>
      rcases Typing.Check.define_ok checked with
        ⟨scope, stack, bodyScope, inner, declared, starts, bodyChecked, kept, rfl⟩
      rw [Typing.checkStatements_tail bodyChecked]
      exact agrees.defines declared starts
        (bodies (.definition declared starts) bodyChecked) kept
  | ifThen location thenBody =>
      rcases Typing.Check.ifThen_ok checked with
        ⟨stack, inner, popped, bodyChecked, same, rfl⟩
      rcases agrees.pops popped with ⟨condition, values, valuesAre, _, stackFits⟩
      rw [Typing.checkStatements_tail bodyChecked]
      cases holds : condition.isTruthy with
      | true =>
          rw [← same]
          refine Ends.of_eq ?_ (Run.ifThen_true valuesAre holds)
          exact sound.inScope agrees rfl (.head _) stackFits
            (bodies (.onlyBranch popped) bodyChecked)
            (harmless.inside (.onlyBranch valuesAre holds))
      | false =>
          refine Ends.of_eq ?_ (Run.ifThen_false valuesAre holds)
          exact agrees.unchanged rfl rfl rfl stackFits
  | ifThenElse location thenBody elseBody =>
      rcases Typing.Check.ifThenElse_ok checked with
        ⟨stack, thenInner, elseInner, popped, thenChecked, elseChecked, same, rfl⟩
      rcases agrees.pops popped with ⟨condition, values, valuesAre, _, stackFits⟩
      rw [Typing.checkStatements_tail thenChecked] at elseChecked
      rw [Typing.checkStatements_tail elseChecked]
      cases holds : condition.isTruthy with
      | true =>
          refine Ends.of_eq ?_ (Run.ifThenElse_true valuesAre holds)
          exact sound.inScope agrees rfl (.head _) stackFits
            (bodies (.thenBranch popped) thenChecked)
            (harmless.inside (.thenBranch valuesAre holds))
      | false =>
          refine Ends.of_eq ?_ (Run.ifThenElse_false valuesAre holds)
          rw [← same]
          exact sound.inScope agrees rfl (.tail _ (.head _)) stackFits
            (bodies (.elseBranch popped) elseChecked)
            (harmless.inside (.elseBranch valuesAre holds))
  | block location body =>
      rcases Typing.Check.block_ok checked with ⟨inner, bodyChecked, rfl⟩
      rw [Typing.checkStatements_tail bodyChecked]
      exact sound.inScope agrees rfl (.head _) agrees.stack (bodies .block bodyChecked)
        (harmless.inside .block)
  | unknown => exact absurd checked Typing.Check.unknown_not_ok

end Statements

theorem runsSoundly (premises : Premises) (limit room : Nat) :
    RunsSoundly premises limit room := by
  induction room with
  | zero =>
      intro known outer list state after machine _ agrees _
      refine agrees.hasStopped ?_ rfl
      rfl
  | succ room sound =>
      intro known outer list
      induction list with
      | nil =>
          intro state after machine checked agrees _
          rw [checked.nil]
          exact agrees
      | cons statement rest induction =>
          intro state after machine checked agrees harmless
          rcases checked.cons with
            ⟨visited, wellFormed, checkRoom, between, first, remaining, bodies⟩
          have ends :=
            statement_sound sound agrees visited wellFormed first bodies harmless
          unfold Ends at ends ⊢
          rw [Run.statements_cons]
          cases ran :
            Run.statement (Run.statements limit room) limit statement machine with
          | error stop left => rw [ran] at ends; exact ends
          | ok _ left =>
              rw [ran] at ends
              exact induction remaining ends (harmless.later ran)

end StackLanguage
