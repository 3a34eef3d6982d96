import StackLanguage.Proofs.Soundness.InTime

namespace StackLanguage

/-! When a machine agrees with what the checker believes: the values on its stack fit the
types, its innermost scope has the same declarations, and the scopes around it have at
least those that the checker knew. Names that are looked up further out must not be
overtaken. -/

open Typing (AllWithin Overtaken IsChecked StartsBody)

def Fits (state : Typing.State) (machine : Machine) : Statement → Prop
  | .load _ name => ∃ type value,
      Typing.lookupVariable? state.scopes name = some type ∧
      lookupVariable? machine.scopes name = some value ∧ type.accepts value.type = true
  | .call _ name => ∃ signature function inner defining,
      Typing.lookupFunction? state.scopes name = some signature ∧
      lookupFunction? machine.scopes name = some (function, inner, defining) ∧
      function.signature = signature
  | _ => True

/-- What a statement uses was further out when it was checked than it is now. -/
def IsOvertaken (state : Typing.State) (machine : Machine) (statement : Statement) :
    Prop :=
  ∃ identifier, statement.used? = some identifier ∧
    Overtaken identifier state.scopes (declarationsOf machine.scopes)

/-- A machine that is about to run statements in its innermost scope agrees with the state
that they were checked from. -/
structure Agrees (premises : Premises) (known : List Typing.Scope) (outer : List Scope)
    (rest : List Statement) (state : Typing.State) (machine : Machine) : Prop where
  scopes : machine.scopes = machine.scope :: outer
  declared : state.scopes = machine.scope.declarations :: known
  around : AllWithin known (declarationsOf outer)
  stack : StackFits machine.stack state.stack
  wellTyped : WellTyped premises machine.scopes
  inTime : premises.inTime → IsInTime known outer machine.scope rest

structure HasStopped (premises : Premises) (outer : List Scope) (stop : Stop)
    (machine : Machine) : Prop where
  isExpected : stop.IsExpected
  scopes : machine.scopes = machine.scope :: outer
  wellTyped : WellTyped premises machine.scopes

namespace Agrees

variable {premises : Premises} {known : List Typing.Scope} {outer : List Scope}
variable {statement : Statement} {rest : List Statement} {state : Typing.State}
    {machine : Machine}

theorem allWithin (agrees : Agrees premises known outer rest state machine) :
    AllWithin state.scopes (declarationsOf machine.scopes) := by
  rw [agrees.scopes, agrees.declared]
  exact .cons (Typing.Scope.Within.refl _) agrees.around

theorem not_overtaken
    (agrees : Agrees premises known outer (statement :: rest) state machine)
    (strict : premises.inTime) : ¬ IsOvertaken state machine statement := by
  rintro ⟨identifier, used, overtaken⟩
  rw [agrees.scopes, agrees.declared] at overtaken
  rcases overtaken.of_cons with ⟨missing, overtaken⟩
  cases (agrees.inTime strict).reach identifier (IsInTime.usedIn_head used) with
  | inl declared => rw [missing] at declared; cases declared
  | inr notOvertaken => exact notOvertaken overtaken

theorem fits (agrees : Agrees premises known outer (statement :: rest) state machine)
    {body : List Statement → Typing.Check Unit} {after : Typing.State}
    (checked : Typing.checkStatement body statement state = .ok () after)
    (notOvertaken : ¬ IsOvertaken state machine statement) :
    Fits state machine statement := by
  cases statement with
  | load location name =>
      rcases Typing.Check.load_ok checked with ⟨type, found, _⟩
      have actual := Typing.lookup?_of_not_overtaken agrees.allWithin found
        fun overtaken => notOvertaken ⟨_, rfl, overtaken⟩
      rcases agrees.wellTyped.exists_lookupVariable actual with ⟨value, isFound, accepted⟩
      rw [Typing.lookup?_value, Option.map_eq_some_iff] at found
      rcases found with ⟨_, found, ⟨⟩⟩
      exact ⟨type, value, found, isFound, accepted⟩
  | call location name =>
      rcases Typing.Check.call_ok checked with ⟨signature, _, found, _⟩
      have actual := Typing.lookup?_of_not_overtaken agrees.allWithin found
        fun overtaken => notOvertaken ⟨_, rfl, overtaken⟩
      rcases exists_lookupFunction? actual with ⟨function, inner, defining, isFound, same⟩
      rw [Typing.lookup?_function, Option.map_eq_some_iff] at found
      rcases found with ⟨_, found, ⟨⟩⟩
      exact ⟨signature, function, inner, defining, found, isFound, same⟩
  | _ => trivial

theorem unchanged (agrees : Agrees premises known outer (statement :: rest) state machine)
    (declaresNothing : statement.declared? = none) {after : Typing.State}
    {machineAfter : Machine} (sameState : after.scopes = state.scopes)
    (sameMachine : machineAfter.scopes = machine.scopes)
    (fits : StackFits machineAfter.stack after.stack) :
    Agrees premises known outer rest after machineAfter := by
  have sameScope : machineAfter.scope = machine.scope := by
    simp [Machine.scope, sameMachine]
  refine ⟨?_, ?_, agrees.around, fits, ?_, fun strict => ?_⟩
  · rw [sameMachine, sameScope, agrees.scopes]
  · rw [sameState, sameScope, agrees.declared]
  · rw [sameMachine]; exact agrees.wellTyped
  · rw [sameScope]; exact (agrees.inTime strict).tail declaresNothing

theorem hasStopped (agrees : Agrees premises known outer rest state machine) {stop : Stop}
    (isExpected : stop.IsExpected) {machineAfter : Machine}
    (same : machineAfter.scopes = machine.scopes) :
    HasStopped premises outer stop machineAfter := by
  refine ⟨isExpected, ?_, ?_⟩
  · rw [Machine.scope, same, ← Machine.scope, agrees.scopes]
  · rw [same]; exact agrees.wellTyped

theorem keeps (agrees : Agrees premises known outer (statement :: rest) state machine)
    (declaresNothing : statement.declared? = none) {run : Run Unit}
    {types : List ValueType}
    (keepsScopes : Run.KeepsScopes run machine fun _ after =>
      StackFits after.stack types) :
    Ends run machine
      (fun _ after =>
        Agrees premises known outer rest { state with stack := types } after)
      (HasStopped premises outer) := by
  refine Ends.mono keepsScopes ?_ ?_
  · rintro _ after ⟨fits, same⟩
    exact agrees.unchanged declaresNothing rfl same fits
  · rintro stop after ⟨isExpected, same⟩
    exact agrees.hasStopped isExpected same

theorem inner (agrees : Agrees premises known outer (statement :: rest) state machine)
    {body : List Statement} (isBody : ([], body) ∈ statement.bodies) {values : List Value}
    {types : List ValueType} (fits : StackFits values types) :
    Agrees premises state.scopes machine.scopes body ⟨types, .empty :: state.scopes⟩
      (machine.inner values) := by
  refine ⟨rfl, rfl, agrees.allWithin, fits, agrees.wellTyped.empty, fun strict => ?_⟩
  rw [agrees.scopes, agrees.declared]
  exact (agrees.inTime strict).body isBody

end Agrees

theorem Machine.enter_sound {function : Function} {types : List ValueType}
    {scope : Typing.Scope} (starts : StartsBody function.parameters types scope)
    {machine : Machine} (fits : StackFits (machine.stack.take function.parameters.length)
      (function.parameters.map (·.type)).reverse) (defining : List Scope) :
    let entered := machine.enter function defining
    entered.scope.declarations = scope ∧ entered.scope.functions = .empty ∧
      entered.scope.HoldsTypes ∧ StackFits entered.stack types := by
  unfold StartsBody at starts
  unfold Machine.enter
  split at starts
  · next named =>
      rcases starts with ⟨rfl, starts⟩
      have fitsReversed := List.rel_reverse fits
      rw [List.reverse_reverse] at fitsReversed
      rcases Scope.ofArguments_sound starts fitsReversed with ⟨declared, functions, holds⟩
      simp only [named, if_true]
      exact ⟨declared, functions, holds, .nil⟩
  · next unnamed =>
      rcases starts with ⟨rfl, rfl⟩
      simp only [unnamed, Bool.false_eq_true, if_false]
      exact ⟨rfl, rfl, Scope.HoldsTypes.empty, fits⟩

theorem Function.ChecksIn.enter {premises : Premises} {function : Function}
    {defining : List Scope} {known : List Typing.Scope} {types : List ValueType}
    {scope : Typing.Scope} {after : Typing.State}
    (checks : function.ChecksIn premises defining known types scope after)
    (wellTyped : WellTyped premises defining) {machine : Machine}
    (fits : StackFits (machine.stack.take function.parameters.length)
      (function.parameters.map (·.type)).reverse) :
    Agrees premises known defining function.body ⟨types, scope :: known⟩
      (machine.enter function defining) := by
  rcases machine.enter_sound checks.starts fits defining with
    ⟨declared, functions, holds, stackFits⟩
  have definesNothing : ∀ name found,
      (machine.enter function defining).scope.functions.get? name ≠ some found := by
    intro name found isFound
    rw [functions] at isFound
    cases isFound
  refine ⟨rfl, by rw [declared], checks.within, stackFits, ⟨holds, ?_, wellTyped⟩,
    fun strict => ?_⟩
  · exact fun name found isFound => absurd isFound (definesNothing name found)
  · rcases checks.inTime strict with ⟨nested, declares, reach⟩
    refine ⟨nested, fun identifier used => ?_,
      fun _ => ⟨_, fun identifier member => ?_, declares⟩,
      fun _ name found isFound => absurd isFound (definesNothing name found)⟩
    · rw [declared, checks.starts.declares_iff]
      by_cases isParameter : identifier ∈ Parameter.identifiers function.parameters
      · exact .inl isParameter
      · exact .inr (reach identifier
          (List.mem_filter.mpr ⟨used, by simpa using isParameter⟩))
    · rw [declared, checks.starts.declares_iff]
      exact member

end StackLanguage
