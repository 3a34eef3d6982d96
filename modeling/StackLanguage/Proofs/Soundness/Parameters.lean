import StackLanguage.Proofs.Evaluation.Moments
import StackLanguage.Proofs.Evaluation.Outcome

namespace StackLanguage

/-! The parameters of a function in the scope that its body is checked in, and the
arguments of a call in the scope that its body runs in: both have the same
declarations. -/

namespace Typing

theorem Scope.ofParameters_cons_ok {scope finish : Scope} {unnamed : Option ValueType}
    {parameter : Parameter} {rest : List Parameter}
    (succeeded : ofParameters scope unnamed (parameter :: rest) = .ok finish) :
    ∃ next unnamedNext, ofParameters next unnamedNext rest = .ok finish ∧
      match parameter.name with
      | some name => scope.declareVariable name parameter.type = .ok next
      | none => next = scope := by
  rcases parameter with ⟨type, _ | name⟩
  · cases unnamed with
    | none => exact ⟨scope, some type, succeeded, rfl⟩
    | some previous =>
        simp only [ofParameters] at succeeded
        split at succeeded
        · exact ⟨scope, some type, succeeded, rfl⟩
        · cases succeeded
  · simp only [ofParameters] at succeeded
    cases declared : scope.declareVariable name type with
    | error cause => rw [declared] at succeeded; cases succeeded
    | ok next => rw [declared] at succeeded; exact ⟨next, unnamed, succeeded, declared⟩

theorem Scope.ofParameters_declares_iff {parameters : List Parameter}
    {scope finish : Scope} {unnamed : Option ValueType}
    (succeeded : ofParameters scope unnamed parameters = .ok finish)
    (identifier : Identifier) :
    finish.declares identifier = true ↔
      scope.declares identifier = true ∨
        identifier ∈ parameters.filterMap fun parameter =>
          parameter.name.map (⟨.value, ·⟩) := by
  induction parameters generalizing scope unnamed with
  | nil =>
      cases succeeded
      simp
  | cons parameter rest induction =>
      rcases ofParameters_cons_ok succeeded with ⟨next, unnamedNext, remaining, first⟩
      rw [induction remaining]
      rcases parameter with ⟨type, _ | name⟩
      · cases first
        simp
      · rw [(declareVariable_ok first).2.declares_iff]
        simp only [List.filterMap_cons, Option.map_some, List.mem_cons]
        tauto

theorem StartsBody.declares_iff {parameters : List Parameter} {stack : List ValueType}
    {scope : Scope} (starts : StartsBody parameters stack scope)
    (identifier : Identifier) :
    scope.declares identifier = true ↔ identifier ∈ Parameter.identifiers parameters := by
  unfold StartsBody at starts
  unfold Parameter.identifiers
  split at starts
  · next named =>
      rw [Scope.ofParameters_declares_iff starts.2, if_pos named]
      simp
  · next unnamed =>
      rw [starts.2, if_neg unnamed]
      simp

end Typing

def Scope.HoldsTypes (scope : Scope) : Prop :=
  ∀ name binding, scope.bindings.get? name = some binding →
    binding.type.accepts binding.value.type = true

namespace Scope

theorem HoldsTypes.empty : empty.HoldsTypes := nofun

theorem HoldsTypes.bind {scope : Scope} (holds : scope.HoldsTypes) {binding : Binding}
    (accepted : binding.type.accepts binding.value.type = true) (name : String) :
    (scope.bind name binding).HoldsTypes := by
  intro other found isFound
  simp only [Scope.bind, Table.get?_set] at isFound
  split at isFound
  · cases isFound
    exact accepted
  · exact holds other found isFound

theorem ofArguments_sound {parameters : List Parameter} {arguments : List Value}
    {declared : Typing.Scope}
    (starts : Typing.Scope.ofParameters .empty none parameters = .ok declared)
    (fits : StackFits arguments (parameters.map (·.type))) :
    (ofArguments parameters arguments).declarations = declared ∧
      (ofArguments parameters arguments).functions = .empty ∧
      (ofArguments parameters arguments).HoldsTypes := by
  have noFunctions : empty.functions = .empty := rfl
  have holds : empty.HoldsTypes := HoldsTypes.empty
  rw [← declarations_empty] at starts
  unfold ofArguments
  -- The induction is on the parameters that are left, from any scope that
  -- the earlier ones made.
  generalize empty = start at starts noFunctions holds ⊢
  generalize none = unnamed at starts
  induction parameters generalizing arguments start unnamed with
  | nil =>
      cases starts
      exact ⟨rfl, noFunctions, holds⟩
  | cons parameter rest induction =>
      cases fits with
      | @cons argument _ arguments _ accepted fits =>
          rcases Typing.Scope.ofParameters_cons_ok starts with
            ⟨next, unnamedNext, remaining, first⟩
          rcases parameter with ⟨type, _ | name⟩
          · cases first
            exact induction fits start noFunctions holds unnamedNext remaining
          · rcases Typing.Scope.declareVariable_ok first with ⟨rfl, _⟩
            refine induction fits (start.bind name ⟨type, argument⟩) noFunctions
              (holds.bind accepted name) unnamedNext ?_
            rw [declarations_bind]
            exact remaining

end Scope

end StackLanguage
