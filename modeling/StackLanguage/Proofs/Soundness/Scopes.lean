import StackLanguage.Proofs.Soundness.Checked
import StackLanguage.Proofs.Soundness.Parameters

namespace StackLanguage

/-! Scopes of a machine whose contents check: every value is accepted by the type that its
variable was declared with, and every body checks in the scopes that the checker knew at
its definition. More may have been declared in those scopes since. -/

open Typing (AllWithin Overtaken IsChecked StartsBody)

structure Premises where
  inTime : Prop
  visited : Statement → Typing.State → Prop

def Function.expected (function : Function) : List Identifier :=
  (Statement.usedIn function.body).filter fun identifier =>
    identifier ∉ Parameter.identifiers function.parameters

/-- The body of a function declares in time, and finds what it expects in the actual
scopes where the known ones have it. -/
structure Function.IsInTime (function : Function) (known : List Typing.Scope)
    (actual : List Scope) : Prop where
  nested : Statement.NestedInTime function.body
  declares :
    Statement.DeclaresInTime (Parameter.identifiers function.parameters) function.body
  reach : ∀ identifier ∈ function.expected,
    ¬ Overtaken identifier known (declarationsOf actual)

variable (premises : Premises)

/-- A function whose body checks, in scopes that are known and have become the actual
ones. -/
structure Function.ChecksIn (function : Function) (actual : List Scope)
    (known : List Typing.Scope) (stack : List ValueType) (scope : Typing.Scope)
    (after : Typing.State) : Prop where
  within : AllWithin known (declarationsOf actual)
  starts : StartsBody function.parameters stack scope
  checked : IsChecked premises.visited function.body ⟨stack, scope :: known⟩ after
  result : Typing.checkResult function.name function.result after.stack = .ok ()
  inTime : premises.inTime → function.IsInTime known actual

def Function.IsSound (function : Function) (actual : List Scope) : Prop :=
  ∃ known stack scope after, function.ChecksIn premises actual known stack scope after

/-- Scopes whose values have the declared types and whose functions are sound where they
are. -/
def WellTyped : List Scope → Prop
  | [] => True
  | scope :: outer =>
      scope.HoldsTypes ∧
        (∀ name function, scope.functions.get? name = some function →
          function.IsSound premises (scope :: outer)) ∧
        WellTyped outer

variable {premises}

/-- A sound function stays sound when its scope declares more, as long as nothing that the
function expects becomes declared there. Nothing can overtake what the outermost scope
declares. -/
theorem Function.IsSound.extend {function : Function} {scope extended : Scope}
    {outer : List Scope} (sound : function.IsSound premises (scope :: outer))
    (within : Typing.Scope.Within scope.declarations extended.declarations)
    (guarded : premises.inTime → outer ≠ [] → ∀ identifier ∈ function.expected,
      extended.declarations.declares identifier = true →
        scope.declarations.declares identifier = true) :
    function.IsSound premises (extended :: outer) := by
  rcases sound with ⟨known, stack, bodyScope, after, checks⟩
  rcases checks with ⟨knownWithin, starts, checked, result, inTime⟩
  cases knownWithin with
  | @cons knownScope _ knownOuter _ head tail =>
      refine ⟨knownScope :: knownOuter, stack, bodyScope, after,
        ⟨.cons (head.trans within) tail, starts, checked, result, fun strict => ?_⟩⟩
      rcases inTime strict with ⟨nested, declares, reach⟩
      refine ⟨nested, declares, fun identifier isExpected overtaken => ?_⟩
      cases outer with
      | nil =>
          cases tail
          simp [Overtaken, declarationsOf] at overtaken
      | cons next remaining =>
          have same : extended.declarations.declares identifier =
              scope.declarations.declares identifier :=
            Bool.eq_iff_iff.mpr
              ⟨guarded strict (by simp) identifier isExpected, within.declares⟩
          apply reach identifier isExpected
          simp only [declarationsOf_cons, Overtaken, same] at overtaken ⊢
          exact overtaken

namespace WellTyped

theorem empty {outer : List Scope} (wellTyped : WellTyped premises outer) :
    WellTyped premises (.empty :: outer) :=
  ⟨Scope.HoldsTypes.empty, nofun, wellTyped⟩

theorem suffix {inner defining : List Scope}
    (wellTyped : WellTyped premises (inner ++ defining)) :
    WellTyped premises defining := by
  induction inner with
  | nil => exact wellTyped
  | cons scope rest induction => exact induction wellTyped.2.2

theorem lookupFunction {scopes inner defining : List Scope} {name : String}
    {function : Function} (wellTyped : WellTyped premises scopes)
    (found : lookupFunction? scopes name = some (function, inner, defining)) :
    function.IsSound premises defining ∧ WellTyped premises defining := by
  rcases lookupFunction?_split found with ⟨rfl, scope, outer, rfl, here⟩
  exact ⟨wellTyped.suffix.2.1 name function here, wellTyped.suffix⟩

theorem exists_lookupVariable {scopes : List Scope} {name : String} {type : ValueType}
    (wellTyped : WellTyped premises scopes)
    (found : Typing.lookup? (declarationsOf scopes) ⟨.value, name⟩ = some (.value type)) :
    ∃ value,
      lookupVariable? scopes name = some value ∧ type.accepts value.type = true := by
  induction scopes with
  | nil => cases found
  | cons scope outer induction =>
      simp only [Typing.lookup?, declarationsOf_cons, List.findSome?_cons,
        Scope.declaration?_value] at found induction
      simp only [lookupVariable?, List.findSome?_cons]
      cases here : scope.bindings.get? name with
      | some binding =>
          simp only [here, Option.map_some, Option.some.injEq,
            Declaration.value.injEq] at found
          subst found
          exact ⟨binding.value, rfl, wellTyped.1 name binding here⟩
      | none =>
          simp only [here, Option.map_none] at found
          exact induction wellTyped.2.2 found

section Extending

variable {scope : Scope} {outer : List Scope}

theorem bind (wellTyped : WellTyped premises (scope :: outer)) {name : String}
    {binding : Binding} (accepted : binding.type.accepts binding.value.type = true)
    (within :
      Typing.Scope.Within scope.declarations (scope.bind name binding).declarations)
    (guarded : premises.inTime → outer ≠ [] → ∀ other function,
      scope.functions.get? other = some function → ∀ identifier ∈ function.expected,
        (scope.bind name binding).declarations.declares identifier = true →
          scope.declarations.declares identifier = true) :
    WellTyped premises (scope.bind name binding :: outer) := by
  refine ⟨wellTyped.1.bind accepted name, fun other function isFound => ?_, wellTyped.2.2⟩
  exact (wellTyped.2.1 other function isFound).extend within fun strict nested =>
    guarded strict nested other function isFound

theorem define (wellTyped : WellTyped premises (scope :: outer)) {name : String}
    {defined : Function}
    (sound : defined.IsSound premises (scope.define name defined :: outer))
    (within :
      Typing.Scope.Within scope.declarations (scope.define name defined).declarations)
    (guarded : premises.inTime → outer ≠ [] → ∀ other function,
      scope.functions.get? other = some function → ∀ identifier ∈ function.expected,
        (scope.define name defined).declarations.declares identifier = true →
          scope.declarations.declares identifier = true) :
    WellTyped premises (scope.define name defined :: outer) := by
  refine ⟨wellTyped.1, fun other function isFound => ?_, wellTyped.2.2⟩
  simp only [Scope.define, Table.get?_set] at isFound
  split at isFound
  · cases isFound
    exact sound
  · exact (wellTyped.2.1 other function isFound).extend within fun strict nested =>
      guarded strict nested other function isFound

end Extending

end WellTyped

end StackLanguage
