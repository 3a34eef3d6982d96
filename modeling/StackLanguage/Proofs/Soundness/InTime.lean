import StackLanguage.Proofs.Soundness.Scopes

namespace StackLanguage

/-! Lists of statements that declare in time, with regard to the scopes that they run
in. -/

open Typing (Overtaken)
open Statement (usedIn declared? DeclaresInTime NestedInTime)

/-- The statements that are still to be run in a scope declare in time, with regard to the
functions that are defined in it already, and nothing that they use is overtaken around
it. -/
structure IsInTime (known : List Typing.Scope) (outer : List Scope) (scope : Scope)
    (rest : List Statement) : Prop where
  nested : NestedInTime rest
  reach : ∀ identifier ∈ usedIn rest, scope.declarations.declares identifier = true ∨
    ¬ Overtaken identifier known (declarationsOf outer)
  declares : outer ≠ [] → ∃ declared,
    (∀ identifier ∈ declared, scope.declarations.declares identifier = true) ∧
      DeclaresInTime declared rest
  guarded : outer ≠ [] → ∀ name function, scope.functions.get? name = some function →
    ∀ identifier ∈ function.expected, identifier ∈ rest.filterMap declared? →
      scope.declarations.declares identifier = true

namespace IsInTime

variable {known : List Typing.Scope} {outer : List Scope} {scope : Scope}
variable {statement : Statement} {rest : List Statement}

theorem usedIn_head {identifier : Identifier} (used : statement.used? = some identifier) :
    identifier ∈ usedIn (statement :: rest) :=
  List.mem_filterMap.mpr
    ⟨statement, Statement.mem_everyNested_head statement.mem_withNested_self, used⟩

theorem usedIn_tail {identifier : Identifier} (used : identifier ∈ usedIn rest) :
    identifier ∈ usedIn (statement :: rest) := by
  rcases List.mem_filterMap.mp used with ⟨inner, member, used⟩
  exact List.mem_filterMap.mpr ⟨inner, Statement.mem_everyNested_tail member, used⟩

theorem usedIn_body {identifier : Identifier} {declared : List Identifier}
    {body : List Statement} (isBody : (declared, body) ∈ statement.bodies)
    (used : identifier ∈ usedIn body) : identifier ∈ usedIn (statement :: rest) := by
  rcases List.mem_filterMap.mp used with ⟨inner, member, used⟩
  exact List.mem_filterMap.mpr ⟨inner,
    Statement.mem_everyNested_head (Statement.mem_withNested_of_body isBody member), used⟩

theorem outermost (nested : NestedInTime rest) : IsInTime [] [] scope rest :=
  ⟨nested, fun _ _ => .inr id, fun inside => absurd rfl inside,
    fun inside => absurd rfl inside⟩

theorem tail (inTime : IsInTime known outer scope (statement :: rest))
    (declaresNothing : statement.declared? = none) : IsInTime known outer scope rest := by
  refine ⟨inTime.nested.tail,
    fun identifier used => inTime.reach identifier (usedIn_tail used),
    fun inside => ?_,
    fun inside name function isFound identifier isExpected declares => ?_⟩
  · rcases inTime.declares inside with ⟨declared, inScope, _, remaining⟩
    rw [declaresNothing] at remaining
    exact ⟨declared, inScope, remaining⟩
  · refine inTime.guarded inside name function isFound identifier isExpected ?_
    rwa [List.filterMap_cons_none declaresNothing]

section Declaring

variable {identifier : Identifier} {declaration : Declaration} {extended : Scope}

theorem declaring (inTime : IsInTime known outer scope (statement :: rest))
    (declares : statement.declared? = some identifier)
    (extension : scope.declarations.Extends identifier declaration extended.declarations)
    (functions : ∀ name function, extended.functions.get? name = some function →
      scope.functions.get? name = some function ∨
        function.expected = statement.expected) : IsInTime known outer extended rest := by
  refine ⟨inTime.nested.tail, fun other used => ?_, fun inside => ?_,
    fun inside name function isFound other isExpected declaresOther => ?_⟩
  · exact (inTime.reach other (usedIn_tail used)).imp_left extension.within.declares
  · rcases inTime.declares inside with ⟨declared, inScope, _, remaining⟩
    rw [declares] at remaining
    refine ⟨_, fun other member => ?_, remaining⟩
    rw [extension.declares_iff]
    exact (List.mem_cons.mp member).imp_right (inScope other)
  · cases functions name function isFound with
    | inl before =>
        apply extension.within.declares
        apply inTime.guarded inside name function before other isExpected
        rw [List.filterMap_cons_some declares]
        exact List.mem_cons_of_mem _ declaresOther
    | inr asStated =>
        rcases inTime.declares inside with ⟨declared, inScope, first, _⟩
        have member := first other (asStated ▸ isExpected) declaresOther
        rw [declares] at member
        rw [extension.declares_iff]
        exact (List.mem_cons.mp member).imp_right (inScope other)

theorem unguarded (inTime : IsInTime known outer scope (statement :: rest))
    (declares : statement.declared? = some identifier)
    (extension : scope.declarations.Extends identifier declaration extended.declarations)
    (inside : outer ≠ []) {name : String} {function : Function}
    (isFound : scope.functions.get? name = some function) {other : Identifier}
    (isExpected : other ∈ function.expected)
    (declaresOther : extended.declarations.declares other = true) :
    scope.declarations.declares other = true := by
  cases (extension.declares_iff other).mp declaresOther with
  | inl same =>
      subst same
      apply inTime.guarded inside name function isFound other isExpected
      rw [List.filterMap_cons_some declares]
      exact List.mem_cons_self
  | inr before => exact before

end Declaring

theorem definition {location : Location} {name : String} {parameters : List Parameter}
    {result : Option ValueType} {body : List Statement}
    (inTime :
      IsInTime known outer scope (.define location name parameters result body :: rest))
    {extended : Scope} (within : scope.declarations.Within extended.declarations) :
    Function.IsInTime ⟨name, parameters, result, body⟩ (extended.declarations :: known)
      (extended :: outer) := by
  refine ⟨inTime.nested.body (.head _), inTime.nested.declaresInTime (.head _),
    fun identifier isExpected overtaken => ?_⟩
  have used : identifier ∈ usedIn body := (List.mem_filter.mp isExpected).1
  rcases overtaken.of_cons with ⟨missing, overtaken⟩
  cases inTime.reach identifier (usedIn_body (.head _) used) with
  | inl declared => rw [within.declares declared] at missing; cases missing
  | inr notOvertaken => exact notOvertaken overtaken

theorem body (inTime : IsInTime known outer scope (statement :: rest))
    {body : List Statement} (isBody : ([], body) ∈ statement.bodies) :
    IsInTime (scope.declarations :: known) (scope :: outer) .empty body := by
  refine ⟨inTime.nested.body isBody, fun identifier used => .inr fun overtaken => ?_,
    fun _ => ⟨[], nofun, inTime.nested.declaresInTime isBody⟩, fun _ => nofun⟩
  rcases overtaken.of_cons with ⟨missing, overtaken⟩
  cases inTime.reach identifier (usedIn_body isBody used) with
  | inl declared => rw [missing] at declared; cases declared
  | inr notOvertaken => exact notOvertaken overtaken

end IsInTime

end StackLanguage
