import StackLanguage.Proofs.Evaluation.HiddenNames
import StackLanguage.Proofs.Typing.NamedParameters

namespace StackLanguage

/-! A function that takes its arguments as variables and loads all of them first is the
same function as one that finds them on its stack, for the checker and for its callers. -/

theorem Function.Interchangeable.refl (function : Function) :
    Interchangeable [] function function :=
  .alike (Statement.AllAlike.refl function.body) (Statement.Avoid.none function.body)

/-- Scopes with the same variables and functions, but that the second of two functions may
stand in one where the first stands in the other. -/
structure Scope.SameBut (first second : Function) (scope other : Scope) : Prop where
  bindings : ∀ name, other.bindings.get? name = scope.bindings.get? name
  functions : ∀ name, Option.Rel
    (fun function another => another = function ∨ function = first ∧ another = second)
    (scope.functions.get? name) (other.functions.get? name)

namespace Scope.SameBut

variable {first second : Function} {scope other : Scope}

theorem refl (scope : Scope) : SameBut first second scope scope := by
  refine ⟨fun _ => rfl, fun name => ?_⟩
  cases scope.functions.get? name with
  | none => exact .none
  | some function => exact .some (.inl rfl)

theorem define (scope : Scope) (name : String) :
    SameBut first second (scope.define name first) (scope.define name second) := by
  refine ⟨fun _ => rfl, fun another => ?_⟩
  simp only [Scope.define, Table.get?_set]
  by_cases isName : another = name
  · rw [if_pos isName, if_pos isName]
    exact .some (.inr ⟨rfl, rfl⟩)
  · rw [if_neg isName, if_neg isName]
    exact (refl scope).functions another

theorem isLike (same : SameBut first second scope other)
    (interchangeable : Function.Interchangeable [] first second) :
    IsLike [] scope other := by
  refine ⟨fun name _ => same.bindings name, fun name => ?_⟩
  have entries := same.functions name
  generalize scope.functions.get? name = entry at entries ⊢
  generalize other.functions.get? name = otherEntry at entries ⊢
  cases entries with
  | none => exact .none
  | some eitherWay =>
      rcases eitherWay with rfl | ⟨rfl, rfl⟩
      · exact .some (.refl _)
      · exact .some interchangeable

end Scope.SameBut

theorem ScopesAlike.of_sameBut {first second : Function}
    (interchangeable : Function.Interchangeable [] first second)
    {scopes others : List Scope}
    (same : List.Forall₂ (Scope.SameBut first second) scopes others) :
    ScopesAlike [] scopes others := by
  induction same with
  | nil => exact .nil
  | cons head _ induction =>
      exact .cons (List.Subset.refl []) (head.isLike interchangeable) induction

theorem Run.call_sameBut {first second : Function}
    (interchangeable : Function.Interchangeable [] first second) (limit room : Nat)
    (location other : Location) (name : String) (machine : Machine) {others : List Scope}
    (same : List.Forall₂ (Scope.SameBut first second) machine.scopes others) :
    (besides (· = machine.scopes ∧ · = others)).Outcomes Eq
      (Run.statement (statements limit room) limit (.call location name) machine)
      (Run.statement (statements limit room) limit (.call other name)
        { machine with scopes := others }) := by
  have alike :=
    call_besides (fun _ _ _ => statements_besides limit room) location other name
      machine { machine with scopes := others }
      ⟨others, .of_sameBut interchangeable same, rfl⟩
  refine (alike.and_ends (statement_ends_scopes limit room (.call location name) machine)
    (statement_ends_scopes limit room (.call other name)
      { machine with scopes := others })).mono ?_
  rintro after _ ⟨⟨scopes, -, rfl⟩, kept, otherKept⟩
  exact ⟨scopes, ⟨kept, otherKept⟩, rfl⟩

/-- Parameters with names and the same parameters without names make the same function, if
the names differ, the body with names starts with loads of all of them and neither body
mentions them further. Wherever the name of the function is not declared yet, the checker
accepts both definitions or none. Carried out on a machine they leave scopes that are the
same but for the function. On machines with such scopes, calls of any name leave the same
stack, output, input and number of calls and come to the same end, up to the place of an
error, and all scopes are as they were. -/
theorem definition_forms_agree {parameters : List (ValueType × String)}
    (nonempty : parameters ≠ []) (distinct : (parameters.map (·.2)).Nodup)
    {loads body others : List Statement}
    (isLoads : Statement.Load (parameters.map (·.2)) loads)
    (alike : Statement.AllAlike body others)
    (avoid : Statement.Avoid (parameters.map (·.2)) body) (name : String)
    (result : Option ValueType) (location other : Location) :
    let named : Statement :=
      .define location name (Parameter.named parameters) result (loads ++ body)
    let unnamed : Statement :=
      .define other name (Parameter.unnamed parameters) result others
    let first : Function := ⟨name, Parameter.named parameters, result, loads ++ body⟩
    let second : Function := ⟨name, Parameter.unnamed parameters, result, others⟩
    (∀ (room : Nat) (state : Typing.State),
      state.scope.types.get? name = none → state.scope.signatures.get? name = none →
      ((∃ after,
        Typing.checkStatement (Typing.checkStatements room) named state = .ok () after) ↔
        ∃ after, Typing.checkStatement (Typing.checkStatements room) unnamed state =
          .ok () after)) ∧
    (∀ (limit room : Nat) (machine : Machine), ∃ scopes otherScopes,
      Run.statement (Run.statements limit room) limit named machine =
        .ok () { machine with scopes := scopes } ∧
      Run.statement (Run.statements limit room) limit unnamed machine =
        .ok () { machine with scopes := otherScopes } ∧
      List.Forall₂ (Scope.SameBut first second) scopes otherScopes) ∧
    ∀ (limit room : Nat) (machine : Machine) (otherScopes : List Scope) (callee : String)
      (calling otherCalling : Location),
      List.Forall₂ (Scope.SameBut first second) machine.scopes otherScopes →
      (Run.besides (· = machine.scopes ∧ · = otherScopes)).Outcomes Eq
        (Run.statement (Run.statements limit room) limit (.call calling callee) machine)
        (Run.statement (Run.statements limit room) limit (.call otherCalling callee)
          { machine with scopes := otherScopes }) := by
  refine ⟨fun room state noVariable noFunction => ?_, fun limit room machine => ?_,
    fun limit room machine otherScopes callee calling otherCalling same => ?_⟩
  · exact Typing.checkDefinition_named_iff ⟨noVariable, noFunction⟩ nonempty distinct
      isLoads alike avoid room location other result
  · exact ⟨_, _, rfl, rfl, .cons (.define _ name)
      (List.forall₂_same.mpr fun scope _ => .refl scope)⟩
  · exact Run.call_sameBut (.forms rfl nonempty distinct isLoads alike avoid) limit
      room calling otherCalling callee machine same

theorem definition_forms_agree_difference :
    let parameters := [(ValueType.int, "a"), (.int, "b")]
    let place : Location := ⟨"<input>", ⟨1, 1⟩⟩
    let loads : List Statement := [.load place "a", .load place "b"]
    let body : List Statement := [.operator place "-"]
    let first : Function :=
      ⟨"minus", Parameter.named parameters, some .int, loads ++ body⟩
    let second : Function := ⟨"minus", Parameter.unnamed parameters, some .int, body⟩
    let machine : Machine :=
      ⟨[.int 2, .int 5], [Scope.empty.define "minus" first], "", [], 0, 0⟩
    let otherScopes := [Scope.empty.define "minus" second]
    (∃ after, Typing.checkStatement (Typing.checkStatements 2)
      (.define place "minus" (Parameter.unnamed parameters) (some .int) body) .initial =
        .ok () after) ∧
    (Run.besides (· = machine.scopes ∧ · = otherScopes)).Outcomes Eq
      (.ok () { machine with stack := [.int 3], calls := 1 })
      (Run.statement (Run.statements 1 1) 1 (.call place "minus")
        { machine with scopes := otherScopes }) := by
  intro parameters place loads body first second machine otherScopes
  have agree := definition_forms_agree (by decide : parameters ≠ []) (by decide)
    (.cons (.cons .nil) : Statement.Load (parameters.map (·.2)) loads)
    (Statement.AllAlike.refl body) (by decide) "minus" (some .int) place place
  exact ⟨(agree.1 2 .initial rfl rfl).mp ⟨_, rfl⟩,
    agree.2.2 1 1 machine otherScopes "minus" place place (.cons (.define _ _) .nil)⟩

end StackLanguage
