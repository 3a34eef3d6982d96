import StackLanguage.Proofs.Typing.HiddenNames

namespace StackLanguage

/-! A function may have its arguments in variables or on its stack. A body that loads all
of them, and mentions none of their names after that, is accepted exactly when the body
without the loads is accepted as that of a function with the arguments on the stack. -/

namespace Typing

variable {parameters : List (ValueType × String)}

theorem Scope.ofParameters_named (distinct : (parameters.map (·.2)).Nodup) (scope : Scope)
    (fresh : ∀ name ∈ parameters.map (·.2), scope.types.get? name = none)
    (noFunctions : scope.signatures = .empty) (unnamed : Option ValueType) :
    ∃ bodyScope,
      Scope.ofParameters scope unnamed (Parameter.named parameters) = .ok bodyScope ∧
        bodyScope.signatures = .empty ∧
        (∀ type name, (type, name) ∈ parameters → bodyScope.types.get? name = some type) ∧
        ∀ name, name ∉ parameters.map (·.2) →
          bodyScope.types.get? name = scope.types.get? name := by
  induction parameters generalizing scope with
  | nil => exact ⟨scope, rfl, noFunctions, nofun, fun _ _ => rfl⟩
  | cons parameter rest induction =>
      obtain ⟨type, name⟩ := parameter
      obtain ⟨notAgain, distinctRest⟩ := List.nodup_cons.mp distinct
      have declared : scope.declareVariable name type =
          .ok { scope with types := scope.types.set name type } := by
        simp [declareVariable, Table.contains, noFunctions, fresh name (.head _)]
      have freshRest : ∀ other ∈ rest.map (·.2),
          (scope.types.set name type).get? other = none := by
        intro other member
        have different : other ≠ name := fun same => notAgain (same ▸ member)
        rw [Table.get?_set, if_neg different]
        exact fresh other (.tail _ member)
      obtain ⟨bodyScope, made, signatures, types, others⟩ :=
        induction distinctRest { scope with types := scope.types.set name type } freshRest
          noFunctions
      refine ⟨bodyScope, ?_, signatures, ?_, ?_⟩
      · change (scope.declareVariable name type >>= fun declaring =>
          Scope.ofParameters declaring unnamed (Parameter.named rest)) = _
        rw [declared]
        exact made
      · intro otherType other member
        rcases List.mem_cons.mp member with same | member
        · cases same
          rw [others _ notAgain, Table.get?_set, if_pos rfl]
        · exact types otherType other member
      · intro other absent
        have different : other ≠ name := fun same => absent (same ▸ .head _)
        have absentRest : other ∉ rest.map (·.2) := fun member => absent (.tail _ member)
        rw [others other absentRest, Table.get?_set, if_neg different]

/-! ## Loading all arguments -/

theorem checkStatements_cons_of_ok {room : Nat} {statement : Statement}
    {rest : List Statement} {state between : State}
    (checked : checkStatement (checkStatements room) statement state = .ok () between) :
    checkStatements (room + 1) (statement :: rest) state =
      checkStatements (room + 1) rest between := by
  rw [checkStatements_cons, checked]

theorem checkStatements_loads {loads : List Statement}
    (isLoads : Statement.Load (parameters.map (·.2)) loads) (room : Nat)
    {scopes : List Scope}
    (found : ∀ type name,
      (type, name) ∈ parameters → lookupVariable? scopes name = some type)
    (stack : List ValueType) :
    checkStatements (room + 1) loads ⟨stack, scopes⟩ =
      .ok () ⟨(parameters.map (·.1)).reverse ++ stack, scopes⟩ := by
  induction parameters generalizing loads stack with
  | nil =>
      cases isLoads
      rfl
  | cons parameter rest induction =>
      obtain ⟨type, name⟩ := parameter
      cases isLoads with
      | @cons location _ _ loads loadsRest =>
          have loaded : loadedType scopes name = .ok type := by
            rw [loadedType, found type name (.head _)]
          have first : checkStatement (checkStatements room) (.load location name)
              ⟨stack, scopes⟩ = .ok () ⟨type :: stack, scopes⟩ := by
            change EStateM.bind (Check.located location (loadedType scopes name)) _ _ = _
            rw [loaded]
            rfl
          rw [checkStatements_cons_of_ok first,
            induction loadsRest fun otherType other member =>
              found otherType other (.tail _ member),
            List.map_cons, List.reverse_cons, List.append_assoc]
          rfl

theorem inside_loads {loads : List Statement}
    (isLoads : Statement.Load (parameters.map (·.2)) loads) (room : Nat)
    (body : List Statement) {scope : Scope}
    (types : ∀ type name, (type, name) ∈ parameters → scope.types.get? name = some type)
    (state : State) :
    Check.inside [] scope (checkStatements room (loads ++ body)) state =
      Check.inside (parameters.map (·.1)).reverse scope (checkStatements room body)
        state := by
  cases room with
  | zero => rfl
  | succ room =>
      have found (type : ValueType) (name : String) (member : (type, name) ∈ parameters) :
          lookupVariable? (scope :: state.scopes) name = some type := by
        rw [lookupVariable?, List.findSome?_cons, types type name member]
      have same : checkStatements (room + 1) (loads ++ body) ⟨[], scope :: state.scopes⟩ =
          checkStatements (room + 1) body
            ⟨(parameters.map (·.1)).reverse, scope :: state.scopes⟩ := by
        rw [checkStatements_append]
        change EStateM.bind _ _ _ = _
        unfold EStateM.bind
        rw [checkStatements_loads isLoads room found [], List.append_nil]
      unfold Check.inside
      rw [same]

/-! ## Definitions -/

theorem checkDefinition_eq {body : List Statement → Check Unit} {location : Location}
    {name : String} {formals : List Parameter} {result : Option ValueType}
    {statements : List Statement} {state : State} {scope bodyScope : Scope}
    {stack : List ValueType}
    (declared : state.scope.declareFunction name (.of formals result) = .ok scope)
    (starts : StartsBody formals stack bodyScope) :
    checkDefinition body location name formals result statements state =
      (Check.promised (Check.inside stack bodyScope (body statements)) >>= fun left =>
        Check.located location (checkResult name result left))
          (state.withScope scope) := by
  have first :
      Check.changeScope location (·.declareFunction name (.of formals result)) state =
        .ok () (state.withScope scope) := by
    change EStateM.bind
      (Check.located location (state.scope.declareFunction name _)) _ _ = _
    rw [declared]
    rfl
  unfold checkDefinition
  change EStateM.bind _ _ state = _
  unfold EStateM.bind
  rw [first]
  dsimp only
  unfold StartsBody at starts
  by_cases named : Parameter.areNamed formals = true
  · rw [if_pos named] at starts
    obtain ⟨rfl, made⟩ := starts
    simp only [Signature.of, named, if_true, made]
    rfl
  · rw [if_neg named] at starts
    obtain ⟨rfl, rfl⟩ := starts
    simp only [Signature.of, named, Bool.false_eq_true, if_false]
    rfl

theorem lookAlike_withScope {scope : Scope} {scopes : List Scope}
    {signature other : Signature} (sameEffect : signature.SameEffect other)
    (name : String) :
    LookAlike []
      ({ scope with signatures := scope.signatures.set name signature } :: scopes)
      ({ scope with signatures := scope.signatures.set name other } :: scopes) := by
  have same (scope : Scope) : Scope.LooksLike [] scope scope :=
    (Scope.IsLike.refl scope).looks
  refine .cons ⟨fun _ _ => rfl, fun another => ?_⟩
    (List.forall₂_same.mpr fun scope _ => same scope)
  simp only [Table.get?_set]
  by_cases isName : another = name
  · rw [if_pos isName, if_pos isName]
    exact .some sameEffect
  · rw [if_neg isName, if_neg isName]
    exact (same scope).effects another

theorem checkDefinition_named_iff {name : String} {state : State}
    (undeclared : state.scope.types.get? name = none ∧
      state.scope.signatures.get? name = none)
    (nonempty : parameters ≠ []) (distinct : (parameters.map (·.2)).Nodup)
    {loads body others : List Statement}
    (isLoads : Statement.Load (parameters.map (·.2)) loads)
    (alike : Statement.AllAlike body others)
    (avoid : Statement.Avoid (parameters.map (·.2)) body) (room : Nat)
    (location other : Location) (result : Option ValueType) :
    (∃ after,
      checkDefinition (checkStatements room) location name (Parameter.named parameters)
        result (loads ++ body) state = .ok () after) ↔
      ∃ after,
        checkDefinition (checkStatements room) other name (Parameter.unnamed parameters)
          result others state = .ok () after := by
  have declared (signature : Signature) : state.scope.declareFunction name signature =
      .ok { state.scope with
        signatures := state.scope.signatures.set name signature } := by
    simp [Scope.declareFunction, Table.contains, undeclared.1, undeclared.2]
  obtain ⟨bodyScope, made, signatures, types, noOthers⟩ :=
    Scope.ofParameters_named distinct .empty (fun _ _ => rfl) rfl none
  have namedStarts : StartsBody (Parameter.named parameters) [] bodyScope := by
    rw [StartsBody, if_pos (Parameter.areNamed_named nonempty)]
    exact ⟨rfl, made⟩
  have unnamedStarts : StartsBody (Parameter.unnamed parameters)
      (parameters.map (·.1)).reverse .empty := by
    rw [StartsBody, if_neg (by simp [Parameter.areNamed_unnamed]),
      Parameter.types_unnamed]
    exact ⟨rfl, rfl⟩
  have hidesNames : Scope.IsLike (parameters.map (·.2)) bodyScope .empty := by
    refine ⟨fun another visible => (noOthers another visible).symm, fun another => ?_⟩
    rw [signatures]
    rfl
  have bodies : (besides (LookAlike [])).Alongside Eq
      (Check.inside (parameters.map (·.1)).reverse bodyScope (checkStatements room body))
      (Check.inside (parameters.map (·.1)).reverse .empty
        (checkStatements room others)) :=
    inside_besides (checkStatements_besides room alike avoid)
      (checkStatements_keepsOuter room body) (checkStatements_keepsOuter room others) _
      hidesNames fun _ _ look =>
        look.mono fun _ isHidden => (List.not_mem_nil isHidden).elim
  have withoutLoads : Check.inside [] bodyScope (checkStatements room (loads ++ body)) =
      Check.inside (parameters.map (·.1)).reverse bodyScope (checkStatements room body) :=
    funext (inside_loads isLoads room body types)
  have ending : (besides (LookAlike [])).Alongside Eq
      (Check.promised
        (Check.inside [] bodyScope (checkStatements room (loads ++ body))) >>=
        fun left => Check.located location (checkResult name result left))
      (Check.promised (Check.inside (parameters.map (·.1)).reverse .empty
        (checkStatements room others)) >>=
        fun left => Check.located other (checkResult name result left)) := by
    rw [withoutLoads]
    refine (promised_besides bodies).bind ?_
    rintro left _ rfl
    exact located_besides (.refl _)
  have sameEffect : (Signature.of (Parameter.named parameters) result).SameEffect
      (.of (Parameter.unnamed parameters) result) :=
    ⟨(Parameter.types_unnamed parameters).trans (Parameter.types_named parameters).symm,
      rfl⟩
  rw [checkDefinition_eq (declared _) namedStarts,
    checkDefinition_eq (declared _) unnamedStarts]
  exact (ending _ _ ⟨_, lookAlike_withScope sameEffect name, rfl⟩).through_iff fun _ => id

end Typing

end StackLanguage
