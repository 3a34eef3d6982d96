import StackLanguage.Proofs.Alongside
import StackLanguage.Proofs.Program.Alike
import StackLanguage.Proofs.Typing.Visits

namespace StackLanguage

/-! Checks of statements that are the same up to places, in scopes that differ in
variables which the statements do not mention: one succeeds where the other does, with the
same stack. -/

def Signature.SameEffect (signature other : Signature) : Prop :=
  other.parameters = signature.parameters ∧ other.result = signature.result

namespace Typing

def FitsWhere {Result : Type} (results : Result → Result → Prop) :
    Except TypeError Result → Except TypeError Result → Prop
  | .ok result, .ok other => results result other
  | .error _, .error _ => True
  | _, _ => False

theorem FitsWhere.refl {Result : Type} (outcome : Except TypeError Result) :
    FitsWhere Eq outcome outcome := by
  cases outcome with
  | ok result => exact rfl
  | error cause => exact trivial

namespace Scope

structure IsLike (hidden : List String) (scope other : Scope) : Prop where
  types : ∀ name, name ∉ hidden → other.types.get? name = scope.types.get? name
  signatures : ∀ name, other.signatures.get? name = scope.signatures.get? name

structure LooksLike (hidden : List String) (scope other : Scope) : Prop where
  types : ∀ name, name ∉ hidden → other.types.get? name = scope.types.get? name
  effects : ∀ name,
    Option.Rel Signature.SameEffect (scope.signatures.get? name)
      (other.signatures.get? name)

variable {hidden : List String} {scope other : Scope}

theorem IsLike.refl (scope : Scope) : IsLike hidden scope scope :=
  ⟨fun _ _ => rfl, fun _ => rfl⟩

theorem IsLike.looks (like : IsLike hidden scope other) :
    LooksLike hidden scope other := by
  refine ⟨like.types, fun name => ?_⟩
  rw [like.signatures name]
  cases scope.signatures.get? name with
  | none => exact .none
  | some signature => exact .some ⟨rfl, rfl⟩

theorem LooksLike.mono (looks : LooksLike hidden scope other) {more : List String}
    (subset : hidden ⊆ more) : LooksLike more scope other :=
  ⟨fun name visible => looks.types name fun member => visible (subset member),
    looks.effects⟩

theorem declareVariable_alike (like : IsLike hidden scope other) {name : String}
    (visible : name ∉ hidden) (type : ValueType) :
    FitsWhere (IsLike hidden) (scope.declareVariable name type)
      (other.declareVariable name type) := by
  have set : IsLike hidden { scope with types := scope.types.set name type }
      { other with types := other.types.set name type } := by
    refine ⟨fun another isVisible => ?_, like.signatures⟩
    simp only [Table.get?_set, like.types another isVisible]
  have sameFunction : other.signatures.contains name = scope.signatures.contains name :=
    congrArg Option.isSome (like.signatures name)
  unfold declareVariable
  rw [sameFunction, like.types name visible]
  by_cases isFunction : scope.signatures.contains name = true
  · rw [if_pos isFunction, if_pos isFunction]
    trivial
  · rw [if_neg isFunction, if_neg isFunction]
    cases scope.types.get? name with
    | none => exact set
    | some previous =>
        by_cases same : previous = type
        · simp only [if_pos same]
          exact set
        · simp only [if_neg same]
          trivial

theorem declareFunction_alike (like : IsLike hidden scope other) {name : String}
    (visible : name ∉ hidden) (signature : Signature) :
    FitsWhere (IsLike hidden) (scope.declareFunction name signature)
      (other.declareFunction name signature) := by
  have set :
      IsLike hidden { scope with signatures := scope.signatures.set name signature }
        { other with signatures := other.signatures.set name signature } := by
    refine ⟨like.types, fun another => ?_⟩
    simp only [Table.get?_set, like.signatures another]
  have sameVariable : other.types.contains name = scope.types.contains name :=
    congrArg Option.isSome (like.types name visible)
  unfold declareFunction
  rw [sameVariable, like.signatures]
  by_cases isVariable : scope.types.contains name = true
  · rw [if_pos isVariable, if_pos isVariable]
    trivial
  · rw [if_neg isVariable, if_neg isVariable]
    cases scope.signatures.get? name with
    | none => exact set
    | some previous =>
        by_cases same : previous = signature
        · simp only [if_pos same]
          exact set
        · simp only [if_neg same]
          trivial

end Scope

/-! ## Scopes side by side -/

/-- The innermost scopes are like each other, and the scopes around them look the same. -/
inductive ScopesAlike (hidden : List String) : List Scope → List Scope → Prop
  | nil : ScopesAlike hidden [] []
  | cons {scope other outer others} (innermost : Scope.IsLike hidden scope other)
      (around : List.Forall₂ (Scope.LooksLike hidden) outer others) :
      ScopesAlike hidden (scope :: outer) (other :: others)

abbrev LookAlike (hidden : List String) : List Scope → List Scope → Prop :=
  List.Forall₂ (Scope.LooksLike hidden)

section Lookups

variable {hidden : List String} {scopes others : List Scope}

theorem ScopesAlike.look (alike : ScopesAlike hidden scopes others) :
    LookAlike hidden scopes others := by
  cases alike with
  | nil => exact .nil
  | cons innermost around => exact .cons innermost.looks around

theorem LookAlike.mono (alike : LookAlike hidden scopes others) {more : List String}
    (subset : hidden ⊆ more) : LookAlike more scopes others :=
  alike.imp fun _ _ looks => looks.mono subset

theorem LookAlike.lookupVariable? (alike : LookAlike hidden scopes others) {name : String}
    (visible : name ∉ hidden) :
    lookupVariable? others name = lookupVariable? scopes name := by
  unfold Typing.lookupVariable?
  induction alike with
  | nil => rfl
  | cons head _ induction =>
      rw [List.findSome?_cons, List.findSome?_cons, head.types name visible, induction]

theorem LookAlike.lookupFunction? (alike : LookAlike hidden scopes others)
    (name : String) :
    Option.Rel Signature.SameEffect (lookupFunction? scopes name)
      (lookupFunction? others name) := by
  unfold Typing.lookupFunction?
  induction alike with
  | nil => exact .none
  | cons head _ induction =>
      have effects := head.effects name
      rw [List.findSome?_cons, List.findSome?_cons]
      generalize Table.get? _ name = found at effects ⊢
      generalize Table.get? _ name = otherFound at effects ⊢
      cases effects with
      | none => exact induction
      | some same => exact .some same

end Lookups

/-! ## Checks side by side -/

def besides (related : List Scope → List Scope → Prop) :
    Likeness Failure State State where
  states state other :=
    ∃ scopes, related state.scopes scopes ∧ other = { state with scopes }
  causes _ _ := True
  excused _ := False

section Checks

variable {related : List Scope → List Scope → Prop} {location other : Location}

theorem located_besides {Result : Type} {results : Result → Result → Prop}
    {outcome otherOutcome : Except TypeError Result}
    (fits : FitsWhere results outcome otherOutcome) :
    (besides related).Alongside results (Check.located location outcome)
      (Check.located other otherOutcome) := by
  cases outcome <;> cases otherOutcome
  · exact .throw trivial
  · exact fits.elim
  · exact fits.elim
  · exact .pure fits

theorem changeStack_besides
    (change : List ValueType → Except TypeError (List ValueType)) :
    (besides related).Alongside Eq (Check.changeStack location change)
      (Check.changeStack other change) := by
  refine .get ?_
  rintro state _ ⟨scopes, alike, rfl⟩
  refine (located_besides (.refl (change state.stack))).bind ?_ state _
    ⟨scopes, alike, rfl⟩
  rintro stack _ rfl
  refine .modify rfl ?_
  rintro between _ ⟨scopes, alike, rfl⟩
  exact ⟨scopes, alike, rfl⟩

theorem promised_besides {Result : Type} {check otherCheck : Check Result}
    (alongside : (besides related).Alongside Eq check otherCheck) :
    (besides related).Alongside Eq (Check.promised check)
      (Check.promised otherCheck) := by
  intro state otherState states
  have alike := alongside state otherState states
  unfold Check.promised
  generalize check state = outcome at alike ⊢
  generalize otherCheck otherState = otherOutcome at alike ⊢
  rcases outcome with ⟨_, _⟩ | ⟨⟨_, _⟩ | _, _⟩ <;>
    rcases otherOutcome with ⟨_, _⟩ | ⟨⟨_, _⟩ | _, _⟩ <;> exact alike

theorem inside_besides {hidden : List String} {check otherCheck : Check Unit}
    (alongside : (besides (ScopesAlike hidden)).Alongside Eq check otherCheck)
    (keeps : KeepsOuter check) (otherKeeps : KeepsOuter otherCheck)
    (stack : List ValueType) {scope otherScope : Scope}
    (like : Scope.IsLike hidden scope otherScope)
    (look : ∀ scopes others, related scopes others → LookAlike hidden scopes others) :
    (besides related).Alongside Eq (Check.inside stack scope check)
      (Check.inside stack otherScope otherCheck) := by
  rintro state _ ⟨scopes, alike, rfl⟩
  have inner := (alongside ⟨stack, scope :: state.scopes⟩ ⟨stack, otherScope :: scopes⟩
    ⟨_, .cons like (look _ _ alike), rfl⟩).and_ends (keeps _) (otherKeeps _)
  have back {after otherAfter : State}
      (kept : SameOuter ⟨stack, scope :: state.scopes⟩ after)
      (otherKept : SameOuter ⟨stack, otherScope :: scopes⟩ otherAfter) :
      (besides related).states { state with scopes := after.scopes.tail }
        { state with scopes := otherAfter.scopes.tail } := by
    unfold SameOuter at kept otherKept
    rw [kept, otherKept]
    exact ⟨scopes, alike, rfl⟩
  unfold Check.inside
  generalize check _ = outcome at inner ⊢
  generalize otherCheck _ = otherOutcome at inner ⊢
  cases outcome <;> cases otherOutcome
  · obtain ⟨-, ⟨_, -, rfl⟩, kept, otherKept⟩ := inner
    exact ⟨rfl, back kept otherKept⟩
  · exact inner.elim
  · exact inner.elim
  · exact inner.imp_right fun both => ⟨trivial, back both.2.2.1 both.2.2.2⟩

end Checks

/-! ## Statements side by side -/

section Statements

variable {hidden : List String}

theorem ScopesAlike.innermost {scopes others : List Scope}
    (alike : ScopesAlike hidden scopes others) :
    Scope.IsLike hidden (scopes.headD .empty) (others.headD .empty) := by
  cases alike with
  | nil => exact .refl _
  | cons innermost around => exact innermost

theorem ScopesAlike.withInnermost {scopes others : List Scope}
    (alike : ScopesAlike hidden scopes others) {scope other : Scope}
    (like : Scope.IsLike hidden scope other) :
    ScopesAlike hidden (scope :: scopes.tail) (other :: others.tail) := by
  cases alike with
  | nil => exact .cons like .nil
  | cons innermost around => exact .cons like around

theorem changeScope_besides {location other : Location}
    {change : Scope → Except TypeError Scope}
    (alike : ∀ scope otherScope, Scope.IsLike hidden scope otherScope →
      FitsWhere (Scope.IsLike hidden) (change scope) (change otherScope)) :
    (besides (ScopesAlike hidden)).Alongside Eq (Check.changeScope location change)
      (Check.changeScope other change) := by
  refine .get ?_
  rintro state _ ⟨scopes, scopesAlike, rfl⟩
  have changed :=
    alike state.scope (State.scope { state with scopes }) scopesAlike.innermost
  generalize change state.scope = outcome at changed ⊢
  generalize change (State.scope { state with scopes }) = otherOutcome at changed ⊢
  cases outcome <;> cases otherOutcome
  · exact .inr ⟨trivial, scopes, scopesAlike, rfl⟩
  · exact changed.elim
  · exact changed.elim
  · exact ⟨rfl, _, scopesAlike.withInnermost changed, rfl⟩

variable {body : List Statement → Check Unit} (bodyKeeps : ∀ list, KeepsOuter (body list))
variable (bodyBesides : ∀ list others, Statement.AllAlike list others →
  Statement.Avoid hidden list →
  (besides (ScopesAlike hidden)).Alongside Eq (body list) (body others))

include bodyKeeps bodyBesides

theorem body_besides {list others : List Statement}
    (alike : Statement.AllAlike list others) (avoid : Statement.Avoid hidden list)
    (stack : List ValueType) (scope : Scope) :
    (besides (ScopesAlike hidden)).Alongside Eq (Check.inside stack scope (body list))
      (Check.inside stack scope (body others)) :=
  inside_besides (bodyBesides list others alike avoid) (bodyKeeps list)
    (bodyKeeps others) stack (.refl scope) fun _ _ => ScopesAlike.look

theorem checkDefinition_besides {location other : Location} {name : String}
    (visible : name ∉ hidden) (parameters : List Parameter) (result : Option ValueType)
    {list others : List Statement} (alike : Statement.AllAlike list others)
    (avoid : Statement.Avoid hidden list) :
    (besides (ScopesAlike hidden)).Alongside Eq
      (checkDefinition body location name parameters result list)
      (checkDefinition body other name parameters result others) := by
  have ending (start : List ValueType × Scope) :
      (besides (ScopesAlike hidden)).Alongside Eq
        (Check.promised (Check.inside start.1 start.2 (body list)) >>=
          fun left => Check.located location (checkResult name result left))
        (Check.promised (Check.inside start.1 start.2 (body others)) >>=
          fun left => Check.located other (checkResult name result left)) := by
    refine .bind
      (promised_besides (body_besides bodyKeeps bodyBesides alike avoid _ _)) ?_
    rintro left _ rfl
    exact located_besides (.refl _)
  refine .bind (changeScope_besides fun scope otherScope like =>
    Scope.declareFunction_alike like visible _) fun _ _ _ => ?_
  apply Likeness.Alongside.ite Iff.rfl
  · refine .bind (located_besides (.refl _)) ?_
    rintro scope _ rfl
    refine .bind (.pure (Eq.refl ([], scope))) ?_
    rintro start _ rfl
    exact ending start
  · refine .bind (.pure (Eq.refl _)) ?_
    rintro start _ rfl
    exact ending start

theorem checkStatement_besides {statement other : Statement}
    (alike : statement.Alike other) {rest : List Statement}
    (avoid : Statement.Avoid hidden (statement :: rest)) :
    (besides (ScopesAlike hidden)).Alongside Eq (checkStatement body statement)
      (checkStatement body other) := by
  have visible {name : String} (mentions : name ∈ statement.mentioned) : name ∉ hidden :=
    fun isHidden => avoid.head name isHidden mentions
  have inBody {list others : List Statement} {known : List Identifier}
      (isBody : (known, list) ∈ statement.bodies) (alike : Statement.AllAlike list others)
      (stack : List ValueType) :=
    body_besides bodyKeeps bodyBesides alike (avoid.body isBody) stack .empty
  cases alike with
  | @push location other value =>
      exact changeStack_besides fun stack => .ok (value.type :: stack)
  | @word location other name =>
      unfold checkStatement
      dsimp only
      cases BuiltinWord.ofName? name with
      | none => exact .throw trivial
      | some word => exact changeStack_besides _
  | @operator location other symbol => exact changeStack_besides (operatorEffect symbol)
  | @load location other name =>
      refine .get ?_
      rintro state _ ⟨scopes, scopesAlike, rfl⟩
      have loads :
          FitsWhere Eq (loadedType state.scopes name) (loadedType scopes name) := by
        simp only [loadedType, scopesAlike.look.lookupVariable? (visible (.head _))]
        cases lookupVariable? state.scopes name with
        | some type => exact rfl
        | none =>
            cases lookupFunction? state.scopes name <;>
              cases lookupFunction? scopes name <;>
              exact trivial
      refine (located_besides loads).bind ?_ state _ ⟨scopes, scopesAlike, rfl⟩
      rintro type _ rfl
      exact changeStack_besides _
  | @call location other name =>
      refine .get ?_
      rintro state _ ⟨scopes, scopesAlike, rfl⟩
      have calls : FitsWhere Signature.SameEffect (calledSignature state.scopes name)
          (calledSignature scopes name) := by
        have same := scopesAlike.look.lookupFunction? name
        unfold calledSignature
        generalize lookupFunction? state.scopes name = found at same ⊢
        generalize lookupFunction? scopes name = otherFound at same ⊢
        cases same with
        | some same => exact same
        | none =>
            cases lookupVariable? state.scopes name <;>
              cases lookupVariable? scopes name <;>
              exact trivial
      refine (located_besides calls).bind ?_ state _ ⟨scopes, scopesAlike, rfl⟩
      rintro signature otherSignature ⟨sameParameters, sameResult⟩
      have sameEffect : callEffect name otherSignature = callEffect name signature := by
        funext stack
        rw [callEffect, callEffect, sameParameters, sameResult]
      rw [sameEffect]
      exact changeStack_besides _
  | @bind location other name type initial =>
      have declares : (besides (ScopesAlike hidden)).Alongside Eq
          (Check.changeScope location (·.declareVariable name type))
          (Check.changeScope other (·.declareVariable name type)) :=
        changeScope_besides fun _ _ like =>
          Scope.declareVariable_alike like (visible (.head _)) type
      cases initial with
      | none => exact .bind (changeStack_besides _) fun _ _ _ => declares
      | some value => exact declares
  | @define location other name parameters result list others bodyAlike =>
      exact checkDefinition_besides bodyKeeps bodyBesides (visible (.head _))
        parameters result bodyAlike (avoid.body (.head _))
  | ifThen thenAlike =>
      refine .bind (changeStack_besides _) fun _ _ _ => .get ?_
      rintro state _ ⟨scopes, scopesAlike, rfl⟩
      refine (inBody (.head _) thenAlike state.stack).bind ?_ state _
        ⟨scopes, scopesAlike, rfl⟩
      rintro left _ rfl
      exact .ite Iff.rfl (.pure rfl) (.throw trivial)
  | @ifThenElse location other _ _ _ _ thenAlike elseAlike =>
      refine .bind (changeStack_besides _) fun _ _ _ => .get ?_
      rintro state _ ⟨scopes, scopesAlike, rfl⟩
      refine (inBody (.head _) thenAlike state.stack).bind ?_ state _
        ⟨scopes, scopesAlike, rfl⟩
      rintro thenLeft _ rfl
      refine .bind (inBody (.tail _ (.head _)) elseAlike state.stack) ?_
      rintro elseLeft _ rfl
      have stops : (besides (ScopesAlike hidden)).Alongside Eq
          (throw (.error ⟨.unequalBranches, location⟩) : Check Unit)
          (throw (.error ⟨.unequalBranches, other⟩)) :=
        .throw trivial
      exact .ite Iff.rfl (changeStack_besides fun _ => .ok thenLeft)
        (stops.bind fun _ _ _ => changeStack_besides fun _ => .ok thenLeft)
  | @block location other list others bodyAlike =>
      refine .get ?_
      rintro state _ ⟨scopes, scopesAlike, rfl⟩
      refine (inBody (.head _) bodyAlike state.stack).bind ?_ state _
        ⟨scopes, scopesAlike, rfl⟩
      rintro left _ rfl
      exact changeStack_besides fun _ => .ok left
  | unknown => exact .throw trivial

end Statements

theorem checkStatements_besides {hidden : List String} (room : Nat)
    {list others : List Statement} (alike : Statement.AllAlike list others)
    (avoid : Statement.Avoid hidden list) :
    (besides (ScopesAlike hidden)).Alongside Eq (checkStatements room list)
      (checkStatements room others) := by
  -- Induction on the room for bodies, inside it on the list.
  induction room generalizing list others with
  | zero => exact .throw trivial
  | succ room bodyBesides =>
      induction list generalizing others with
      | nil =>
          cases alike
          exact .pure rfl
      | cons statement rest induction =>
          cases alike with
          | cons head tail =>
              exact .bind (checkStatement_besides (checkStatements_keepsOuter room)
                (fun _ _ => bodyBesides) head avoid)
                fun _ _ _ => induction tail avoid.tail

end Typing

end StackLanguage
