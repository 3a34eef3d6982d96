import Mathlib.Data.List.Forall2
import StackLanguage.Proofs.Program.Nesting
import StackLanguage.Typing.Checking

namespace StackLanguage

/-! Declarations in the scopes of the checker, variables and functions alike, and how the
scopes that were known at one time compare with scopes to which more was added since. -/

inductive Declaration where
  | value (type : ValueType)
  | function (signature : Signature)
deriving DecidableEq

namespace Typing

namespace Scope

def declaration? (scope : Scope) : Identifier → Option Declaration
  | ⟨.value, name⟩ => (scope.types.get? name).map .value
  | ⟨.function, name⟩ => (scope.signatures.get? name).map .function

def declares (scope : Scope) (identifier : Identifier) : Bool :=
  (scope.declaration? identifier).isSome

def Within (part whole : Scope) : Prop :=
  ∀ identifier declaration, part.declaration? identifier = some declaration →
    whole.declaration? identifier = some declaration

theorem Within.refl (scope : Scope) : Within scope scope := fun _ _ found => found

theorem Within.trans {first second third : Scope} (left : Within first second)
    (right : Within second third) : Within first third :=
  fun identifier declaration found => right _ _ (left identifier declaration found)

theorem Within.declares {part whole : Scope} (within : Within part whole)
    {identifier : Identifier} (declared : part.declares identifier = true) :
    whole.declares identifier = true := by
  rcases Option.isSome_iff_exists.mp declared with ⟨declaration, found⟩
  simp [Scope.declares, within _ _ found]

@[simp] theorem declaration?_empty (identifier : Identifier) :
    empty.declaration? identifier = none := by
  rcases identifier with ⟨_ | _, name⟩ <;> rfl

@[simp] theorem declares_empty (identifier : Identifier) :
    empty.declares identifier = false := by
  simp [declares]

/-- A scope with one more declaration. What it had declared is declared as before: the
same identifier can be declared again in one way only. -/
structure Extends (scope : Scope) (identifier : Identifier) (declaration : Declaration)
    (extended : Scope) : Prop where
  declared : extended.declaration? identifier = some declaration
  other : ∀ different, different ≠ identifier →
    extended.declaration? different = scope.declaration? different
  previous : ∀ earlier,
    scope.declaration? identifier = some earlier → earlier = declaration

namespace Extends

variable {scope extended : Scope} {identifier : Identifier} {declaration : Declaration}

theorem within (extension : Extends scope identifier declaration extended) :
    Within scope extended := by
  intro other found isFound
  by_cases same : other = identifier
  · subst same
    rw [extension.declared, extension.previous _ isFound]
  · rw [extension.other _ same, isFound]

theorem declares_iff (extension : Extends scope identifier declaration extended)
    (other : Identifier) :
    extended.declares other = true ↔
      other = identifier ∨ scope.declares other = true := by
  by_cases same : other = identifier
  · subst same
    simp [declares, extension.declared]
  · simp [declares, extension.other _ same, same]

end Extends

theorem declareVariable_ok {scope changed : Scope} {name : String} {type : ValueType}
    (declared : scope.declareVariable name type = .ok changed) :
    changed = { scope with types := scope.types.set name type } ∧
      Extends scope ⟨.value, name⟩ (.value type) changed := by
  unfold declareVariable at declared
  split at declared
  · cases declared
  have changedEq : changed = { scope with types := scope.types.set name type } ∧
      ∀ earlier, scope.types.get? name = some earlier → earlier = type := by
    split at declared
    · next previous found =>
        split at declared
        · next same =>
            cases declared
            exact ⟨rfl, fun earlier isFound =>
              (Option.some.inj (isFound.symm.trans found)).trans same⟩
        · cases declared
    · next missing =>
        cases declared
        exact ⟨rfl, fun earlier isFound => by cases missing.symm.trans isFound⟩
  obtain ⟨rfl, previous⟩ := changedEq
  refine ⟨rfl, ?_, ?_, ?_⟩
  · simp [declaration?]
  · rintro ⟨_ | _, other⟩ different
    · simp_all [declaration?]
    · rfl
  · intro earlier isFound
    simp only [declaration?, Option.map_eq_some_iff] at isFound
    rcases isFound with ⟨earlierType, isFound, rfl⟩
    rw [previous _ isFound]

theorem declareFunction_ok {scope changed : Scope} {name : String} {signature : Signature}
    (declared : scope.declareFunction name signature = .ok changed) :
    changed = { scope with signatures := scope.signatures.set name signature } ∧
      Extends scope ⟨.function, name⟩ (.function signature) changed := by
  unfold declareFunction at declared
  split at declared
  · cases declared
  have changedEq : changed =
      { scope with signatures := scope.signatures.set name signature } ∧
      ∀ earlier, scope.signatures.get? name = some earlier → earlier = signature := by
    split at declared
    · next previous found =>
        split at declared
        · next same =>
            cases declared
            exact ⟨rfl, fun earlier isFound =>
              (Option.some.inj (isFound.symm.trans found)).trans same⟩
        · cases declared
    · next missing =>
        cases declared
        exact ⟨rfl, fun earlier isFound => by cases missing.symm.trans isFound⟩
  obtain ⟨rfl, previous⟩ := changedEq
  refine ⟨rfl, ?_, ?_, ?_⟩
  · simp [declaration?]
  · rintro ⟨_ | _, other⟩ different
    · rfl
    · simp_all [declaration?]
  · intro earlier isFound
    simp only [declaration?, Option.map_eq_some_iff] at isFound
    rcases isFound with ⟨earlierSignature, isFound, rfl⟩
    rw [previous _ isFound]

end Scope

/-! ## Looking up through scopes -/

def lookup? (scopes : List Scope) (identifier : Identifier) : Option Declaration :=
  scopes.findSome? (·.declaration? identifier)

theorem lookup?_value (scopes : List Scope) (name : String) :
    lookup? scopes ⟨.value, name⟩ = (lookupVariable? scopes name).map .value := by
  induction scopes with
  | nil => rfl
  | cons scope outer induction =>
      simp only [lookup?, lookupVariable?, List.findSome?_cons,
        Scope.declaration?] at induction ⊢
      cases scope.types.get? name <;> simp [induction]

theorem lookup?_function (scopes : List Scope) (name : String) :
    lookup? scopes ⟨.function, name⟩ = (lookupFunction? scopes name).map .function := by
  induction scopes with
  | nil => rfl
  | cons scope outer induction =>
      simp only [lookup?, lookupFunction?, List.findSome?_cons,
        Scope.declaration?] at induction ⊢
      cases scope.signatures.get? name <;> simp [induction]

abbrev AllWithin (known actual : List Scope) : Prop :=
  List.Forall₂ Scope.Within known actual

theorem AllWithin.refl (scopes : List Scope) : AllWithin scopes scopes :=
  List.forall₂_same.mpr fun scope _ => Scope.Within.refl scope

/-- An identifier is overtaken when the actual scopes declare it further in than the known
ones. -/
def Overtaken (identifier : Identifier) : (known actual : List Scope) → Prop
  | scope :: known, actualScope :: actual =>
      scope.declares identifier = false ∧
        if actualScope.declares identifier then known.any (·.declares identifier) = true
        else Overtaken identifier known actual
  | _, _ => False

theorem lookup?_of_not_overtaken {known actual : List Scope}
    (within : AllWithin known actual) {identifier : Identifier}
    {declaration : Declaration} (found : lookup? known identifier = some declaration)
    (notOvertaken : ¬ Overtaken identifier known actual) :
    lookup? actual identifier = some declaration := by
  induction within with
  | nil => exact found
  | @cons scope actualScope known actual head tail induction =>
      simp only [lookup?, List.findSome?_cons] at found ⊢
      cases here : scope.declaration? identifier with
      | some declared =>
          simp only [here, Option.some.injEq] at found
          simp [head _ _ here, found]
      | none =>
          simp only [here] at found
          simp only [Overtaken, Scope.declares, here, Option.isSome_none,
            true_and] at notOvertaken
          have someDeclares : known.any (·.declares identifier) = true := by
            rcases List.exists_of_findSome?_eq_some found with
              ⟨declaring, member, declared⟩
            exact List.any_eq_true.mpr
              ⟨declaring, member, by simp [Scope.declares, declared]⟩
          cases actualHere : actualScope.declaration? identifier with
          | some declared =>
              simp only [actualHere, Option.isSome_some, if_true] at notOvertaken
              exact absurd someDeclares notOvertaken
          | none =>
              simp only [actualHere, Option.isSome_none, Bool.false_eq_true, if_false]
                at notOvertaken
              exact induction found notOvertaken

theorem Overtaken.of_cons {identifier : Identifier} {scope : Scope}
    {known actual : List Scope}
    (overtaken : Overtaken identifier (scope :: known) (scope :: actual)) :
    scope.declares identifier = false ∧ Overtaken identifier known actual := by
  rcases overtaken with ⟨missing, overtaken⟩
  simp only [missing, Bool.false_eq_true, if_false] at overtaken
  exact ⟨missing, overtaken⟩

end Typing

end StackLanguage
