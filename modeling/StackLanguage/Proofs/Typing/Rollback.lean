import StackLanguage.Proofs.Ends
import StackLanguage.Typing.Checking

namespace StackLanguage

/-! What a check that fails has done can be undone. Wherever it stops, in whatever bodies,
it has changed the stack and the innermost scope at most, and these are put back. -/

namespace Typing

def SameOuter (before after : State) : Prop := after.scopes.tail = before.scopes.tail

instance SameOuter.isPreorder : IsPreorder State SameOuter where
  refl _ := rfl
  trans _ _ _ same again := again.trans same

abbrev KeepsOuter {Result : Type} (check : Check Result) : Prop := Keeps SameOuter check

namespace KeepsOuter

variable {Result : Type}

theorem located (location : Location) (outcome : Except TypeError Result) :
    KeepsOuter (Check.located location outcome) := by
  cases outcome with
  | ok result => exact Keeps.pure result
  | error cause => exact Keeps.throw _

theorem changeStack (location : Location)
    (change : List ValueType → Except TypeError (List ValueType)) :
    KeepsOuter (Check.changeStack location change) :=
  Keeps.get fun _ => (located location _).bind fun _ _ => rfl

theorem changeScope (location : Location) (change : Scope → Except TypeError Scope) :
    KeepsOuter (Check.changeScope location change) :=
  Keeps.get fun _ => (located location _).bind fun _ _ => rfl

theorem inside (stack : List ValueType) (scope : Scope) {check : Check Unit}
    (keeps : KeepsOuter check) : KeepsOuter (Check.inside stack scope check) := by
  intro state
  have kept := keeps ⟨stack, scope :: state.scopes⟩
  unfold Ends at kept ⊢
  unfold Check.inside
  cases outcome : check ⟨stack, scope :: state.scopes⟩ <;> rw [outcome] at kept <;>
    exact congrArg List.tail kept

theorem promised {check : Check Result} (keeps : KeepsOuter check) :
    KeepsOuter (Check.promised check) := by
  intro state
  have kept := keeps state
  unfold Ends at kept ⊢
  unfold Check.promised
  rcases outcome : check state with ⟨_, _⟩ | ⟨⟨_, _⟩ | _, _⟩ <;> rw [outcome] at kept <;>
    exact kept

variable {body : List Statement → Check Unit}
variable (bodyKeeps : ∀ statements, KeepsOuter (body statements))

include bodyKeeps

theorem checkDefinition (location : Location) (name : String)
    (parameters : List Parameter) (result : Option ValueType)
    (statements : List Statement) :
    KeepsOuter (checkDefinition body location name parameters result statements) := by
  refine (changeScope location _).bind fun _ => ?_
  have ending (start : List ValueType × Scope) :
      KeepsOuter (Check.promised (Check.inside start.1 start.2 (body statements)) >>=
        fun left => Check.located location (checkResult name result left)) :=
    (promised (inside _ _ (bodyKeeps statements))).bind fun _ => located location _
  exact Keeps.ite
    ((located location _).bind fun scope => (Keeps.pure ([], scope)).bind ending)
    ((Keeps.pure _).bind ending)

theorem checkStatement (statement : Statement) :
    KeepsOuter (checkStatement body statement) := by
  cases statement with
  | push location value =>
      exact changeStack location fun stack => .ok (value.type :: stack)
  | word location name =>
      unfold Typing.checkStatement
      dsimp only
      split
      · exact changeStack location _
      · exact Keeps.throw _
  | operator location symbol => exact changeStack location _
  | load location name =>
      exact Keeps.get fun _ => (located location _).bind fun _ => changeStack location _
  | call location name =>
      exact Keeps.get fun _ => (located location _).bind fun _ => changeStack location _
  | bind location name type initial =>
      cases initial with
      | none => exact (changeStack location _).bind fun _ => changeScope location _
      | some value =>
          exact changeScope location (·.declareVariable name type)
  | define location name parameters result statements =>
      exact checkDefinition bodyKeeps location name parameters result statements
  | ifThen location thenBody =>
      exact (changeStack location _).bind fun _ => Keeps.get fun _ =>
        (inside _ _ (bodyKeeps thenBody)).bind fun _ =>
          Keeps.ite (Keeps.pure ()) (Keeps.throw _)
  | ifThenElse location thenBody elseBody =>
      exact (changeStack location _).bind fun _ => Keeps.get fun _ =>
        (inside _ _ (bodyKeeps thenBody)).bind fun _ =>
          (inside _ _ (bodyKeeps elseBody)).bind fun _ =>
            Keeps.ite (changeStack location _)
              ((Keeps.throw _).bind fun _ => changeStack location _)
  | block location statements =>
      exact Keeps.get fun _ =>
        (inside _ _ (bodyKeeps statements)).bind fun _ => changeStack location _
  | unknown location kind => exact Keeps.throw _

end KeepsOuter

/-- A check declares in the innermost scope only, also where it fails. -/
theorem checkStatements_keepsOuter (room : Nat) (statements : List Statement) :
    KeepsOuter (checkStatements room statements) := by
  induction room generalizing statements with
  | zero => exact Keeps.throw _
  | succ room bodyKeeps =>
      induction statements with
      | nil => exact Keeps.pure _
      | cons statement rest induction =>
          exact (KeepsOuter.checkStatement bodyKeeps statement).bind fun _ => induction

theorem checkStatements_tail {room : Nat} {statements : List Statement}
    {state after : State}
    (succeeded : checkStatements room statements state = .ok () after) :
    after.scopes.tail = state.scopes.tail :=
  (checkStatements_keepsOuter room statements state).outcomes.1 _ _ succeeded

/-! ## Putting back -/

theorem State.rolledBack_eq {failed before : State}
    (sameTail : failed.scopes.tail = before.scopes.tail) :
    failed.rolledBack before = before := by
  simp only [rolledBack, sameTail, ← List.drop_one, List.take_append_drop]

theorem checkMore_ok {statements : List Statement} {state after : State}
    (checked : checkMore statements state = (.ok (), after)) :
    checkStatements Program.nestingLimit statements state = .ok () after := by
  unfold checkMore at checked
  split at checked <;> cases checked
  assumption

theorem checkMore_of_ok {statements : List Statement} {state after : State}
    (checked : checkStatements Program.nestingLimit statements state = .ok () after) :
    checkMore statements state = (.ok (), after) := by
  rw [checkMore, checked]

theorem checkMore_error {statements : List Statement} {state after : State}
    {error : Located TypeError}
    (refused : checkMore statements state = (.error error, after)) : after = state := by
  have kept :=
    (checkStatements_keepsOuter Program.nestingLimit statements state).outcomes.2
  unfold checkMore at refused
  split at refused <;> cases refused
  · next failed outcome => exact State.rolledBack_eq (kept _ failed outcome)
  · next failed outcome => exact State.rolledBack_eq (kept _ failed outcome)

end Typing

end StackLanguage
