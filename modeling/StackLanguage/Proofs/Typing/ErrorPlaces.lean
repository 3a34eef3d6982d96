import StackLanguage.Proofs.Program.Nesting
import StackLanguage.Proofs.Typing.Visits

namespace StackLanguage

/-! Where the errors of the checker are located: at a statement that is checked, however
deep it stands in the bodies of others, and within the first statement of the program that
cannot be checked after those before it. -/

open Statement (everyNested)

namespace Typing

def Failure.IsAmong (nested : List Statement) : Failure → Prop
  | .error failed => ∃ statement ∈ nested, statement.location = failed.location
  | .nestedTooDeep => True

abbrev FailsAmong {Result : Type} (nested : List Statement) (check : Check Result) :
    Prop :=
  StopsFor (Failure.IsAmong nested) check

namespace FailsAmong

variable {Result : Type} {nested : List Statement} {location : Location}

theorem wider {more : List Statement} {check : Check Result}
    (fails : FailsAmong nested check) (subset : nested ⊆ more) :
    FailsAmong more check := by
  refine fails.mono fun failure among => ?_
  cases failure with
  | nestedTooDeep => trivial
  | error error =>
      rcases among with ⟨statement, member, same⟩
      exact ⟨statement, subset member, same⟩

theorem inside (stack : List ValueType) (scope : Scope) {check : Check Unit}
    (fails : FailsAmong nested check) :
    FailsAmong nested (Check.inside stack scope check) := by
  intro state
  have among := fails ⟨stack, scope :: state.scopes⟩
  unfold Ends at among ⊢
  unfold Check.inside
  cases outcome : check ⟨stack, scope :: state.scopes⟩ <;> rw [outcome] at among <;>
    exact among

theorem promised {check : Check Result} (fails : FailsAmong nested check) :
    FailsAmong nested (Check.promised check) := by
  intro state
  have among := fails state
  unfold Ends at among ⊢
  unfold Check.promised
  rcases outcome : check state with ⟨_, _⟩ | ⟨⟨_, _⟩ | _, _⟩ <;> rw [outcome] at among <;>
    exact among

variable (isPlace : ∃ statement ∈ nested, statement.location = location)

include isPlace

theorem located (outcome : Except TypeError Result) :
    FailsAmong nested (Check.located location outcome) := by
  cases outcome with
  | ok result => exact .pure result
  | error cause => exact .throw isPlace

theorem changeStack (change : List ValueType → Except TypeError (List ValueType)) :
    FailsAmong nested (Check.changeStack location change) :=
  .get fun _ => .bind (located isPlace _) fun _ => .modify _

theorem changeScope (change : Scope → Except TypeError Scope) :
    FailsAmong nested (Check.changeScope location change) :=
  .get fun _ => .bind (located isPlace _) fun _ => .modify _

theorem checkDefinition {body : List Statement → Check Unit} {statements : List Statement}
    (bodyFails : FailsAmong nested (body statements)) (name : String)
    (parameters : List Parameter) (result : Option ValueType) :
    FailsAmong nested
      (checkDefinition body location name parameters result statements) := by
  refine .bind (changeScope isPlace _) fun _ => ?_
  have ending (start : List ValueType × Scope) :
      FailsAmong nested
        (Check.promised (Check.inside start.1 start.2 (body statements)) >>=
          fun left => Check.located location (checkResult name result left)) :=
    .bind (promised (inside _ _ bodyFails)) fun _ => located isPlace _
  exact .ite (.bind (located isPlace _) fun scope => .bind (.pure ([], scope)) ending)
    (.bind (.pure _) ending)

end FailsAmong

open FailsAmong in
theorem checkStatement_failsAmong {body : List Statement → Check Unit}
    (bodyFails : ∀ statements, FailsAmong (everyNested statements) (body statements))
    (statement : Statement) :
    FailsAmong statement.withNested (checkStatement body statement) := by
  have isPlace : ∃ inner ∈ statement.withNested, inner.location = statement.location :=
    ⟨statement, statement.mem_withNested_self, rfl⟩
  have ofBody {known : List Identifier} {statements : List Statement}
      (isBody : (known, statements) ∈ statement.bodies) :
      FailsAmong statement.withNested (body statements) :=
    (bodyFails statements).wider fun _ => Statement.mem_withNested_of_body isBody
  cases statement with
  | push location value =>
      exact changeStack isPlace fun stack => .ok (value.type :: stack)
  | word location name =>
      unfold checkStatement
      dsimp only
      split
      · exact changeStack isPlace _
      · exact .throw isPlace
  | operator location symbol => exact changeStack isPlace _
  | load location name =>
      exact .get fun _ => .bind (located isPlace _) fun _ => changeStack isPlace _
  | call location name =>
      exact .get fun _ => .bind (located isPlace _) fun _ => changeStack isPlace _
  | bind location name type initial =>
      cases initial with
      | none => exact .bind (changeStack isPlace _) fun _ => changeScope isPlace _
      | some value => exact changeScope isPlace (·.declareVariable name type)
  | define location name parameters result statements =>
      exact FailsAmong.checkDefinition isPlace (ofBody (.head _)) name parameters result
  | ifThen location thenBody =>
      exact .bind (changeStack isPlace _) fun _ => .get fun _ =>
        .bind (inside _ _ (ofBody (.head _))) fun _ => .ite (.pure ()) (.throw isPlace)
  | ifThenElse location thenBody elseBody =>
      exact .bind (changeStack isPlace _) fun _ => .get fun _ =>
        .bind (inside _ _ (ofBody (.head _))) fun _ =>
          .bind (inside _ _ (ofBody (.tail _ (.head _)))) fun _ =>
            .ite (changeStack isPlace _)
              (.bind (.throw isPlace) fun _ => changeStack isPlace _)
  | block location statements =>
      exact .get fun _ => .bind (inside _ _ (ofBody (.head _))) fun _ =>
        changeStack isPlace _
  | unknown location kind => exact .throw isPlace

theorem checkStatements_failsAmong (room : Nat) (statements : List Statement) :
    FailsAmong (everyNested statements) (checkStatements room statements) := by
  induction room generalizing statements with
  | zero => exact .throw trivial
  | succ room bodyFails =>
      refine .forM fun statement member => ?_
      exact (checkStatement_failsAmong bodyFails statement).wider fun inner isInner =>
        Statement.mem_everyNested.mpr ⟨statement, member, isInner⟩

/-! ## The first statement that fails -/

def ChecksUpTo (scopes : List Scope) (statements : List Statement) (count : Nat) : Prop :=
  ∃ after,
    checkStatements Program.nestingLimit (statements.take count) ⟨[], scopes⟩ =
      .ok () after

theorem ChecksUpTo.of_le {scopes : List Scope} {statements : List Statement}
    {count fewer : Nat} (checks : ChecksUpTo scopes statements count)
    (le : fewer ≤ count) : ChecksUpTo scopes statements fewer := by
  rcases checks with ⟨after, succeeded⟩
  rw [← List.take_append_drop fewer (statements.take count), List.take_take,
    Nat.min_eq_left le] at succeeded
  rcases checkStatements_append_ok succeeded with ⟨between, succeeded, _⟩
  exact ⟨between, succeeded⟩

theorem checkStatements_error {room : Nat} {statements : List Statement}
    {state after : State} {failure : Failure}
    (failed : checkStatements (room + 1) statements state = .error failure after) :
    ∃ before statement rest between, statements = before ++ statement :: rest ∧
      checkStatements (room + 1) before state = .ok () between ∧
      checkStatement (checkStatements room) statement between = .error failure after := by
  induction statements generalizing state with
  | nil => cases failed
  | cons statement rest induction =>
      rw [checkStatements_cons] at failed
      cases first : checkStatement (checkStatements room) statement state with
      | error other left =>
          rw [first] at failed
          cases failed
          exact ⟨[], statement, rest, state, rfl, rfl, first⟩
      | ok _ between =>
          rw [first] at failed
          rcases induction failed with
            ⟨before, failing, others, last, rfl, succeeded, fails⟩
          refine ⟨statement :: before, failing, others, last, rfl, ?_, fails⟩
          rw [checkStatements_cons, first]
          exact succeeded

/-- A failed check has a first statement up to which it fails, and fails there, however
deep. -/
theorem exists_first_failing {scopes : List Scope} {statements : List Statement}
    {failure : Failure} {after : State}
    (failed : checkStatements Program.nestingLimit statements ⟨[], scopes⟩ =
      .error failure after) :
    ∃ count item, statements[count]? = some item ∧
      (∀ fewer ≤ count, ChecksUpTo scopes statements fewer) ∧
      ¬ ChecksUpTo scopes statements (count + 1) ∧ failure.IsAmong item.withNested := by
  rcases checkStatements_error failed with
    ⟨before, item, rest, between, rfl, succeeded, itemFailed⟩
  refine ⟨before.length, item, by simp, fun fewer le => ?_, ?_, ?_⟩
  · exact ChecksUpTo.of_le ⟨between, by rwa [List.take_left]⟩ le
  · rintro ⟨final, both⟩
    rw [List.take_length_add_append, List.take_succ_cons, List.take_zero] at both
    rcases checkStatements_append_ok both with ⟨_, first, second⟩
    cases succeeded.symm.trans first
    rcases checkStatements_cons_ok second with ⟨_, itemSucceeded, _⟩
    cases itemFailed.symm.trans itemSucceeded
  · exact (checkStatement_failsAmong (checkStatements_failsAmong _) item).of_error
      itemFailed

end Typing

end StackLanguage
