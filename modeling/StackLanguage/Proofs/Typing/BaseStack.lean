import StackLanguage.Proofs.Alongside
import StackLanguage.Typing.Checking

namespace StackLanguage

/-! Checking is local in the stack. What statements do above a stack they do above every
stack that is put under it, unless they empty the stack or reach for more values than they
find. Bodies of functions have stacks of their own and see nothing of the one around the
definition. -/

namespace Statement

mutual

def clears : Statement → Bool
  | .word _ name => BuiltinWord.ofName? name = some .clear
  | .ifThen _ thenBody => anyClears thenBody
  | .ifThenElse _ thenBody elseBody => anyClears thenBody || anyClears elseBody
  | .block _ body => anyClears body
  | _ => false

def anyClears : List Statement → Bool
  | [] => false
  | statement :: rest => statement.clears || anyClears rest

end

end Statement

namespace Typing

def State.above (state : State) (base : List ValueType) : State :=
  { state with stack := state.stack ++ base }

/-- Values were missing on the stack where the check failed. Inside the body of a function
this is a broken promise instead. -/
def Failure.LacksValues (failure : Failure) : Prop :=
  ∃ what location, failure = .error ⟨.tooFewValues what, location⟩

def aboveBase (base : List ValueType) : Likeness Failure State State where
  states state other := other = state.above base
  causes := Eq
  excused := Failure.LacksValues

/-! ## Changes of the stack -/

def SameAbove (base : List ValueType) :
    Except TypeError (List ValueType) → Except TypeError (List ValueType) → Prop
  | .ok after, above => above = .ok (after ++ base)
  | .error cause, above => (∃ what, cause = .tooFewValues what) ∨ above = .error cause

def IsLocal (change : List ValueType → Except TypeError (List ValueType)) : Prop :=
  ∀ stack base : List ValueType, SameAbove base (change stack) (change (stack ++ base))

namespace IsLocal

theorem putOnTop (types : List ValueType) : IsLocal fun stack => .ok (types ++ stack) :=
  fun stack base => congrArg Except.ok (List.append_assoc types stack base).symm

theorem bind {first second : List ValueType → Except TypeError (List ValueType)}
    (firstLocal : IsLocal first) (secondLocal : IsLocal second) :
    IsLocal fun stack => first stack >>= second := by
  intro stack base
  have firstDoes := firstLocal stack base
  cases outcome : first stack with
  | ok between =>
      rw [outcome] at firstDoes
      have above : first (stack ++ base) = .ok (between ++ base) := firstDoes
      simp only [outcome, above]
      exact secondLocal between base
  | error cause =>
      rw [outcome] at firstDoes
      simp only [outcome]
      rcases firstDoes with lacking | same
      · exact .inl lacking
      · rw [same]
        exact .inr rfl

theorem dropExpected (expected : ValueType) (what : String) :
    IsLocal (dropExpected expected what) := by
  intro stack base
  cases stack with
  | nil => exact .inl ⟨what, rfl⟩
  | cons actual rest =>
      simp only [Typing.dropExpected, popExpected, List.cons_append]
      by_cases accepted : expected.accepts actual = true
      · rw [if_pos accepted]
        exact rfl
      · rw [if_neg accepted]
        exact .inr rfl

theorem dropArguments (what : String) (reversedParameters : List ValueType) :
    IsLocal (dropArguments what reversedParameters) := by
  induction reversedParameters with
  | nil => exact putOnTop []
  | cons expected rest induction => exact (dropExpected expected what).bind induction

theorem callEffect (name : String) (signature : Signature) :
    IsLocal (callEffect name signature) :=
  (dropArguments _ _).bind (putOnTop signature.result.toList)

theorem operatorEffect (symbol : String) : IsLocal (operatorEffect symbol) := by
  intro stack base
  match stack with
  | [] | [_] => exact .inl ⟨symbol, rfl⟩
  | second :: first :: rest =>
      simp only [Typing.operatorEffect, List.cons_append]
      cases Operator.resultType symbol first second with
      | ok type => rfl
      | error cause => exact .inr rfl

theorem wordEffect {word : BuiltinWord} (keeps : word ≠ .clear) :
    IsLocal (wordEffect word) := by
  cases word with
  | clear => exact absurd rfl keeps
  | pstack | okexit => exact putOnTop []
  | input => exact putOnTop [.string]
  | exit => exact dropExpected .int _
  | not => exact (dropExpected .bool _).bind (putOnTop [.bool])
  | dup | drop | print | println =>
      intro stack base
      match stack with
      | [] => exact .inl ⟨_, rfl⟩
      | top :: rest => rfl
  | swap | overTop =>
      intro stack base
      match stack with
      | [] | [_] => exact .inl ⟨_, rfl⟩
      | first :: second :: rest => rfl
  | rot =>
      intro stack base
      match stack with
      | [] | [_] | [_, _] => exact .inl ⟨_, rfl⟩
      | first :: second :: third :: rest => rfl

end IsLocal

/-! ## Checks that do not look at the stack -/

section Definition

variable {base : List ValueType} {Result : Type}

theorem located_commutes_above (location : Location) (outcome : Except TypeError Result) :
    Commutes (·.above base) (Check.located location outcome) := by
  cases outcome with
  | ok result => exact Commutes.pure result
  | error cause => exact Commutes.throw _

theorem changeScope_commutes_above (location : Location)
    (change : Scope → Except TypeError Scope) :
    Commutes (·.above base) (Check.changeScope location change) :=
  Commutes.get (fun _ => rfl) fun _ =>
    (located_commutes_above location _).bind fun _ => Commutes.modify fun _ => rfl

theorem inside_commutes_above (stack : List ValueType) (scope : Scope)
    (check : Check Unit) : Commutes (·.above base) (Check.inside stack scope check) := by
  intro state
  simp only [Check.inside, State.above]
  cases check ⟨stack, scope :: state.scopes⟩ <;> rfl

theorem promised_commutes_above {check : Check Result}
    (commutes : Commutes (·.above base) check) :
    Commutes (·.above base) (Check.promised check) := by
  intro state
  simp only [Check.promised, commutes state]
  rcases check state with ⟨_, _⟩ | ⟨⟨_, _⟩ | _, _⟩ <;> rfl

theorem checkDefinition_commutes_above (body : List Statement → Check Unit)
    (location : Location) (name : String) (parameters : List Parameter)
    (result : Option ValueType) (statements : List Statement) :
    Commutes (·.above base)
      (checkDefinition body location name parameters result statements) := by
  refine (changeScope_commutes_above location _).bind fun _ => ?_
  have ending (start : List ValueType × Scope) :
      Commutes (·.above base)
        (Check.promised (Check.inside start.1 start.2 (body statements)) >>=
          fun left => Check.located location (checkResult name result left)) :=
    (promised_commutes_above (inside_commutes_above _ _ _)).bind fun _ =>
      located_commutes_above location _
  apply Commutes.ite
  · exact (located_commutes_above location _).bind fun scope =>
      (Commutes.pure ([], scope)).bind ending
  · exact (Commutes.pure _).bind ending

end Definition

/-! ## Checks side by side -/

abbrev Above {Result : Type} (base : List ValueType) (check : Check Result) : Prop :=
  (aboveBase base).Alongside Eq check check

section Statements

variable {base : List ValueType}

theorem Above.of_commutes {Result : Type} {check : Check Result}
    (commutes : Commutes (·.above base) check) : Above base check :=
  commutes.alongside Failure.LacksValues

theorem located_alongside {outcome above : Except TypeError (List ValueType)}
    (same : SameAbove base outcome above) (location : Location) :
    (aboveBase base).Alongside (fun stack whole => whole = stack ++ base)
      (Check.located location outcome) (Check.located location above) := by
  cases outcome with
  | ok after =>
      obtain rfl := same
      exact .pure rfl
  | error cause =>
      rcases same with ⟨what, rfl⟩ | rfl
      · exact fun _ _ _ => .of_excused _ ⟨what, location, rfl⟩
      · exact .throw rfl

theorem changeStack_alongside
    {change otherChange : List ValueType → Except TypeError (List ValueType)}
    (same : ∀ stack, SameAbove base (change stack) (otherChange (stack ++ base)))
    (location : Location) :
    (aboveBase base).Alongside Eq (Check.changeStack location change)
      (Check.changeStack location otherChange) := by
  refine .get ?_
  rintro state _ rfl
  refine (located_alongside (same state.stack) location).bind ?_ _ _ rfl
  rintro stack _ rfl
  refine .modify rfl ?_
  rintro between _ rfl
  rfl

theorem Above.changeStack {change : List ValueType → Except TypeError (List ValueType)}
    (isLocal : IsLocal change) (location : Location) :
    Above base (Check.changeStack location change) :=
  changeStack_alongside (fun stack => isLocal stack base) location

theorem replaceStack_alongside (left : List ValueType) (location : Location) :
    (aboveBase base).Alongside Eq (Check.changeStack location fun _ => .ok left)
      (Check.changeStack location fun _ => .ok (left ++ base)) := by
  apply changeStack_alongside
  intro stack
  exact rfl

theorem inside_alongside {check : Check Unit} (above : Above base check)
    (stack : List ValueType) (scope : Scope) :
    (aboveBase base).Alongside (fun left whole => whole = left ++ base)
      (Check.inside stack scope check) (Check.inside (stack ++ base) scope check) := by
  rintro state _ rfl
  have inner := above ⟨stack, scope :: state.scopes⟩ _ rfl
  change (aboveBase base).Outcomes Eq _
    (check ⟨stack ++ base, scope :: state.scopes⟩) at inner
  simp only [Check.inside, State.above]
  cases outcome : check ⟨stack, scope :: state.scopes⟩ <;>
    cases whole : check ⟨stack ++ base, scope :: state.scopes⟩ <;>
    rw [outcome, whole] at inner
  · obtain ⟨-, rfl⟩ := inner
    exact ⟨rfl, rfl⟩
  · exact inner.elim
  · exact inner
  · refine inner.imp_right ?_
    rintro ⟨same, rfl⟩
    exact ⟨same, rfl⟩

variable {body : List Statement → Check Unit}
variable (bodyAbove : ∀ list, Statement.anyClears list = false → Above base (body list))

include bodyAbove

theorem checkStatement_above {statement : Statement} (keeps : statement.clears = false) :
    Above base (checkStatement body statement) := by
  cases statement with
  | push location value => exact Above.changeStack (.putOnTop [value.type]) location
  | word location name =>
      simp only [Statement.clears, decide_eq_false_iff_not] at keeps
      unfold checkStatement
      dsimp only
      cases found : BuiltinWord.ofName? name with
      | none => exact .throw (Eq.refl _)
      | some word =>
          have notClear : word ≠ .clear := by
            rintro rfl
            exact keeps found
          exact Above.changeStack (.wordEffect notClear) location
  | operator location symbol => exact Above.changeStack (.operatorEffect symbol) location
  | load location name =>
      refine .get ?_
      rintro state _ rfl
      refine Likeness.Alongside.bind
        (Above.of_commutes (located_commutes_above location _)) ?_ _ _ rfl
      rintro type _ rfl
      exact Above.changeStack (.putOnTop [type]) location
  | call location name =>
      refine .get ?_
      rintro state _ rfl
      refine Likeness.Alongside.bind
        (Above.of_commutes (located_commutes_above location _)) ?_ _ _ rfl
      rintro signature _ rfl
      exact Above.changeStack (.callEffect name signature) location
  | bind location name type initial =>
      have declares :
          Above base (Check.changeScope location (·.declareVariable name type)) :=
        Above.of_commutes (changeScope_commutes_above location _)
      cases initial with
      | none =>
          exact .bind (Above.changeStack (.dropExpected type _) location) fun _ _ _ =>
            declares
      | some value => exact declares
  | define location name parameters result statements =>
      exact Above.of_commutes
        (checkDefinition_commutes_above body location name parameters result
          statements)
  | ifThen location thenBody =>
      refine .bind (Above.changeStack (.dropExpected .bool "if") location) fun _ _ _ =>
        .get ?_
      rintro state _ rfl
      refine (inside_alongside (bodyAbove thenBody keeps) state.stack .empty).bind
        ?_ _ _ rfl
      rintro left _ rfl
      exact .ite (List.append_left_inj base).symm (.pure rfl) (.throw rfl)
  | ifThenElse location thenBody elseBody =>
      simp only [Statement.clears, Bool.or_eq_false_iff] at keeps
      refine .bind (Above.changeStack (.dropExpected .bool "if") location) fun _ _ _ =>
        .get ?_
      rintro state _ rfl
      refine (inside_alongside (bodyAbove thenBody keeps.1) state.stack .empty).bind
        ?_ _ _ rfl
      rintro thenLeft _ rfl
      refine (inside_alongside (bodyAbove elseBody keeps.2) state.stack .empty).bind ?_
      rintro elseLeft _ rfl
      have stops :
          Above base (throw (.error ⟨.unequalBranches, location⟩) : Check Unit) :=
        .throw rfl
      exact .ite (List.append_left_inj base).symm
        (replaceStack_alongside thenLeft location)
        (stops.bind fun _ _ _ => replaceStack_alongside thenLeft location)
  | block location statements =>
      refine .get ?_
      rintro state _ rfl
      refine (inside_alongside (bodyAbove statements keeps) state.stack .empty).bind
        ?_ _ _ rfl
      rintro left _ rfl
      exact replaceStack_alongside left location
  | unknown location kind => exact .throw rfl

end Statements

theorem above_checkStatements {base : List ValueType} (room : Nat) {list : List Statement}
    (keeps : Statement.anyClears list = false) :
    Above base (checkStatements room list) := by
  -- Induction on the room for bodies, inside it on the list.
  induction room generalizing list with
  | zero => exact .throw rfl
  | succ room bodyAbove =>
      induction list with
      | nil => exact .pure rfl
      | cons statement rest induction =>
          rw [Statement.anyClears, Bool.or_eq_false_iff] at keeps
          exact .bind (checkStatement_above (fun _ => bodyAbove) keeps.1) fun _ _ _ =>
            induction keeps.2

/-- What statements that do not empty the stack do to it, and whether they fit, does not
depend on what lies under it: a check that succeeds leaves the base where it was, under
what it leaves otherwise and with the same declarations, and one that fails does so with
the same failure, unless there it lacked values. -/
theorem checkStatements_above {list : List Statement}
    (keeps : Statement.anyClears list = false) (room : Nat) (state : State)
    (base : List ValueType) :
    (∀ after, checkStatements room list state = .ok () after →
      checkStatements room list (state.above base) = .ok () (after.above base)) ∧
    ∀ failure after, checkStatements room list state = .error failure after →
      ¬ failure.LacksValues →
      checkStatements room list (state.above base) =
        .error failure (after.above base) := by
  have alike := above_checkStatements room keeps state (state.above base) rfl
  constructor
  · intro after succeeded
    rw [succeeded] at alike
    cases whole : checkStatements room list (state.above base) <;> rw [whole] at alike
    · obtain ⟨-, rfl⟩ := alike
      rfl
    · exact alike.elim
  · intro failure after failed enough
    rw [failed] at alike
    cases whole : checkStatements room list (state.above base) <;> rw [whole] at alike
    · exact absurd alike enough
    · obtain lacking | ⟨rfl, rfl⟩ := alike
      · exact absurd lacking enough
      · rfl

def doubling : List Statement :=
  [.define ⟨"<input>", ⟨1, 1⟩⟩ "twice" [⟨.int, none⟩] (some .int)
     [.word ⟨"<input>", ⟨1, 23⟩⟩ "dup", .operator ⟨"<input>", ⟨1, 27⟩⟩ "+"],
   .word ⟨"<input>", ⟨2, 1⟩⟩ "swap",
   .ifThenElse ⟨"<input>", ⟨2, 6⟩⟩ [.call ⟨"<input>", ⟨2, 11⟩⟩ "twice"]
     [.push ⟨"<input>", ⟨2, 28⟩⟩ (.int 2), .operator ⟨"<input>", ⟨2, 30⟩⟩ "*"]]

theorem checkStatements_doubling_above :
    Statement.anyClears doubling = false ∧
    (∃ after, checkStatements 3 doubling ⟨[.int, .bool], [.empty]⟩ = .ok () after ∧
      after.stack = [.int] ∧
      checkStatements 3 doubling ⟨[.int, .bool, .string], [.empty]⟩ =
        .ok () ⟨[.int, .string], after.scopes⟩) ∧
    ∃ after, checkStatements 3 doubling ⟨[.string, .bool], [.empty]⟩ =
        .error (.error ⟨.wrongType "twice()" .int .string, ⟨"<input>", ⟨2, 11⟩⟩⟩) after ∧
      checkStatements 3 doubling ⟨[.string, .bool, .string], [.empty]⟩ =
        .error (.error ⟨.wrongType "twice()" .int .string, ⟨"<input>", ⟨2, 11⟩⟩⟩)
          (after.above [.string]) := by
  have keeps : Statement.anyClears doubling = false := by decide
  have fits : checkStatements 3 doubling ⟨[.int, .bool], [.empty]⟩ = .ok () _ := rfl
  have refused : checkStatements 3 doubling ⟨[.string, .bool], [.empty]⟩ = .error _ _ :=
    rfl
  refine ⟨keeps, ⟨_, fits, rfl, ?_⟩, _, refused, ?_⟩
  · exact (checkStatements_above keeps 3 _ [.string]).1 _ fits
  · apply (checkStatements_above keeps 3 _ [.string]).2 _ _ refused
    rintro ⟨what, location, same⟩
    cases same

end Typing

end StackLanguage
