import StackLanguage.Proofs.Ends
import StackLanguage.Proofs.Evaluation.Moments
import StackLanguage.Proofs.Operator.Typed

namespace StackLanguage

/-! How runs end, and the words and operators of a checked program: on a stack that fits
the types they leave a stack that fits the types after them, or stop in a way that
checking allows for. -/

/-- The errors that checking is there to prevent. -/
def RuntimeError.isPrevented : RuntimeError → Bool
  | emptyStack | unknownVariable _ | unknownFunction _ | unknownWord _ | unknownStatement
    _ => true
  | operation (.unknownOperator _) => true
  | _ => false

/-- The ways to stop that checking allows for. The one fault among them is an integer that
is too long to be written. -/
def Stop.IsExpected : Stop → Prop
  | .error located => located.cause.isPrevented = false
  | .exit _ => True
  | .fault reason => reason = .numeral

abbrev StackFits (values : List Value) (types : List ValueType) : Prop :=
  List.Forall₂ (fun value type => type.accepts value.type = true) values types

theorem StackFits.types (values : List Value) :
    StackFits values (values.map Value.type) := by
  induction values with
  | nil => exact .nil
  | cons value rest induction => exact .cons (ValueType.accepts_refl _) induction

namespace Typing

theorem dropExpected_ok {expected : ValueType} {what : String}
    {stack rest : List ValueType}
    (dropped : dropExpected expected what stack = .ok rest) :
    ∃ actual, stack = actual :: rest ∧ expected.accepts actual = true := by
  cases stack with
  | nil => cases dropped
  | cons actual remaining =>
      simp only [dropExpected, popExpected] at dropped
      split at dropped
      · next accepted => cases dropped; exact ⟨actual, rfl, accepted⟩
      · cases dropped

theorem dropArguments_fits {what : String} {types stack rest : List ValueType}
    (dropped : dropArguments what types stack = .ok rest) {values : List Value}
    (fits : StackFits values stack) :
    ∃ arguments remaining, values = arguments ++ remaining ∧ StackFits arguments types ∧
      StackFits remaining rest := by
  induction types generalizing stack values with
  | nil =>
      cases dropped
      exact ⟨[], values, rfl, .nil, fits⟩
  | cons expected types induction =>
      simp only [dropArguments] at dropped
      cases first : dropExpected expected what stack with
      | error cause => rw [first] at dropped; cases dropped
      | ok below =>
          rw [first] at dropped
          rcases dropExpected_ok first with ⟨actual, rfl, accepted⟩
          cases fits with
          | cons top fits =>
              rcases induction dropped fits with
                ⟨arguments, remaining, rfl, typed, restFits⟩
              exact ⟨_ :: arguments, remaining, rfl,
                .cons (ValueType.accepts_trans accepted top) typed, restFits⟩

end Typing

namespace Run

def KeepsScopes {Result : Type} (run : Run Result) (machine : Machine)
    (atEnd : Result → Machine → Prop) : Prop :=
  Ends run machine
    (fun result after => atEnd result after ∧ after.scopes = machine.scopes)
    fun stop after => stop.IsExpected ∧ after.scopes = machine.scopes

theorem KeepsScopes.bind {First Second : Type} {first : Run First}
    {second : First → Run Second} {machine : Machine} {between : First → Machine → Prop}
    {atEnd : Second → Machine → Prop} (firstKeeps : KeepsScopes first machine between)
    (secondKeeps : ∀ result after,
      between result after → KeepsScopes (second result) after atEnd) :
    KeepsScopes (first >>= second) machine atEnd := by
  refine Ends.bind (firstKeeps.mono ?_ fun _ _ stopped => stopped)
  rintro result after ⟨holds, same⟩
  exact (secondKeeps result after holds).mono
    (fun _ _ ended => ⟨ended.1, ended.2.trans same⟩)
    fun _ _ stopped => ⟨stopped.1, stopped.2.trans same⟩

theorem KeepsScopes.mono {Result : Type} {run : Run Result} {machine : Machine}
    {atEnd atEnd' : Result → Machine → Prop} (keeps : KeepsScopes run machine atEnd)
    (implies : ∀ result after, atEnd result after → atEnd' result after) :
    KeepsScopes run machine atEnd' :=
  Ends.mono keeps (fun result after ended => ⟨implies result after ended.1, ended.2⟩)
    fun _ _ stopped => stopped

theorem pop_eq {location : Location} {machine : Machine} {value : Value}
    {rest : List Value} (top : machine.stack = value :: rest) :
    pop location machine = .ok value { machine with stack := rest } := by
  rcases machine with ⟨stack, scopes, output, input, calls, depth⟩
  cases top
  rfl

theorem pop_keeps {location : Location} {machine : Machine} {value : Value}
    {rest : List Value} (top : machine.stack = value :: rest) :
    KeepsScopes (pop location) machine fun popped after =>
      popped = value ∧ after.stack = rest := by
  unfold KeepsScopes Ends
  rw [pop_eq top]
  exact ⟨⟨rfl, rfl⟩, rfl⟩

theorem print_keeps (location : Location) (value : Value) (text : String)
    (machine : Machine) :
    KeepsScopes (print location value text) machine fun _ after =>
      after.stack = machine.stack := by
  unfold print
  cases value.text? with
  | some written => exact ⟨rfl, rfl⟩
  | none => exact ⟨rfl, rfl⟩

theorem printAll_keeps (location : Location) (text : String) (values : List Value)
    (machine : Machine) :
    KeepsScopes (values.forM (print location · text)) machine fun _ after =>
      after.stack = machine.stack := by
  induction values generalizing machine with
  | nil => exact ⟨rfl, rfl⟩
  | cons value rest induction =>
      refine KeepsScopes.bind (print_keeps location value text machine) ?_
      intro _ after same
      exact (induction after).mono fun _ _ kept => kept.trans same

theorem exitCode_int (number : Int) :
    exitCode (.int number) = .ok number ∨ exitCode (.int number) = .error .numeral := by
  simp only [exitCode, pure_bind]
  generalize Numeral.integerText? number = text
  cases text with
  | some written => exact .inl rfl
  | none => exact .inr rfl

theorem exit_keeps {location : Location} {machine : Machine} {type : ValueType}
    {types : List ValueType} (accepted : ValueType.int.accepts type = true)
    (fits : StackFits machine.stack (type :: types)) (atEnd : Unit → Machine → Prop) :
    KeepsScopes (word location .exit) machine atEnd := by
  generalize stackIs : machine.stack = stack at fits
  cases fits with
  | cons top rest =>
      rcases Value.exists_int (ValueType.accepts_trans accepted top) with ⟨number, rfl⟩
      refine KeepsScopes.bind (pop_keeps stackIs) ?_
      rintro value after ⟨rfl, same⟩
      cases exitCode_int number with
      | inl code => rw [code]; exact ⟨trivial, rfl⟩
      | inr code => rw [code]; exact ⟨rfl, rfl⟩

theorem word_keeps {location : Location} {builtin : BuiltinWord}
    {types typesAfter : List ValueType}
    (effect : Typing.wordEffect builtin types = .ok typesAfter) {machine : Machine}
    (fits : StackFits machine.stack types) :
    KeepsScopes (word location builtin) machine fun _ after =>
      StackFits after.stack typesAfter := by
  by_cases isExit : builtin = .exit
  · subst isExit
    rcases Typing.dropExpected_ok effect with ⟨actual, rfl, accepted⟩
    exact exit_keeps accepted fits _
  rcases machine with ⟨stack, scopes, output, input, calls, depth⟩
  change StackFits stack types at fits
  cases builtin with
  | exit => exact absurd rfl isExit
  | dup =>
      cases fits with
      | nil => cases effect
      | cons top rest => cases effect; exact ⟨.cons top (.cons top rest), rfl⟩
  | swap =>
      cases fits with
      | nil => cases effect
      | cons first rest =>
          cases rest with
          | nil => cases effect
          | cons second rest => cases effect; exact ⟨.cons second (.cons first rest), rfl⟩
  | overTop =>
      cases fits with
      | nil => cases effect
      | cons first rest =>
          cases rest with
          | nil => cases effect
          | cons second rest =>
              cases effect
              exact ⟨.cons second (.cons first (.cons second rest)), rfl⟩
  | rot =>
      cases fits with
      | nil => cases effect
      | cons first rest =>
          cases rest with
          | nil => cases effect
          | cons second rest =>
              cases rest with
              | nil => cases effect
              | cons third rest =>
                  cases effect
                  exact ⟨.cons third (.cons first (.cons second rest)), rfl⟩
  | clear => cases effect; exact ⟨.nil, rfl⟩
  | drop =>
      cases fits with
      | nil => cases effect
      | cons top rest => cases effect; exact ⟨rest, rfl⟩
  | print | println =>
      cases fits with
      | nil => cases effect
      | cons top rest =>
          cases effect
          refine KeepsScopes.bind (pop_keeps rfl) ?_
          rintro value after ⟨rfl, same⟩
          refine (print_keeps location _ _ after).mono fun _ printed kept => ?_
          rw [kept, same]
          exact rest
  | pstack =>
      cases effect
      refine (printAll_keeps location "\n" stack.reverse _).mono fun _ printed kept => ?_
      rw [kept]
      exact fits
  | input => cases effect; exact ⟨.cons (ValueType.accepts_refl _) fits, rfl⟩
  | okexit => exact ⟨trivial, rfl⟩
  | not =>
      simp only [Typing.wordEffect] at effect
      cases dropped : Typing.dropExpected .bool BuiltinWord.not.name types with
      | error cause => rw [dropped] at effect; cases effect
      | ok remaining =>
          rw [dropped] at effect
          cases effect
          rcases Typing.dropExpected_ok dropped with ⟨actual, rfl, accepted⟩
          cases fits with
          | cons top rest => exact ⟨.cons (ValueType.accepts_refl _) rest, rfl⟩

theorem operator_keeps {location : Location} {symbol : String}
    (known : (Operator.ofSymbol? symbol).isSome = true)
    {types typesAfter : List ValueType}
    (effect : Typing.operatorEffect symbol types = .ok typesAfter) {machine : Machine}
    (fits : StackFits machine.stack types) :
    KeepsScopes (operator location symbol) machine fun _ after =>
      StackFits after.stack typesAfter := by
  unfold Typing.operatorEffect at effect
  split at effect
  · next secondType firstType restTypes =>
      split at effect <;> cases effect
      next type typed =>
        rcases machine with ⟨stack, scopes, output, input, calls, depth⟩
        change StackFits stack _ at fits
        cases fits with
        | cons secondFits rest =>
            cases rest with
            | cons firstFits rest =>
                refine KeepsScopes.bind (pop_keeps rfl) ?_
                rintro second afterSecond ⟨rfl, sameSecond⟩
                refine KeepsScopes.bind (pop_keeps sameSecond) ?_
                rintro first afterFirst ⟨rfl, sameFirst⟩
                have leaves := Operator.apply_leaves known typed firstFits secondFits
                cases applied : Operator.apply symbol first second with
                | ok value =>
                    refine ⟨?_, rfl⟩
                    change StackFits (value :: afterFirst.stack) _
                    rw [sameFirst]
                    exact .cons (leaves.2 value applied ▸ ValueType.accepts_refl _) rest
                | error failure =>
                    rcases leaves.1 failure applied with reported | ⟨_, rfl⟩
                    · cases failure with
                      | error cause =>
                          refine ⟨?_, rfl⟩
                          cases cause <;> first | rfl | exact reported.elim
                      | fault reason => exact reported.elim
                    · exact ⟨rfl, rfl⟩
  · cases effect

end Run

end StackLanguage
