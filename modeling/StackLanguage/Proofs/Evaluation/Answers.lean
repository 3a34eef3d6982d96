import StackLanguage.Proofs.Evaluation.Outcome

namespace StackLanguage

/-! When an operator and the word that ends a program answer. On operands that checking
allows an operator leaves a value or has a message with its place, and `exit` ends with
the integer on top, unless an integer has to be written that is too long for it. -/

namespace Run

open Operator (LacksMessage apply resultType)

theorem operator_eq (location : Location) (symbol : String) (first second : Value)
    (rest : List Value) (machine : Machine) :
    operator location symbol { machine with stack := second :: first :: rest } =
      match apply symbol first second with
      | .ok value => .ok () { machine with stack := value :: rest }
      | .error (.error cause) =>
          .error (.error ⟨.operation cause, location⟩) { machine with stack := rest }
      | .error (.fault fault) =>
          .error (.fault fault) { machine with stack := rest } := by
  change (match apply symbol first second with
      | .ok value => push value
      | .error (.error cause) => fail location (.operation cause)
      | .error (.fault fault) => throw (.fault fault) : Run Unit)
        { machine with stack := rest } = _
  rcases apply symbol first second with (cause | fault) | value <;> rfl

theorem exit_eq (location : Location) (value : Value) (rest : List Value)
    (machine : Machine) :
    word location .exit { machine with stack := value :: rest } =
      match exitCode value with
      | .ok code => .error (.exit code) { machine with stack := rest }
      | .error fault => .error (.fault fault) { machine with stack := rest } := by
  change (match exitCode value with
      | .ok code => throw (.exit code)
      | .error fault => throw (.fault fault) : Run Unit)
        { machine with stack := rest } = _
  cases exitCode value <;> rfl

theorem exitCode_int_iff {number : Int} :
    exitCode (.int number) = .ok number ↔ ¬ Numeral.IsTooLong number := by
  rw [← Numeral.integerText?_eq_none_iff]
  cases written : Numeral.integerText? number <;>
    simp [exitCode, written, pure, Except.pure, bind, Except.bind, throw, throwThe,
      MonadExceptOf.throw]

/-- An operator on operands that its typing accepts leaves a value of the type or has a
message with its place, and `exit` ends with the integer on top; but for integers that are
too long to be written. -/
theorem operator_answers_iff {symbol : String} {first second : Value} {type : ValueType}
    (known : (Operator.ofSymbol? symbol).isSome = true)
    (typed : resultType symbol first.type second.type = .ok type) (location : Location)
    (number : Int) (rest : List Value) (machine : Machine) :
    (((∃ value, value.type = type ∧
          operator location symbol { machine with stack := second :: first :: rest } =
            .ok () { machine with stack := value :: rest }) ∨
        ∃ cause, (OperationFailure.error cause).IsReported ∧
          operator location symbol { machine with stack := second :: first :: rest } =
            .error (.error ⟨.operation cause, location⟩) { machine with stack := rest }) ↔
      ¬ LacksMessage symbol first second) ∧
    (word location .exit { machine with stack := .int number :: rest } =
        .error (.exit number) { machine with stack := rest } ↔
      ¬ Numeral.IsTooLong number) := by
  have leaves := Operator.apply_leaves known typed (ValueType.accepts_refl _)
    (ValueType.accepts_refl _)
  rw [operator_eq, exit_eq, ← exitCode_int_iff]
  refine ⟨⟨fun answers lacks => ?_, fun hasMessage => ?_⟩, ?_⟩
  · rw [Operator.apply_of_lacksMessage lacks] at answers
    rcases answers with ⟨_, _, answer⟩ | ⟨_, _, answer⟩ <;> cases answer
  · cases outcome : apply symbol first second with
    | ok value => exact .inl ⟨value, leaves.2 value outcome, rfl⟩
    | error failure =>
        rcases leaves.1 failure outcome with reported | ⟨lacks, _⟩
        · cases failure with
          | error cause => exact .inr ⟨cause, reported, rfl⟩
          | fault fault => exact reported.elim
        · exact absurd lacks hasMessage
  · cases exitCode_int number with
    | inl code => simp [code]
    | inr fault => simp [fault]

theorem largePower_answers :
    ((∃ value, value.type = .int ∧ operator .nowhere "**"
          { Machine.initial [] with stack := [.int 4194305, .int 2] } =
            .ok () { Machine.initial [] with stack := [value] }) ∨
        ∃ cause, (OperationFailure.error cause).IsReported ∧ operator .nowhere "**"
          { Machine.initial [] with stack := [.int 4194305, .int 2] } =
            .error (.error ⟨.operation cause, .nowhere⟩) (.initial [])) ∧
      word .nowhere .exit { Machine.initial [] with stack := [.int 42] } =
        .error (.exit 42) (.initial []) := by
  have answers :=
    @operator_answers_iff "**" (.int 2) (.int 4194305) .int rfl rfl .nowhere 42 []
      (.initial [])
  refine ⟨answers.1.mpr ?_, answers.2.mpr (by decide +kernel)⟩
  rintro ⟨_, _, _, ⟨⟩, ⟨⟩, ⟨negative, _⟩ | ⟨_, _, _, long⟩⟩
  · exact absurd negative (by decide)
  · exact absurd long (by decide +kernel)

theorem apply_longExponent :
    resultType "**" (Value.int 2).type (Value.int (Nat.pow 10 4300)).type = .ok .int ∧
      apply "**" (.int 2) (.int (Nat.pow 10 4300)) = .error (.fault .numeral) ∧
      exitCode (.int (Nat.pow 10 4300)) = .error .numeral := by
  have long : Numeral.IsTooLong (Nat.pow 10 4300) := by decide +kernel
  refine ⟨rfl, Operator.apply_of_lacksMessage
    ⟨2, _, rfl, rfl, rfl, .inr ⟨?_, ?_, ?_, .inr long⟩⟩, ?_⟩
  · exact Int.natCast_nonneg _
  · decide
  · rw [Int.toNat_natCast]
    decide +kernel
  · exact (exitCode_int _).resolve_left fun code => exitCode_int_iff.mp code long

end Run

end StackLanguage
