import StackLanguage.Operator.Evaluation
import StackLanguage.Operator.Typing

namespace StackLanguage

/-! Operators on operands of fitting types: what they leave has the type that they are
said to leave, and where they leave nothing there is a message for it, or an integer too
long for the message. Only the power of two integers has integers in its messages. -/

namespace ValueType

theorem accepts_trans {wide middle narrow : ValueType} (left : wide.accepts middle = true)
    (right : middle.accepts narrow = true) : wide.accepts narrow = true := by
  simp only [accepts, decide_eq_true_eq] at left right ⊢
  rw [← right, Nat.and_assoc, left]

end ValueType

namespace Value

theorem type_mem_kinds (value : Value) : value.type ∈ ValueType.kinds.map (·.2) := by
  cases value <;> simp [type, ValueType.kinds]

theorem type_eq_of_accepts {type : ValueType} {value : Value}
    (kind : type ∈ ValueType.kinds.map (·.2))
    (accepted : type.accepts value.type = true) : value.type = type := by
  have apart : ∀ wide ∈ ValueType.kinds.map (·.2), ∀ narrow ∈ ValueType.kinds.map (·.2),
      wide.accepts narrow = true → narrow = wide := by decide
  exact apart type kind value.type value.type_mem_kinds accepted

theorem accepts_of_own_or_any {type : ValueType} {value : Value}
    (known : type = value.type ∨ type = .any) : type.accepts value.type = true := by
  have anyAccepts : ∀ kind ∈ ValueType.kinds.map (·.2),
      ValueType.any.accepts kind = true := by
    decide
  rcases known with rfl | rfl
  · exact ValueType.accepts_refl value.type
  · exact anyAccepts value.type value.type_mem_kinds

theorem exists_string {value : Value}
    (accepted : ValueType.string.accepts value.type = true) :
    ∃ text, value = .string text := by
  have type := type_eq_of_accepts (by decide) accepted
  cases value with
  | string text => exact ⟨text, rfl⟩
  | int | float | bool => nomatch type

theorem exists_int {value : Value} (accepted : ValueType.int.accepts value.type = true) :
    ∃ number, value = .int number := by
  have type := type_eq_of_accepts (by decide) accepted
  cases value with
  | int number => exact ⟨number, rfl⟩
  | float | string | bool => nomatch type

theorem exists_float {value : Value}
    (accepted : ValueType.float.accepts value.type = true) :
    ∃ number, value = .float number := by
  have type := type_eq_of_accepts (by decide) accepted
  cases value with
  | float number => exact ⟨number, rfl⟩
  | int | string | bool => nomatch type

end Value

namespace Numeral

def IsTooLong (number : Int) : Prop := Nat.pow 10 digitLimit ≤ number.natAbs

instance (number : Int) : Decidable (IsTooLong number) :=
  inferInstanceAs (Decidable (_ ≤ _))

theorem integerText?_eq_none_iff {number : Int} :
    integerText? number = none ↔ IsTooLong number := by
  unfold integerText? IsTooLong
  split
  · next short => exact iff_of_false nofun (Nat.not_le.mpr short)
  · next long => exact iff_of_true rfl (Nat.not_lt.mp long)

theorem integerText?_of_short {number : Int} (short : ¬ IsTooLong number) :
    integerText? number = some (toString number) :=
  if_pos (Nat.not_le.mp short)

end Numeral

def OperationFailure.IsReported : OperationFailure → Prop
  | .error (.unknownOperator _) => False
  | .error _ => True
  | .fault _ => False

namespace Operator

def FailsAsExpected {Result : Type} (excused : Prop)
    (outcome : Except OperationFailure Result) : Prop :=
  ∀ failure, outcome = .error failure →
    failure.IsReported ∨ excused ∧ failure = .fault .numeral

namespace FailsAsExpected

variable {Result : Type} {excused : Prop}

theorem ok (result : Result) : FailsAsExpected excused (.ok result) := nofun

theorem error {failure : OperationFailure} (reported : failure.IsReported) :
    FailsAsExpected excused (.error failure : Except OperationFailure Result) := by
  intro other equal
  cases equal
  exact .inl reported

theorem fault (holds : excused) :
    FailsAsExpected excused
      (.error (.fault .numeral) : Except OperationFailure Result) := by
  intro other equal
  cases equal
  exact .inr ⟨holds, rfl⟩

theorem bind {Other : Type} {first : Except OperationFailure Result}
    {second : Result → Except OperationFailure Other}
    (firstExpected : FailsAsExpected excused first)
    (secondExpected : ∀ result, FailsAsExpected excused (second result)) :
    FailsAsExpected excused (first >>= second) := by
  cases first with
  | ok result => exact secondExpected result
  | error failure =>
      intro other equal
      cases equal
      exact firstExpected failure rfl

theorem map {Other : Type} {first : Except OperationFailure Result}
    {change : Result → Other} (firstExpected : FailsAsExpected excused first) :
    FailsAsExpected excused (first.map change) := by
  cases first with
  | ok result => exact ok _
  | error failure =>
      intro other equal
      cases equal
      exact firstExpected failure rfl

theorem mono {other : Prop} {outcome : Except OperationFailure Result}
    (expected : FailsAsExpected excused outcome) (implies : excused → other) :
    FailsAsExpected other outcome :=
  fun failure failed => (expected failure failed).imp_right fun ⟨holds, same⟩ =>
    ⟨implies holds, same⟩

end FailsAsExpected

def PowerLacksMessage (base exponent : Int) : Prop :=
  exponent < 0 ∧ Numeral.IsTooLong exponent ∨
    0 ≤ exponent ∧ 1 < base.natAbs ∧ powerBitLimit < exponent.toNat * base.natAbs.log2 ∧
      (Numeral.IsTooLong base ∨ Numeral.IsTooLong exponent)

theorem raiseIntegers_expected (base exponent : Int) :
    FailsAsExpected (PowerLacksMessage base exponent) (raiseIntegers base exponent) := by
  unfold raiseIntegers failWith
  split
  · next negative =>
      split
      · exact .error trivial
      · next long =>
          exact .fault (.inl ⟨negative, Numeral.integerText?_eq_none_iff.mp long⟩)
  · next notNegative =>
      have isExponent : 0 ≤ exponent := Int.not_lt.mp notNegative
      split
      · next large =>
          split
          · split
            · exact .error trivial
            · next long =>
                exact .fault (.inr ⟨isExponent, large.1, large.2,
                  .inr (Numeral.integerText?_eq_none_iff.mp long)⟩)
          · next long =>
              exact .fault (.inr ⟨isExponent, large.1, large.2,
                .inl (Numeral.integerText?_eq_none_iff.mp long)⟩)
      · exact .ok _

theorem raiseIntegers_of_lacksMessage {base exponent : Int}
    (lacks : PowerLacksMessage base exponent) :
    raiseIntegers base exponent = .error (.fault .numeral) := by
  unfold raiseIntegers failWith
  rcases lacks with ⟨negative, long⟩ | ⟨isExponent, isBase, large, long⟩
  · rw [if_pos negative, Numeral.integerText?_eq_none_iff.mpr long]
  · rw [if_neg (Int.not_lt.mpr isExponent), if_pos ⟨isBase, large⟩]
    split
    · next written =>
        rcases long with long | long
        · cases written.symm.trans (Numeral.integerText?_eq_none_iff.mpr long)
        · rw [Numeral.integerText?_eq_none_iff.mpr long]
    · rfl

theorem arithmeticOnIntegers_expected (operation : Arithmetic) (first second : Int) :
    FailsAsExpected (operation = .power ∧ PowerLacksMessage first second)
      (arithmeticOnIntegers operation first second) := by
  cases operation with
  | add | subtract | multiply => exact .ok _
  | divide =>
      simp only [arithmeticOnIntegers, divideIntegers]
      split
      · exact .error trivial
      · exact .ok _
  | remainder =>
      simp only [arithmeticOnIntegers, remainderOfIntegers]
      split
      · exact .error trivial
      · exact .ok _
  | power => exact (raiseIntegers_expected first second).mono fun lacks => ⟨rfl, lacks⟩

section Doubles

variable {excused : Prop}

theorem toDouble_expected (symbol : String) (quantity : Quantity) :
    FailsAsExpected excused (toDouble symbol (.quantity quantity)) := by
  simp only [toDouble]
  split
  · exact .ok _
  · exact .error trivial

theorem raiseDouble_expected (power : Float → Float → Float) (base : Float)
    (exponent : Quantity) :
    FailsAsExpected excused (raiseDouble power base exponent) := by
  unfold raiseDouble
  split
  · exact .ok _
  · split
    · exact .error trivial
    · exact .ok _

theorem combine_expected {symbol : String} {onIntegers : Int → Int → Int}
    {onDoubles : Float → Float → Float} {first second : Quantity}
    (mixed : ¬ ∃ left right, first = .int left ∧ second = .int right) :
    FailsAsExpected excused (combine symbol onIntegers onDoubles first second) := by
  have doubles : FailsAsExpected excused (do
      let left ← toDouble symbol (.quantity first)
      let right ← toDouble symbol (.quantity second)
      pure (onDoubles left right)) :=
    .bind (toDouble_expected symbol first) fun left =>
      .bind (toDouble_expected symbol second) fun right => .ok _
  cases first with
  | float => exact doubles
  | int left =>
      cases second with
      | float => exact doubles
      | int right => exact absurd ⟨left, right, rfl, rfl⟩ mixed

theorem arithmeticOnDoubles_expected {operation : Arithmetic} {first second : Quantity}
    (mixed : ¬ ∃ left right, first = .int left ∧ second = .int right) :
    FailsAsExpected excused
      (arithmeticOnDoubles operation (.quantity first) (.quantity second)) := by
  cases operation with
  | add | subtract | multiply => exact combine_expected mixed
  | divide | remainder =>
      exact .bind (toDouble_expected _ first) fun left =>
        .bind (toDouble_expected _ second) fun right => .ok _
  | power =>
      exact .bind (toDouble_expected _ first) fun base =>
        raiseDouble_expected _ base second

end Doubles

theorem exists_quantity {type : ValueType} {value : Value}
    (isNumber : type.isNumber = true) (accepted : type.accepts value.type = true) :
    (∃ number, value = .int number ∧ type = .int) ∨
      ∃ number, value = .float number ∧ type = .float := by
  simp only [ValueType.isNumber, Bool.or_eq_true, decide_eq_true_eq] at isNumber
  rcases isNumber with rfl | rfl
  · rcases Value.exists_int accepted with ⟨number, rfl⟩
    exact .inl ⟨number, rfl, rfl⟩
  · rcases Value.exists_float accepted with ⟨number, rfl⟩
    exact .inr ⟨number, rfl, rfl⟩

/-- The operation of the symbol on the two values fails with a message that one of them is
too long for. -/
def LacksMessage (symbol : String) (first second : Value) : Prop :=
  ∃ base exponent, ofSymbol? symbol = some (.arithmetic .power) ∧ first = .int base ∧
    second = .int exponent ∧ PowerLacksMessage base exponent

theorem apply_of_lacksMessage {symbol : String} {first second : Value}
    (lacks : LacksMessage symbol first second) :
    apply symbol first second = .error (.fault .numeral) := by
  rcases lacks with ⟨base, exponent, isPower, rfl, rfl, lacks⟩
  simp only [apply, isPower, arithmeticOnIntegers, raiseIntegers_of_lacksMessage lacks]
  rfl

def Leaves (type : ValueType) (excused : Prop) (outcome : Except OperationFailure Value) :
    Prop :=
  FailsAsExpected excused outcome ∧ ∀ value, outcome = .ok value → value.type = type

section Leaves

variable {type : ValueType} {excused : Prop}

theorem Leaves.ok {value : Value} (typed : value.type = type) :
    Leaves type excused (.ok value) :=
  ⟨.ok value, fun _ equal => by cases equal; exact typed⟩

theorem Leaves.map {Result : Type} {outcome : Except OperationFailure Result}
    {change : Result → Value} (expected : FailsAsExpected excused outcome)
    (typed : ∀ result, (change result).type = type) :
    Leaves type excused (outcome.map change) := by
  cases outcome with
  | ok result => exact .ok (typed result)
  | error failure => exact ⟨expected.map, nofun⟩

end Leaves

theorem apply_arithmetic {symbol : String} {operation : Arithmetic}
    (known : ofSymbol? symbol = some (.arithmetic operation)) {first second : Value}
    {firstType secondType : ValueType} (firstNumber : firstType.isNumber = true)
    (secondNumber : secondType.isNumber = true)
    (firstFits : firstType.accepts first.type = true)
    (secondFits : secondType.accepts second.type = true) :
    Leaves (arithmeticType firstType secondType) (LacksMessage symbol first second)
      (apply symbol first second) := by
  have mixed {excused : Prop} {left right : Quantity}
      (notInts : ¬ ∃ one other, left = .int one ∧ right = .int other) :
      Leaves .float excused
        ((arithmeticOnDoubles operation (.quantity left) (.quantity right)).map .float) :=
    .map (arithmeticOnDoubles_expected notInts) fun _ => rfl
  rcases exists_quantity firstNumber firstFits with
    ⟨left, rfl, rfl⟩ | ⟨left, rfl, rfl⟩ <;>
    rcases exists_quantity secondNumber secondFits with
      ⟨right, rfl, rfl⟩ | ⟨right, rfl, rfl⟩ <;>
    simp only [apply, known, operand]
  · refine .map ((arithmeticOnIntegers_expected operation left right).mono ?_) fun _ =>
      rfl
    rintro ⟨rfl, lacks⟩
    exact ⟨left, right, known, rfl, rfl, lacks⟩
  · exact mixed (by simp)
  · exact mixed (by simp)
  · exact mixed (by simp)

theorem compareValues_numbers {excused : Prop} {order : Comparison} {type : ValueType}
    {first second : Value}
    (isNumber : type.isNumber = true) (firstFits : type.accepts first.type = true)
    (secondFits : type.accepts second.type = true) :
    Leaves .bool excused (compareValues order first second) := by
  rcases exists_quantity isNumber firstFits with ⟨left, rfl, -⟩ | ⟨left, rfl, -⟩ <;>
    rcases exists_quantity isNumber secondFits with ⟨right, rfl, -⟩ | ⟨right, rfl, -⟩ <;>
    exact .ok rfl

theorem apply_leaves {symbol : String} (known : (ofSymbol? symbol).isSome = true)
    {firstType secondType type : ValueType}
    (typed : resultType symbol firstType secondType = .ok type) {first second : Value}
    (firstFits : firstType.accepts first.type = true)
    (secondFits : secondType.accepts second.type = true) :
    Leaves type (LacksMessage symbol first second) (apply symbol first second) := by
  rcases Option.isSome_iff_exists.mp known with ⟨operator, known⟩
  unfold resultType at typed
  rw [known] at typed
  cases operator with
  | equal | notEqual =>
      simp only at typed
      split at typed <;> cases typed
      simp only [apply, known]
      exact .ok rfl
  | comparison order =>
      simp only at typed
      split at typed
      · next fit =>
          cases typed
          rcases fit with ⟨rfl, isNumber⟩
          simp only [apply, known]
          exact compareValues_numbers isNumber firstFits secondFits
      · cases typed
  | arithmetic operation =>
      have onNumbers (fit : firstType.isNumber = true ∧ secondType.isNumber = true) :=
        apply_arithmetic known fit.1 fit.2 firstFits secondFits
      cases operation with
      | add =>
          simp only at typed
          split at typed
          · next texts =>
              cases typed
              rcases texts with ⟨rfl, rfl⟩
              rcases Value.exists_string firstFits with ⟨left, rfl⟩
              rcases Value.exists_string secondFits with ⟨right, rfl⟩
              simp only [apply, known]
              exact .ok rfl
          · split at typed
            · next fit => cases typed; exact onNumbers fit
            · cases typed
      | power =>
          simp only at typed
          split at typed
          · next fit =>
              split at typed
              · cases typed
              · next notFloatPower =>
                  cases typed
                  have sameType : arithmeticType firstType secondType = firstType := by
                    rcases exists_quantity fit.1 firstFits with
                      ⟨_, _, rfl⟩ | ⟨_, _, rfl⟩ <;>
                      rcases exists_quantity fit.2 secondFits with
                        ⟨_, _, rfl⟩ | ⟨_, _, rfl⟩ <;>
                      revert notFloatPower <;> decide
                  rw [← sameType]
                  exact onNumbers fit
          · cases typed
      | subtract | multiply | divide | remainder =>
          simp only at typed
          split at typed
          · next fit => cases typed; exact onNumbers fit
          · cases typed

/-- Where the table of types gives an operator a result on two values, each known by its
own type or as any value, what the operator leaves is of exactly that type; it is never
without a meaning. -/
theorem apply_of_resultType {operator : Operator} {firstType secondType type : ValueType}
    {first second : Value} (firstKnown : firstType = first.type ∨ firstType = .any)
    (secondKnown : secondType = second.type ∨ secondType = .any)
    (typed : resultType operator.symbol firstType secondType = .ok type) :
    (∀ value, apply operator.symbol first second = .ok value → value.type = type) ∧
      ∀ failure, apply operator.symbol first second = .error failure →
        failure ≠ .fault .kinds ∧
          ∀ symbol, failure ≠ .error (.unknownOperator symbol) := by
  have known : (ofSymbol? operator.symbol).isSome = true := by
    rw [ofSymbol?_symbol]
    rfl
  obtain ⟨expected, leavesType⟩ := apply_leaves known typed
    (Value.accepts_of_own_or_any firstKnown) (Value.accepts_of_own_or_any secondKnown)
  refine ⟨leavesType, fun failure failed => ?_⟩
  rcases expected failure failed with reported | ⟨-, rfl⟩
  · constructor
    · rintro rfl
      exact reported
    · rintro symbol rfl
      exact reported
  · exact ⟨nofun, nofun⟩

theorem apply_of_resultType_remainder :
    resultType (Operator.arithmetic .remainder).symbol .int .int = .ok .int ∧
      apply (Operator.arithmetic .remainder).symbol (.int (-7)) (.int 2) =
        .ok (.int (-1)) ∧
      (Value.int (-1)).type = .int ∧
      ∀ failure,
        apply (Operator.arithmetic .remainder).symbol (.int (-7)) (.int 2) =
          .error failure →
        failure ≠ .fault .kinds ∧
          ∀ symbol, failure ≠ .error (.unknownOperator symbol) := by
  have typed : resultType (Operator.arithmetic .remainder).symbol .int .int = .ok .int :=
    rfl
  have applied :
      apply (Operator.arithmetic .remainder).symbol (.int (-7)) (.int 2) =
        .ok (.int (-1)) := rfl
  have firstKnown : ValueType.int = (Value.int (-7)).type ∨ ValueType.int = .any :=
    .inl rfl
  have secondKnown : ValueType.int = (Value.int 2).type ∨ ValueType.int = .any := .inl rfl
  have fits := apply_of_resultType firstKnown secondKnown typed
  exact ⟨typed, applied, fits.1 (.int (-1)) applied, fits.2⟩

end Operator

end StackLanguage
