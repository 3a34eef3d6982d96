import StackLanguage.Proofs.Program.Nesting

namespace StackLanguage

/-! Statements that are the same up to their places, the names that statements mention,
and the two ways in which the definition of a function takes its parameters. -/

namespace Statement

mutual

inductive Alike : Statement → Statement → Prop
  | push {location other value} : Alike (.push location value) (.push other value)
  | word {location other name} : Alike (.word location name) (.word other name)
  | operator {location other symbol} :
    Alike (.operator location symbol) (.operator other symbol)
  | load {location other name} : Alike (.load location name) (.load other name)
  | call {location other name} : Alike (.call location name) (.call other name)
  | bind {location other name type initial} :
      Alike (.bind location name type initial) (.bind other name type initial)
  | define {location other name parameters result body otherBody}
      (bodyAlike : AllAlike body otherBody) :
      Alike (.define location name parameters result body)
        (.define other name parameters result otherBody)
  | ifThen {location other thenBody otherThen} (thenAlike : AllAlike thenBody otherThen) :
      Alike (.ifThen location thenBody) (.ifThen other otherThen)
  | ifThenElse {location other thenBody otherThen elseBody otherElse}
      (thenAlike : AllAlike thenBody otherThen)
      (elseAlike : AllAlike elseBody otherElse) :
      Alike (.ifThenElse location thenBody elseBody)
        (.ifThenElse other otherThen otherElse)
  | block {location other body otherBody} (bodyAlike : AllAlike body otherBody) :
      Alike (.block location body) (.block other otherBody)
  | unknown {location other kind} : Alike (.unknown location kind) (.unknown other kind)

inductive AllAlike : List Statement → List Statement → Prop
  | nil : AllAlike [] []
  | cons {statement other rest others} (head : Alike statement other)
      (tail : AllAlike rest others) : AllAlike (statement :: rest) (other :: others)

end

mutual

theorem Alike.refl : (statement : Statement) → statement.Alike statement
  | .push .. => .push
  | .word .. => .word
  | .operator .. => .operator
  | .load .. => .load
  | .call .. => .call
  | .bind .. => .bind
  | .define _ _ _ _ body => .define (AllAlike.refl body)
  | .ifThen _ thenBody => .ifThen (AllAlike.refl thenBody)
  | .ifThenElse _ thenBody elseBody =>
      .ifThenElse (AllAlike.refl thenBody) (AllAlike.refl elseBody)
  | .block _ body => .block (AllAlike.refl body)
  | .unknown .. => .unknown

theorem AllAlike.refl : (list : List Statement) → AllAlike list list
  | [] => .nil
  | statement :: rest => .cons (Alike.refl statement) (AllAlike.refl rest)

end

/-! ## Names -/

def mentioned : Statement → List String
  | .load _ name => [name]
  | .call _ name => [name]
  | .bind _ name _ _ => [name]
  | .define _ name parameters _ _ => name :: parameters.filterMap (·.name)
  | _ => []

def Avoid (names : List String) (statements : List Statement) : Prop :=
  ∀ statement ∈ everyNested statements, ∀ name ∈ names, name ∉ statement.mentioned

instance (names : List String) (statements : List Statement) :
    Decidable (Avoid names statements) :=
  inferInstanceAs (Decidable (∀ statement ∈ everyNested statements, ∀ name ∈ names,
    name ∉ statement.mentioned))

namespace Avoid

variable {names : List String} {statement : Statement} {rest : List Statement}

theorem none (statements : List Statement) : Avoid [] statements :=
  fun _ _ _ member => nomatch member

theorem head (avoid : Avoid names (statement :: rest)) :
    ∀ name ∈ names, name ∉ statement.mentioned :=
  avoid statement (mem_everyNested_head statement.mem_withNested_self)

theorem tail (avoid : Avoid names (statement :: rest)) : Avoid names rest :=
  fun inner member => avoid inner (mem_everyNested_tail member)

theorem body (avoid : Avoid names (statement :: rest)) {known : List Identifier}
    {body : List Statement} (isBody : (known, body) ∈ statement.bodies) :
    Avoid names body :=
  fun inner member =>
    avoid inner (mem_everyNested_head (mem_withNested_of_body isBody member))

end Avoid

inductive Load : List String → List Statement → Prop
  | nil : Load [] []
  | cons {location name names loads} (loadsRest : Load names loads) :
      Load (name :: names) (.load location name :: loads)

end Statement

/-! ## Parameters -/

namespace Parameter

def named (parameters : List (ValueType × String)) : List Parameter :=
  parameters.map fun (type, name) => ⟨type, some name⟩

def unnamed (parameters : List (ValueType × String)) : List Parameter :=
  parameters.map fun (type, _) => ⟨type, none⟩

variable {parameters : List (ValueType × String)}

theorem areNamed_named (nonempty : parameters ≠ []) :
    areNamed (named parameters) = true := by
  cases parameters with
  | nil => exact absurd rfl nonempty
  | cons => rfl

theorem areNamed_unnamed (parameters : List (ValueType × String)) :
    areNamed (unnamed parameters) = false := by
  cases parameters <;> rfl

theorem length_named (parameters : List (ValueType × String)) :
    (named parameters).length = parameters.length :=
  List.length_map _

theorem length_unnamed (parameters : List (ValueType × String)) :
    (unnamed parameters).length = parameters.length :=
  List.length_map _

theorem types_named (parameters : List (ValueType × String)) :
    (named parameters).map (·.type) = parameters.map (·.1) := by
  simp [named]

theorem types_unnamed (parameters : List (ValueType × String)) :
    (unnamed parameters).map (·.type) = parameters.map (·.1) := by
  simp [unnamed]

end Parameter

end StackLanguage
