import StackLanguage.Operator
import StackLanguage.Proofs.Program.Nesting

namespace StackLanguage

/-! What reading a program already rules out: operators that the language does not have,
and variables that start with a value of the wrong type. The checker takes both for
granted. -/

namespace Statement

def IsWellFormed : Statement → Prop
  | .operator _ symbol => (Operator.ofSymbol? symbol).isSome = true
  | .bind _ _ type (some value) => type.accepts value.type = true
  | _ => True

def AllWellFormed (statements : List Statement) : Prop :=
  ∀ statement ∈ everyNested statements, statement.IsWellFormed

namespace AllWellFormed

theorem head {statement : Statement} {rest : List Statement}
    (wellFormed : AllWellFormed (statement :: rest)) : statement.IsWellFormed :=
  wellFormed statement (mem_everyNested_head statement.mem_withNested_self)

theorem tail {statement : Statement} {rest : List Statement}
    (wellFormed : AllWellFormed (statement :: rest)) : AllWellFormed rest :=
  fun inner member => wellFormed inner (mem_everyNested_tail member)

theorem body {statement : Statement} {rest body : List Statement}
    {known : List Identifier} (wellFormed : AllWellFormed (statement :: rest))
    (isBody : (known, body) ∈ statement.bodies) : AllWellFormed body :=
  fun inner member =>
    wellFormed inner (mem_everyNested_head (mem_withNested_of_body isBody member))

end AllWellFormed

end Statement

end StackLanguage
