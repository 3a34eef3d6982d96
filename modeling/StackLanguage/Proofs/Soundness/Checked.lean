import StackLanguage.Proofs.Program.WellFormed
import StackLanguage.Proofs.Typing.Visits

namespace StackLanguage

/-! Statements that are known to check. The room that the checker had for them does not
matter afterwards; what matters of its visits is told by a predicate on them. -/

namespace Typing

def IsChecked (given : Statement → State → Prop) (statements : List Statement)
    (state after : State) : Prop :=
  Statement.AllWellFormed statements ∧
    ∃ room, checkStatements room statements state = .ok () after ∧
      ∀ visited visitState, Visits room statements state visited visitState →
        given visited visitState

namespace IsChecked

variable {given : Statement → State → Prop} {state after : State}

theorem nil (checked : IsChecked given [] state after) : after = state := by
  rcases checked with ⟨_, room, succeeded, _⟩
  cases room with
  | zero => cases succeeded
  | succ room => exact checkStatements_nil_ok succeeded

theorem cons {statement : Statement} {rest : List Statement}
    (checked : IsChecked given (statement :: rest) state after) :
    given statement state ∧ statement.IsWellFormed ∧
      ∃ room between,
        checkStatement (checkStatements room) statement state = .ok () between ∧
        IsChecked given rest between after ∧
        ∀ {body bodyState bodyAfter}, Enters statement state body bodyState →
          checkStatements room body bodyState = .ok () bodyAfter →
          IsChecked given body bodyState bodyAfter := by
  rcases checked with ⟨wellFormed, room, succeeded, allGiven⟩
  cases room with
  | zero => cases succeeded
  | succ room =>
      rcases checkStatements_cons_ok succeeded with ⟨between, first, remaining⟩
      refine ⟨allGiven _ _ .here, wellFormed.head, room, between, first,
        ⟨wellFormed.tail, room + 1, remaining, ?_⟩, ?_⟩
      · intro visited visitState visits
        exact allGiven _ _ (.later first visits)
      · intro body bodyState bodyAfter enters bodyChecked
        rcases enters.isBody with ⟨known, isBody⟩
        refine ⟨wellFormed.body isBody, room, bodyChecked, ?_⟩
        intro visited visitState visits
        exact allGiven _ _ (.inside enters visits)

end IsChecked

end Typing

end StackLanguage
