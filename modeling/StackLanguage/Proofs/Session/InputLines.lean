import StackLanguage.Proofs.Evaluation.InputLines
import StackLanguage.Proofs.Session.Rejection

namespace StackLanguage

/-! What a step of a session takes of the input is what the run of a program takes of
it. -/

namespace Step

theorem execute_input (statements : List Statement) (session : Session) :
    let left :=
      (Run.whole session.settings.maxCallDepth statements).inputAfter session.machine
    Ends (execute statements) session (fun _ after => after.machine.input = left)
      fun _ after => after.machine.input = left := by
  unfold Ends execute Run.inputAfter
  cases Run.whole session.settings.maxCallDepth statements session.machine <;> rfl

def LeavesInput (source : String) (session after : Session) : Prop :=
  after.machine.input = session.machine.input ∨
    ∃ program, Program.ofText "<interactive>" source = .ok program ∧
      after.machine.input =
        (Run.whole session.settings.maxCallDepth program.statements).inputAfter
          session.machine

theorem evaluate_input (source : String) (session : Session) :
    Ends (evaluate source) session (fun _ after => LeavesInput source session after)
      fun _ after => LeavesInput source session after := by
  apply evaluate_parts
  · intro _ _
    exact .inl rfl
  · intro _ after unchanged
    exact .inl (unchanged ▸ rfl)
  · intro program checked read sameSettings sameMachine
    have isLeft {after : Session} (taken : after.machine.input =
        (Run.whole checked.settings.maxCallDepth program.statements).inputAfter
          checked.machine) :
        LeavesInput source session after := by
      rw [sameSettings, sameMachine] at taken
      exact .inr ⟨program, read, taken⟩
    apply (execute_input program.statements checked).mono
    · intro _ _ taken
      exact isLeft taken
    · intro _ left taken after same
      exact isLeft (same ▸ taken)

end Step

end StackLanguage
