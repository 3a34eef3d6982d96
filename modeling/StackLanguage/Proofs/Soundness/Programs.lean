import Mathlib
import StackLanguage.Proofs.Program.Elaboration
import StackLanguage.Proofs.Soundness.Moments

namespace StackLanguage

/-! Programs that were read and checked, and the clean machines that they run on. -/

open Statement (NestedInTime)
open Typing (IsChecked)

theorem Typing.checkProgram_ok {program : Program} {scopes : List Typing.Scope}
    (accepted : (checkProgram scopes program).1 = .ok ()) :
    ∃ after,
      checkStatements Program.nestingLimit program.statements ⟨[], scopes⟩ =
        .ok () after ∧
        after.stack = [] := by
  unfold checkProgram at accepted
  dsimp only at accepted
  split at accepted
  · next after checked =>
      refine ⟨after, checked, ?_⟩
      split at accepted
      · next isEmpty => exact List.isEmpty_iff.mp isEmpty
      · cases accepted
  · cases accepted
  · cases accepted

theorem Agrees.clean {premises : Premises} {statements : List Statement}
    {machine : Machine} (stack : machine.stack = []) (scopes : machine.scopes = [.empty])
    (nested : premises.inTime → NestedInTime statements) :
    Agrees premises [] [] statements ⟨[], [.empty]⟩ machine := by
  have scope : machine.scope = .empty := by rw [Machine.scope, scopes]; rfl
  refine ⟨by rw [scope, scopes], by rw [scope]; rfl, .nil, by rw [stack]; exact .nil, ?_,
    fun strict => .outermost (nested strict)⟩
  rw [scopes]
  exact WellTyped.empty trivial

namespace Program

def IsVisited (program : Program) (current : Statement) (state : Typing.State) : Prop :=
  Typing.Visits nestingLimit program.statements ⟨[], [.empty]⟩ current state

theorem isChecked_of_accepted {sourceName source : String} {program : Program}
    (read : ofText sourceName source = .ok program)
    (accepted : (Typing.checkProgram [.empty] program).1 = .ok ())
    {given : Statement → Typing.State → Prop}
    (allGiven : ∀ current state, program.IsVisited current state → given current state) :
    ∃ after,
      IsChecked given program.statements ⟨[], [.empty]⟩ after ∧ after.stack = [] := by
  rcases Typing.checkProgram_ok accepted with ⟨after, checked, isEmpty⟩
  exact ⟨after, ⟨ofText_allWellFormed read, _, checked, allGiven⟩, isEmpty⟩

def scopedCall : Program where
  statements :=
    [.bind ⟨"<input>", ⟨1, 1⟩⟩ "x" .int (some (.int 1)),
     .block ⟨"<input>", ⟨2, 1⟩⟩
       [.define ⟨"<input>", ⟨2, 3⟩⟩ "f" [] (some .int) [.load ⟨"<input>", ⟨2, 18⟩⟩ "x"],
        .call ⟨"<input>", ⟨2, 22⟩⟩ "f",
        .word ⟨"<input>", ⟨2, 26⟩⟩ "println"]]
  sourceName := "<input>"

theorem ofText_scopedCall :
    ofText "<input>" "let x: int = 1\n\x7b fun f -> int \x7b x \x7d f() println \x7d" =
      .ok scopedCall := by
  cbv

theorem checkProgram_scopedCall :
    (Typing.checkProgram [.empty] scopedCall).1 = .ok () := by
  cbv

theorem nestedInTime_scopedCall : NestedInTime scopedCall.statements := by
  decide

end Program

end StackLanguage
