import StackLanguage.Proofs.Session.Steps
import StackLanguage.Proofs.Soundness.Programs

namespace StackLanguage

/-! Type soundness of whole programs: what checking a program promises about running
it. -/

open Statement (NestedInTime)
open Typing (IsChecked)

def Failure.IsExpected : Failure → Prop
  | .runtime error => error.cause.isPrevented = false
  | .exit _ => True
  | .fault reason => reason = .numeral
  | .source _ | .typing _ => False

theorem Stop.IsExpected.failure {stop : Stop} (isExpected : stop.IsExpected) :
    (Failure.ofStop stop).IsExpected := by
  cases stop <;> exact isExpected

def Premises.strict : Premises := ⟨True, fun _ _ => True⟩

namespace Step

theorem run_ends {session : Session} {sourceName source : String} {program : Program}
    (read : Program.ofText sourceName source = .ok program)
    (accepted : (Typing.checkProgram [.empty] program).1 = .ok ())
    (inTime : NestedInTime program.statements) (loaded : session.program = some program) :
    Ends run session (fun _ after => after.machine.stack = [])
      fun failure _ => failure.IsExpected := by
  rcases Program.isChecked_of_accepted read accepted (fun _ _ _ => trivial) with
    ⟨state, isChecked, isEmpty⟩
  have agrees : Agrees Premises.strict [] [] program.statements ⟨[], [.empty]⟩
      { session.machine with stack := [], scopes := [.empty] } :=
      .clean rfl rfl fun _ => inTime
  refine run_parts loaded (·.stack = []) (fun failure _ => failure.IsExpected) ?_
  refine (execute_ends isChecked agrees (.inl trivial)).mono (fun _ after ended => ?_) ?_
  · have fits := ended.2.stack
    rw [isEmpty] at fits
    exact List.forall₂_nil_right_iff.mp fits
  · rintro failure after ⟨_, stop, rfl, stopped⟩
    exact stopped.isExpected.failure

/-- Running a program that was read and checked never meets what checking is there to
prevent, and leaves nothing on the stack when it ends. -/
theorem run_sound {session : Session} {sourceName source : String} {program : Program}
    (read : Program.ofText sourceName source = .ok program)
    (accepted : (Typing.checkProgram [.empty] program).1 = .ok ())
    (inTime : NestedInTime program.statements) (loaded : session.program = some program) :
    (∀ after, run session = .ok () after → after.machine.stack = []) ∧
      ∀ failure after, run session = .error failure after → failure.IsExpected := by
  rcases (run_ends read accepted inTime loaded).outcomes with ⟨ended, failed⟩
  exact ⟨fun after => ended () after, failed⟩

def scopedCallSession : Session :=
  { Session.initial Settings.initial "" with program := some .scopedCall }

theorem run_scopedCall_sound :
    (∀ after, run scopedCallSession = .ok () after → after.machine.stack = []) ∧
      ∀ failure after,
        run scopedCallSession = .error failure after → failure.IsExpected :=
  run_sound Program.ofText_scopedCall Program.checkProgram_scopedCall
    Program.nestedInTime_scopedCall rfl

end Step

end StackLanguage
