import Mathlib
import StackLanguage.Proofs.Session.Steps

namespace StackLanguage

/-! A source that cannot be read or does not check leaves no trace in a session, whatever
the session holds: also where the checker and the machine have come to disagree. -/

def Failure.isRejection : Failure → Bool
  | source _ | typing _ => true
  | _ => false

/-- The same session, apart from what its surroundings were told. -/
def Session.IsUnchanged (before after : Session) : Prop :=
  after = { before with notices := after.notices }

namespace Step

theorem execute_not_rejected (statements : List Statement) (session : Session) :
    Ends (execute statements) session (fun _ _ => True) fun failure _ =>
      failure.isRejection = false := by
  unfold Ends execute
  cases Run.whole session.settings.maxCallDepth statements session.machine with
  | ok => trivial
  | error stop => cases stop <;> rfl

theorem evaluate_parts {source : String} {session : Session}
    {atEnd : Unit → Session → Prop} {atStop : Failure → Session → Prop}
    (unread : ∀ cause, Program.ofText "<interactive>" source = .error cause →
      atStop (.ofSource cause) session)
    (unchecked : ∀ error after, session.IsUnchanged after → atStop (.typing error) after)
    (ran : ∀ program checked, Program.ofText "<interactive>" source = .ok program →
      checked.settings = session.settings → checked.machine = session.machine →
      Ends (execute program.statements) checked atEnd
        fun failure left => ∀ after,
          after.machine = left.machine → atStop failure after) :
    Ends (evaluate source) session atEnd atStop := by
  unfold evaluate
  apply Ends.bind
  unfold readProgram
  cases read : Program.ofText "<interactive>" source with
  | error cause => exact unread cause read
  | ok program =>
      change Ends (logDebug _ >>= fun _ => pure program) session _ _
      refine Ends.bind ((logDebug_ends _ _).mono ?_ fun _ _ => False.elim)
      intro _ afterRead sameRead
      refine Ends.bind ((check_ends _ _).mono ?_ ?_)
      · rintro _ checked ⟨checker, -, sameChecked⟩
        have ends := ran program checked read (by rw [sameChecked, sameRead])
          (by rw [sameChecked, sameRead])
        refine Ends.bind ((attempt_ends ends).mono ?_ fun _ _ => False.elim)
        intro outcome left ended
        rcases outcome with (_ | _ | error | _ | _) | _
        · exact ended left rfl
        · exact ended left rfl
        · refine Ends.bind ((resync_ends left).mono ?_ fun _ _ => False.elim)
          intro _ after same
          exact ended after (by rw [same])
        · exact ended left rfl
        · exact ended left rfl
        · exact ended
      · rintro _ after ⟨⟨error, rfl⟩, sameAfter⟩
        exact unchecked error after (sameAfter ▸ sameRead)

theorem evaluate_source (source : String) (session : Session) :
    Ends (evaluate source) session (fun _ _ => True) fun failure _ =>
      ∀ error, failure = .source error →
        Program.ofText "<interactive>" source = .error (.error error) := by
  apply evaluate_parts
  · intro cause read error same
    cases cause with
    | error found =>
        cases same
        exact read
    | fault fault => cases same
  · intro _ _ _ _ same
    cases same
  · intro program checked _ _ _
    refine (execute_not_rejected program.statements checked).mono
      (fun _ _ _ => trivial) ?_
    intro failure _ notRejected _ _ error same
    rw [same] at notRejected
    cases notRejected

theorem evaluate_rejected (source : String) (session : Session) :
    Ends (evaluate source) session (fun _ _ => True) fun failure after =>
      failure.isRejection = true → session.IsUnchanged after := by
  apply evaluate_parts
  · intro _ _ _
    rfl
  · intro _ _ unchanged _
    exact unchanged
  · intro program checked _ _ _
    refine (execute_not_rejected program.statements checked).mono
      (fun _ _ _ => trivial) ?_
    intro failure _ notRejected _ _ rejected
    cases notRejected.symm.trans rejected

theorem load_rejected (sourceName source : String) (session : Session) :
    Ends (load sourceName source) session (fun _ _ => True) fun _ after =>
      session.IsUnchanged after := by
  unfold load
  refine Ends.bind
    ((readProgram_ends _ _ _).mono ?_ fun failure after ended => ended.2 ▸ rfl)
  rintro program afterRead ⟨_, sameRead⟩
  apply Ends.bind
  cases (Typing.checkProgram [.empty] program).1 with
  | error error => exact sameRead
  | ok =>
      refine Ends.bind ((logDebug_ends _ _).mono (fun _ _ _ => ?_) fun _ _ => False.elim)
      refine Ends.bind (.modify ?_)
      refine Ends.bind ((logDebug_ends _ _).mono (fun _ _ _ => ?_) fun _ _ => False.elim)
      refine Ends.bind ((measured_ends _ _).mono (fun _ _ _ => ?_) fun _ _ => False.elim)
      exact (measured_ends _ _).mono (fun _ _ _ => trivial) fun _ _ => False.elim

/-- A source that is rejected, when it is evaluated or when it is loaded, changes nothing:
not the machine, not what the checker believes, and not the program that was loaded
before. -/
theorem unchanged_of_rejected {failure : Failure} (rejected : failure.isRejection = true)
    (session after : Session) :
    (∀ source,
      evaluate source session = .error failure after → session.IsUnchanged after) ∧
      ∀ sourceName source, load sourceName source session = .error failure after →
        session.IsUnchanged after :=
  ⟨fun source failed => (evaluate_rejected source session).outcomes.2 _ _ failed rejected,
    fun sourceName source failed =>
      (load_rejected sourceName source session).outcomes.2 _ _ failed⟩

def disagreeing : Session :=
  { Session.initial .initial "line\n" with
    checker := ⟨[.int], [⟨.empty, ⟨[("f", ⟨[], false, none⟩)]⟩⟩]⟩ }

theorem disagreeing_unchanged :
    ∃ failure after,
      evaluate "let y: int fun g { let z: bool = true { z 1 + } }" disagreeing =
        .error failure after ∧ failure.isRejection = true ∧
        disagreeing.IsUnchanged after := by
  have failed : evaluate "let y: int fun g { let z: bool = true { z 1 + } }" disagreeing =
      .error (.typing ⟨.brokenPromise (.operands .addition), ⟨"<interactive>", ⟨1, 45⟩⟩⟩)
        { disagreeing with
          notices := [.log .debug "parsed 2 top-level items from <interactive>"] } := by
    cbv
  exact ⟨_, _, failed, rfl, (unchanged_of_rejected rfl disagreeing _).1 _ failed⟩

end Step

end StackLanguage
