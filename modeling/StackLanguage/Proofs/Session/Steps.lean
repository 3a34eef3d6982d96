import StackLanguage.Proofs.Ends
import StackLanguage.Proofs.Soundness.Simulation
import StackLanguage.Session

namespace StackLanguage

/-! What the parts of a step do to a session. -/

namespace Step

open Typing (IsChecked)

section

variable {Result Other : Type} {first : Step Result} {second : Result → Step Other}

theorem bind_ok {session between : Session} {result : Result}
    (ended : first session = .ok result between) :
    (first >>= second) session = second result between := by
  change EStateM.bind first second session = _
  unfold EStateM.bind
  rw [ended]

theorem bind_error {session between : Session} {failure : Failure}
    (failed : first session = .error failure between) :
    (first >>= second) session = .error failure between := by
  change EStateM.bind first second session = _
  unfold EStateM.bind
  rw [failed]

variable {step : Step Result} {session after : Session}

theorem attempt_ok {result : Result} (ended : step session = .ok result after) :
    attempt step session = .ok (.ok result) after := by
  unfold attempt
  rw [ended]

theorem attempt_error {failure : Failure} (failed : step session = .error failure after) :
    attempt step session = .ok (.error failure) after := by
  unfold attempt
  rw [failed]

theorem exists_attempt (step : Step Result) (session : Session) :
    ∃ outcome after, attempt step session = .ok outcome after := by
  unfold attempt
  cases step session with
  | ok result after => exact ⟨.ok result, after, rfl⟩
  | error failure after => exact ⟨.error failure, after, rfl⟩

theorem attempt_eq {outcome : Except Failure Result}
    (ended : attempt step session = .ok outcome after) :
    step session =
      match outcome with
      | .ok result => .ok result after
      | .error failure => .error failure after := by
  unfold attempt at ended
  cases same : step session <;> (rw [same] at ended; cases ended; rfl)

end

theorem logDebug_ends (message : String) (session : Session) :
    Ends (logDebug message) session
      (fun _ after => after = { session with notices := after.notices })
      fun _ _ => False :=
  rfl

theorem measured_ends (label : String) (session : Session) :
    Ends (measured label) session
      (fun _ after =>
        after = { session with console := after.console, notices := after.notices })
      fun _ _ => False := by
  unfold measured
  apply Ends.bind
  change Ends (if session.settings.bench then _ else _ : Step Unit) session _ _
  cases session.settings.bench <;> rfl

theorem attempt_ends {Result : Type} {step : Step Result} {session : Session}
    {atEnd : Result → Session → Prop} {atStop : Failure → Session → Prop}
    (ends : Ends step session atEnd atStop) :
    Ends (attempt step) session
      (fun outcome after => match outcome with
        | .ok result => atEnd result after
        | .error failure => atStop failure after)
      fun _ _ => False := by
  unfold Ends at ends ⊢
  unfold attempt
  cases outcome : step session <;> rw [outcome] at ends <;> exact ends

theorem readProgram_ends (sourceName source : String) (session : Session) :
    Ends (readProgram sourceName source) session
      (fun program after => Program.ofText sourceName source = .ok program ∧
        after = { session with notices := after.notices })
      fun failure after => (∃ cause, failure = .ofSource cause) ∧ after = session := by
  unfold readProgram
  apply Ends.bind
  cases read : Program.ofText sourceName source with
  | error cause => exact ⟨⟨cause, rfl⟩, rfl⟩
  | ok program => exact ⟨rfl, rfl⟩

theorem check_ends (statements : List Statement) (session : Session) :
    Ends (check statements) session
      (fun _ after => ∃ checker,
        Typing.checkMore statements session.checker = (.ok (), checker) ∧
          after = { session with checker })
      fun failure after => (∃ error, failure = .typing error) ∧ after = session := by
  unfold check
  refine Ends.bind (.get ?_)
  rcases checked : Typing.checkMore statements session.checker with ⟨error | _, checker⟩
  · have same : checker = session.checker := Typing.checkMore_error checked
    subst same
    exact ⟨⟨error, rfl⟩, rfl⟩
  · exact ⟨checker, rfl, rfl⟩

theorem execute_ends {premises : Premises} {known : List Typing.Scope}
    {outer : List Scope} {statements : List Statement} {state after : Typing.State}
    {session : Session} (checked : IsChecked premises.visited statements state after)
    (agrees : Agrees premises known outer statements state session.machine)
    (harmless :
      IsHarmless premises session.settings.maxCallDepth Program.nestingLimit statements
        session.machine) :
    Ends (execute statements) session
      (fun _ left => left = { session with machine := left.machine } ∧
        Agrees premises known outer [] after left.machine)
      fun failure left => left = { session with machine := left.machine } ∧
        ∃ stop, failure = .ofStop stop ∧ HasStopped premises outer stop left.machine := by
  have ends :=
    runsSoundly premises session.settings.maxCallDepth Program.nestingLimit checked
      agrees harmless
  unfold Ends at ends ⊢
  unfold execute Run.whole
  cases outcome :
      Run.statements session.settings.maxCallDepth Program.nestingLimit statements
        session.machine <;> rw [outcome] at ends
  · exact ⟨rfl, ends⟩
  · exact ⟨rfl, _, rfl, ends⟩

theorem resync_ends (session : Session) :
    Ends resync session
      (fun _ after => after =
        { session with
          checker :=
            ⟨session.machine.stack.map Value.type, [session.machine.scope.declarations]⟩
          notices := after.notices })
      fun _ _ => False :=
  rfl

theorem run_parts {session : Session} {program : Program}
    (loaded : session.program = some program) (atEnd : Machine → Prop)
    (atStop : Failure → Machine → Prop) (ends : Ends (execute program.statements)
      { session with machine := { session.machine with stack := [], scopes := [.empty] } }
      (fun _ after => atEnd after.machine) fun failure after =>
        atStop failure after.machine) :
    Ends run session (fun _ after => atEnd after.machine)
      fun failure after => atStop failure after.machine := by
  unfold run
  refine Ends.bind (.get ?_)
  rw [loaded]
  refine Ends.bind (.modify ?_)
  refine Ends.bind ((attempt_ends ends).mono ?_ fun _ _ => False.elim)
  intro outcome after ended
  refine Ends.bind (.get ?_)
  refine Ends.bind ((logDebug_ends _ _).mono ?_ fun _ _ => False.elim)
  intro _ afterLog same
  refine Ends.bind ((measured_ends _ _).mono ?_ fun _ _ => False.elim)
  intro _ afterRun sameRun
  refine Ends.bind ((measured_ends _ _).mono ?_ fun _ _ => False.elim)
  intro _ left sameTotal
  have sameMachine : left.machine = after.machine := by rw [sameTotal, sameRun, same]
  cases outcome with
  | ok _ =>
      change atEnd left.machine
      rw [sameMachine]
      exact ended
  | error failure =>
      change atStop failure left.machine
      rw [sameMachine]
      exact ended

end Step

end StackLanguage
