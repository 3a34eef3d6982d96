import StackLanguage.Proofs.Evaluation.Surroundings
import StackLanguage.Session

namespace StackLanguage

/-! What a step of a session has to do with its surroundings: what was written and how
many calls were made before a chunk is evaluated makes no difference to it, and it reads
whole lines. -/

namespace Session

def withPast (past : Past) (session : Session) : Session :=
  { session with machine := session.machine.withPast past }

def HasRead (session left : Session) : Prop :=
  left.settings = session.settings ∧ session.machine.HasRead left.machine

instance HasRead.isPreorder : IsPreorder Session HasRead where
  refl _ := ⟨rfl, refl_of Machine.HasRead _⟩
  trans _ _ _ first second :=
    ⟨second.1.trans first.1, trans_of Machine.HasRead first.2 second.2⟩

end Session

namespace Step

variable {Result : Type}

abbrev IsLocal (step : Step Result) : Prop :=
  StackLanguage.IsLocal Session.withPast Session.HasRead step

theorem modify_isLocal {change : Session → Session}
    (same : ∀ past session,
      change (session.withPast past) = (change session).withPast past)
    (unread : ∀ session, (change session).settings = session.settings ∧
      (change session).machine.input = session.machine.input) :
    IsLocal (modifyThe Session change : Step Unit) :=
  .modify same fun session =>
    ⟨(unread session).1, Machine.ComparesInput.of_eq (unread session).2⟩

theorem notify_isLocal (notice : Notice) : IsLocal (notify notice) :=
  modify_isLocal (fun _ _ => rfl) fun _ => ⟨rfl, rfl⟩

theorem ofResult_isLocal (result : Except Failure Result) :
    IsLocal (ofResult result) := by
  cases result with
  | error failure => exact .throw failure
  | ok result => exact .pure result

theorem attempt_isLocal {step : Step Result} (isLocal : IsLocal step) :
    IsLocal (attempt step) := by
  constructor
  · intro past session
    unfold attempt
    rw [isLocal.commutes past session]
    cases step session <;> rfl
  · intro session
    have kept := isLocal.keeps session
    unfold Ends at kept ⊢
    unfold attempt
    cases outcome : step session <;> (rw [outcome] at kept; exact kept)

theorem readProgram_isLocal (sourceName source : String) :
    IsLocal (readProgram sourceName source) :=
  .bind (ofResult_isLocal _) fun program => .bind (notify_isLocal _) fun _ =>
    .pure program

theorem check_isLocal (statements : List Statement) : IsLocal (check statements) := by
  unfold check
  refine .get (fun _ _ => rfl) fun session => ?_
  exact .bind (modify_isLocal (fun _ _ => rfl) fun _ => ⟨rfl, rfl⟩)
    fun _ => ofResult_isLocal _

theorem execute_isLocal (statements : List Statement) : IsLocal (execute statements) := by
  have runsLocally (limit : Nat) :=
    Run.statements_isLocal limit Program.nestingLimit statements
  constructor
  · intro past session
    have same := (runsLocally session.settings.maxCallDepth).commutes past session.machine
    unfold execute Run.whole
    dsimp only [Session.withPast]
    rw [same]
    cases Run.statements session.settings.maxCallDepth Program.nestingLimit statements
      session.machine <;> rfl
  · intro session
    have kept := (runsLocally session.settings.maxCallDepth).keeps session.machine
    unfold Ends at kept ⊢
    unfold execute Run.whole
    cases outcome :
        Run.statements session.settings.maxCallDepth Program.nestingLimit statements
          session.machine <;> (rw [outcome] at kept; exact ⟨rfl, kept⟩)

theorem resync_isLocal : IsLocal resync :=
  .bind (modify_isLocal (fun _ _ => rfl) fun _ => ⟨rfl, rfl⟩) fun _ =>
    .get (fun _ _ => rfl) fun _ => notify_isLocal _

theorem evaluate_isLocal (source : String) : IsLocal (evaluate source) := by
  unfold evaluate
  refine .bind (readProgram_isLocal _ _) fun program => ?_
  refine .bind (check_isLocal _) fun _ => ?_
  refine .bind (attempt_isLocal (execute_isLocal _)) fun outcome => ?_
  rcases outcome with (_ | _ | error | _ | _) | _
  · exact .throw _
  · exact .throw _
  · exact .bind resync_isLocal fun _ => .throw _
  · exact .throw _
  · exact .throw _
  · exact .pure ()

end Step

end StackLanguage
