import StackLanguage.Proofs.Evaluation.Declaring
import StackLanguage.Proofs.Session.Outcomes

namespace StackLanguage

/-! When the checker follows the machine. Evaluating a chunk makes it do so after an error
at run time, but neither the run of a loaded program nor an exit does: the checker
believes the same after a run as before it, and after an exit what it has found for the
whole chunk. -/

/-- What the checker believes fits a stack and the global scope: it has a type for each
value, which accepts it, and the same names, declared as the same. -/
structure Typing.State.Fits (checker : Typing.State) (values : List Value)
    (globals : Typing.Scope) : Prop where
  stack : StackFits values checker.stack
  declared : checker.scope.SameAs globals

namespace Session

def IsFollowed (session : Session) : Prop :=
  session.checker.Fits session.machine.stack session.machine.scope.declarations

def SameChecker (session after : Session) : Prop := after.checker = session.checker

instance SameChecker.isPreorder : IsPreorder Session SameChecker where
  refl _ := rfl
  trans _ _ _ first second := second.trans first

variable {after : Session} {checker : Typing.State} {limit : Nat}
    {statements : List Statement}
variable {machine : Machine}

theorem isFollowed_iff_fits (believes : after.checker = checker)
    (left : (Run.whole limit statements).after machine = after.machine) :
    after.IsFollowed ↔ checker.Fits after.machine.stack
      (machine.scope.declarations.declaringAll
        (Run.completed limit Program.nestingLimit statements machine)) := by
  have declared : after.machine.scope.declarations =
      machine.scope.declarations.declaringAll
        (Run.completed limit Program.nestingLimit statements machine) :=
    left ▸ Run.after_declarations _ _ _ _
  rw [IsFollowed, believes, declared]

end Session

namespace Step

theorem execute_keepsChecker (statements : List Statement) :
    Keeps Session.SameChecker (execute statements) := by
  intro session
  unfold Ends execute
  cases Run.whole session.settings.maxCallDepth statements session.machine <;> exact rfl

theorem run_keepsChecker : Keeps Session.SameChecker run :=
  run_keeps (fun _ => rfl) execute_keepsChecker fun _ _ _ => rfl

theorem run_isFollowed_iff {session : Session} {program : Program}
    (loaded : session.program = some program) :
    let clean : Machine := { session.machine with stack := [], scopes := [.empty] }
    let completed :=
      Run.completed session.settings.maxCallDepth Program.nestingLimit
        program.statements clean
    let isLike (after : Session) : Prop := after.IsFollowed ↔
      session.checker.Fits after.machine.stack (.declaringAll .empty completed)
    Ends run session (fun _ after => completed = program.statements ∧ isLike after)
      fun _ after => isLike after := by
  intro clean completed isLike
  refine ((run_statements loaded).and (run_keepsChecker session)).mono ?_ ?_
  · rintro _ after ⟨ended, same⟩
    exact ⟨Run.completed_of_ok ended,
      Session.isFollowed_iff_fits same (Run.after_ok ended)⟩
  · rintro _ after ⟨⟨stop, -, stopped⟩, same⟩
    exact Session.isFollowed_iff_fits same (Run.after_error stopped)

theorem exit_isFollowed_iff (source : String) (session : Session) :
    Ends (evaluate source) session (fun _ _ => True) fun failure after =>
      ∀ code, failure = .exit code → ∃ program checked,
        Program.ofText "<interactive>" source = .ok program ∧
        Typing.checkMore program.statements session.checker = (.ok (), checked) ∧
        checked.scope = session.checker.scope.declaringAll program.statements ∧
        let completed := Run.completed session.settings.maxCallDepth Program.nestingLimit
          program.statements session.machine
        (after.IsFollowed ↔ checked.Fits after.machine.stack
          (session.machine.scope.declarations.declaringAll completed)) := by
  rw [evaluate_eq]
  refine Ends.bind ((readProgram_ends _ source session).mono ?_ ?_)
  · rintro program afterRead ⟨read, sameRead⟩
    rcases checks : Typing.checkMore program.statements afterRead.checker with
      ⟨error | _, checked⟩
    · refine Ends.bind ((check_ends program.statements afterRead).mono ?_ ?_)
      · rintro _ _ ⟨checker, fits, -⟩
        cases checks.symm.trans fits
      · rintro _ _ ⟨⟨error, rfl⟩, -⟩
        exact nofun
    · refine (carryOut_ends checks).mono (fun _ _ _ => trivial) ?_
      rintro failure after ⟨stop, rfl, stopped, believes⟩ code isExit
      rw [sameRead] at checks stopped
      refine ⟨program, checked, read, checks,
        Typing.checkStatements_scope (Typing.checkMore_ok checks), ?_⟩
      have believed : after.checker = checked := by
        apply believes
        rintro error rfl
        cases isExit
      exact Session.isFollowed_iff_fits believed (Run.after_error stopped)
  · rintro _ _ ⟨⟨cause, rfl⟩, -⟩ code isExit
    cases cause <;> cases isExit

/-- Exactly when the checker follows the machine after a run, however it came to an end,
and after an exit from a chunk, in any session. A run does not change what the checker
believes, so it follows if this is already what the run leaves; where no program is loaded
nothing changes. An exit leaves the checker with what it has found for the whole chunk, so
it follows if the rest of the chunk makes no difference to it. -/
theorem isFollowed_iff (session : Session) :
    (match session.program with
      | none => run session = .error (.runtime ⟨.noProgram, .nowhere⟩) session
      | some program =>
          let clean : Machine := { session.machine with stack := [], scopes := [.empty] }
          let completed :=
            Run.completed session.settings.maxCallDepth Program.nestingLimit
              program.statements clean
          let isLike (after : Session) : Prop := after.IsFollowed ↔
            session.checker.Fits after.machine.stack (.declaringAll .empty completed)
          Ends run session (fun _ after => completed = program.statements ∧ isLike after)
            fun _ after => isLike after) ∧
    ∀ source, Ends (evaluate source) session (fun _ _ => True) fun failure after =>
      ∀ code, failure = .exit code → ∃ program checked,
        Program.ofText "<interactive>" source = .ok program ∧
        Typing.checkMore program.statements session.checker = (.ok (), checked) ∧
        checked.scope = session.checker.scope.declaringAll program.statements ∧
        let completed := Run.completed session.settings.maxCallDepth Program.nestingLimit
          program.statements session.machine
        (after.IsFollowed ↔ checked.Fits after.machine.stack
          (session.machine.scope.declarations.declaringAll completed)) := by
  refine ⟨?_, fun source => exit_isFollowed_iff source session⟩
  cases loaded : session.program with
  | none =>
      unfold run
      rw [bind_ok (get_ok session), loaded]
      rfl
  | some program => exact run_isFollowed_iff loaded

def exitedBetween : Session :=
  { Session.initial .initial "" with
    machine := { Machine.initial [] with scopes := [⟨⟨[("x", ⟨.int, .int 1⟩)]⟩, .empty⟩] }
    checker := ⟨[], [⟨⟨[("x", .int)]⟩, .empty⟩]⟩
    notices := [.log .debug "parsed 3 top-level items from <interactive>"] }

def redeclaring : Session :=
  { exitedBetween with program := some ⟨[.bind .nowhere "x" .int (some (.int 3))], ""⟩ }

theorem redeclaring_isFollowed :
    evaluate "let x: int = 1 okexit let x: int = 2" (.initial .initial "") =
        .error (.exit 0) exitedBetween ∧ exitedBetween.IsFollowed ∧
      ∃ ran, run redeclaring = .ok () ran ∧ ran.IsFollowed := by
  have read : Program.ofText "<interactive>" "let x: int = 1 okexit let x: int = 2" =
      .ok ⟨[.bind ⟨"<interactive>", ⟨1, 1⟩⟩ "x" .int (some (.int 1)),
        .word ⟨"<interactive>", ⟨1, 16⟩⟩ "okexit",
        .bind ⟨"<interactive>", ⟨1, 23⟩⟩ "x" .int (some (.int 2))], "<interactive>"⟩ := by
    cbv
  have exited : evaluate "let x: int = 1 okexit let x: int = 2" (.initial .initial "") =
      .error (.exit 0) exitedBetween := by
    cbv
  have runs : run redeclaring = .ok () (run.leaves redeclaring) := by cbv
  refine ⟨exited, ?_, _, runs, ?_⟩
  · rcases ((isFollowed_iff _).2 _).outcomes.2 _ _ exited 0 rfl with
      ⟨program, checked, otherRead, checks, declares, isFollowed⟩
    cases read.symm.trans otherRead
    cases checks
    exact isFollowed.mpr ⟨.nil, fun identifier => rfl⟩
  · have isFollowed := ((isFollowed_iff redeclaring).1.outcomes.1 _ _ runs).2
    have stack : (run.leaves redeclaring).machine.stack = [] := by cbv
    exact isFollowed.mpr ⟨stack ▸ .nil, fun identifier => rfl⟩

def exitedEarly : Session :=
  { Session.initial .initial "" with
    checker := ⟨[.int], [.empty]⟩
    notices := [.log .debug "parsed 2 top-level items from <interactive>"] }

theorem exitedEarly_not_isFollowed :
    evaluate "okexit 1" (.initial .initial "") = .error (.exit 0) exitedEarly ∧
      ¬ exitedEarly.IsFollowed ∧
      ∃ ran, runSource "" "" exitedEarly = .ok () ran ∧ ¬ ran.IsFollowed := by
  have notFollowed {session : Session} (stack : session.machine.stack = [])
      (believed : session.checker.stack = [.int]) : ¬ session.IsFollowed := by
    intro followed
    have fits := followed.stack
    rw [stack, believed] at fits
    cases fits
  refine ⟨by cbv, notFollowed rfl rfl, (runSource "" "").leaves exitedEarly, by cbv, ?_⟩
  exact notFollowed (by cbv) (by cbv)

end Step

end StackLanguage
