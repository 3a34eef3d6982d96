import StackLanguage.Proofs.Session.Programs

namespace StackLanguage

/-! Chunks that are evaluated one after another: after each of them, however it came to an
end, what the checker believes is what the machine holds. -/

open Statement (NestedInTime)
open Typing (IsChecked)

namespace Session

/-- What the checker believes is what the machine holds, in its only scope: every value on
the stack has the type at its place, and the same variables and functions are declared
with the same types and signatures. -/
structure IsInSync (session : Session) : Prop where
  stack : StackFits session.machine.stack session.checker.stack
  scopes : session.machine.scopes = [session.machine.scope]
  declared : session.checker.scopes = [session.machine.scope.declarations]
  holdsTypes : session.machine.scope.HoldsTypes

/-- Between two chunks, the machine agrees with what the checker believes and every
function in it still checks. -/
def IsSettled (session : Session) : Prop :=
  Agrees Premises.strict [] [] [] session.checker session.machine

theorem IsSettled.isInSync {session : Session} (settled : session.IsSettled) :
    session.IsInSync := by
  have wellTyped := Agrees.wellTyped settled
  rw [Agrees.scopes settled] at wellTyped
  exact ⟨Agrees.stack settled, Agrees.scopes settled, Agrees.declared settled,
    wellTyped.1⟩

theorem isSettled_initial (settings : Settings) (input : String) :
    (initial settings input).IsSettled :=
  .clean rfl rfl fun _ _ member => nomatch member

def ChunkInTime (source : String) : Prop :=
  ∀ program, Program.ofText "<interactive>" source = .ok program →
    NestedInTime program.statements

end Session

theorem Agrees.continue {premises : Premises} {state : Typing.State} {machine : Machine}
    {rest statements : List Statement} (agrees : Agrees premises [] [] rest state machine)
    (nested : premises.inTime → NestedInTime statements) :
    Agrees premises [] [] statements state machine :=
  ⟨agrees.scopes, agrees.declared, agrees.around, agrees.stack, agrees.wellTyped,
    fun strict => .outermost (nested strict)⟩

theorem HasStopped.resynced {premises : Premises} {stop : Stop} {machine : Machine}
    (stopped : HasStopped premises [] stop machine) :
    Agrees premises [] [] [] ⟨machine.stack.map Value.type, [machine.scope.declarations]⟩
      machine :=
  ⟨stopped.scopes, rfl, .nil, .types machine.stack, stopped.wellTyped,
    fun _ => .outermost fun _ member => nomatch member⟩

namespace Step

theorem evaluate_ends {session : Session} (settled : session.IsSettled) {source : String}
    (inTime : Session.ChunkInTime source) :
    Ends (evaluate source) session (fun _ after => after.IsSettled)
      fun failure after => (failure.text?.isSome = true → after.IsSettled) ∧
        ∀ error, failure = .runtime error → error.cause.isPrevented = false := by
  unfold evaluate
  refine Ends.bind ((readProgram_ends _ _ _).mono ?_ ?_)
  case refine_2 =>
    rintro failure after ⟨⟨cause, rfl⟩, rfl⟩
    exact ⟨fun _ => settled, fun error same => by cases cause <;> cases same⟩
  rintro program afterRead ⟨read, sameRead⟩
  refine Ends.bind ((check_ends _ _).mono ?_ ?_)
  case refine_2 =>
    rintro failure after ⟨⟨error, rfl⟩, rfl⟩
    rw [sameRead]
    exact ⟨fun _ => settled, nofun⟩
  rintro _ afterCheck ⟨checker, checked, sameCheck⟩
  rw [sameRead] at checked
  have isChecked :
      IsChecked Premises.strict.visited program.statements session.checker checker :=
    ⟨Program.ofText_allWellFormed read, _, Typing.checkMore_ok checked,
      fun _ _ _ => trivial⟩
  have agrees : Agrees Premises.strict [] [] program.statements session.checker
      afterCheck.machine := by
    rw [sameCheck, sameRead]
    exact Agrees.continue settled fun _ => inTime program read
  refine Ends.bind ((attempt_ends (execute_ends isChecked agrees (.inl trivial))).mono ?_
    fun _ _ => False.elim)
  intro outcome left ended
  cases outcome with
  | ok _ =>
      rcases ended with ⟨sameLeft, agreesLeft⟩
      have isChecker : left.checker = checker := by rw [sameLeft, sameCheck]
      unfold Session.IsSettled
      change Agrees _ _ _ _ left.checker left.machine
      rw [isChecker]
      exact agreesLeft
  | error failure =>
      rcases ended with ⟨_, stop, rfl, stopped⟩
      cases stop with
      | error error =>
          refine Ends.bind ((resync_ends left).mono ?_ fun _ _ => False.elim)
          rintro _ after same
          refine ⟨fun _ => ?_, fun _ sameError => ?_⟩
          · rw [same]
            exact stopped.resynced
          · cases sameError
            exact stopped.isExpected
      | exit code => exact ⟨nofun, nofun⟩
      | fault reason => exact ⟨nofun, nofun⟩

end Step

namespace Session

/-- The sessions after chunks that were evaluated one after another. Each of them has
succeeded or met an error; none has exited or was given up. -/
inductive IsReached (settings : Settings) (input : String) : Session → Prop
  | initial : IsReached settings input (.initial settings input)
  | succeeded {session after source} (reached : IsReached settings input session)
      (inTime : ChunkInTime source)
      (evaluated : Step.evaluate source session = .ok () after) :
      IsReached settings input after
  | failed {session after source failure} (reached : IsReached settings input session)
      (inTime : ChunkInTime source)
      (evaluated : Step.evaluate source session = .error failure after)
      (isError : failure.text?.isSome = true) : IsReached settings input after

theorem IsReached.isSettled {settings : Settings} {input : String} {session : Session}
    (reached : session.IsReached settings input) : session.IsSettled := by
  induction reached with
  | initial => exact isSettled_initial settings input
  | succeeded _ inTime evaluated settled =>
      exact (Step.evaluate_ends settled inTime).outcomes.1 _ _ evaluated
  | failed _ inTime evaluated isError settled =>
      exact ((Step.evaluate_ends settled inTime).outcomes.2 _ _ evaluated).1 isError

/-- After any chunks the checker believes what the machine holds, and an error at run time
that the next chunk meets is none that checking is there to prevent. -/
theorem isInSync_of_isReached {settings : Settings} {input : String} {session : Session}
    (reached : session.IsReached settings input) :
    session.IsInSync ∧ ∀ source error after, ChunkInTime source →
      Step.evaluate source session = .error (.runtime error) after →
        error.cause.isPrevented = false := by
  refine ⟨reached.isSettled.isInSync, fun source error after inTime evaluated => ?_⟩
  exact ((Step.evaluate_ends reached.isSettled inTime).outcomes.2 _ _ evaluated).2
    error rfl

def afterDivision : Session where
  settings := .initial
  machine :=
    { Machine.initial [] with
      stack := [.int 1], scopes := [⟨⟨[("x", ⟨.any, .int 1⟩)]⟩, .empty⟩] }
  checker := ⟨[.int], [⟨⟨[("x", .any)]⟩, .empty⟩]⟩
  program := none
  console := []
  notices :=
    [.log .debug "parsed 5 top-level items from <interactive>",
     .log .debug "type stack rebuilt from 1 runtime values"]

theorem afterDivision_isInSync :
    afterDivision.IsReached .initial "" ∧ afterDivision.IsInSync := by
  have inTime : ChunkInTime "let x: any = 1 x 1 0 /" := by
    intro program read
    have statements :
        (Program.ofText "<interactive>" "let x: any = 1 x 1 0 /").toOption.all
          (fun program => decide (NestedInTime program.statements)) = true := by cbv
    rw [read] at statements
    exact of_decide_eq_true statements
  have evaluated : Step.evaluate "let x: any = 1 x 1 0 /" (.initial .initial "") =
      .error (.runtime ⟨.operation .divisionByZero, ⟨"<interactive>", ⟨1, 22⟩⟩⟩)
        afterDivision := by
    cbv
  have reached : afterDivision.IsReached .initial "" :=
    .failed .initial inTime evaluated rfl
  exact ⟨reached, (isInSync_of_isReached reached).1⟩

end Session

end StackLanguage
