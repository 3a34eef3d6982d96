import StackLanguage.Proofs.Session.Rejection
import StackLanguage.Proofs.Session.Termination

namespace StackLanguage

/-! What steps of a session come to in terms of the run that they make on its machine, and
when two of them end alike. Evaluating a chunk and loading a program are taken apart from
the reading of their sources. -/

namespace Step

def leaves (step : Step Unit) (session : Session) : Session :=
  match step session with
  | .ok _ after => after
  | .error _ after => after

def carryOut (statements : List Statement) : Step Unit := do
  check statements
  match ← attempt (execute statements) with
  | .ok _ => pure ()
  | .error (.runtime error) =>
      resync
      throw (.runtime error)
  | .error failure => throw failure

theorem evaluate_eq (source : String) :
    evaluate source =
      readProgram "<interactive>" source >>= fun program => carryOut program.statements :=
      rfl

def keep (program : Program) : Step Unit := do
  ofResult ((Typing.checkProgram [.empty] program).1.mapError .typing)
  logDebug ("type check of " ++ program.sourceName ++ " passed")
  modify ({ · with program := some program })
  logDebug
    ("loaded " ++ program.sourceName ++ " (" ++ toString program.statements.length ++
      " items)")
  measured "reading, parsing:\t"
  measured "type checking:\t\t"

theorem load_eq (sourceName source : String) :
    load sourceName source = readProgram sourceName source >>= keep := rfl

theorem attempt_keeps {Result : Type} {related : Session → Session → Prop}
    {step : Step Result} (keeps : Keeps related step) : Keeps related (attempt step) := by
  intro session
  refine (attempt_ends (keeps session)).mono ?_ fun _ _ => False.elim
  rintro (_ | _) after kept
  · exact kept
  · exact kept

theorem run_keeps {related : Session → Session → Prop} [IsPreorder Session related]
    (cleans : ∀ session : Session, related session
      { session with
        machine := { session.machine with stack := [], scopes := [.empty] } })
    (executes : ∀ statements, Keeps related (execute statements))
    (tells : ∀ (session : Session) console notices,
      related session { session with console, notices }) :
    Keeps related run := by
  have logs (message : String) : Keeps related (logDebug message) :=
    .modify fun session => tells session session.console _
  have measures (label : String) : Keeps related (measured label) :=
    fun session =>
      (measured_ends label session).mono (fun _ _ same => same ▸ tells session _ _)
      fun _ _ => False.elim
  refine .get fun session => ?_
  cases session.program with
  | none => exact .throw _
  | some program =>
      refine Keeps.bind (.modify cleans) fun _ => ?_
      refine Keeps.bind (attempt_keeps (executes _)) fun outcome => .get fun _ => ?_
      refine (logs _).bind fun _ => (measures _).bind fun _ =>
        (measures _).bind fun _ => ?_
      cases outcome with
      | ok _ => exact .pure ()
      | error failure => exact .throw failure

/-! ## Coming to what a run comes to -/

/-- A step comes to what a run has come to: it leaves the machine of the run, and fails as
the run has stopped. -/
def ComesTo (step : Step Unit) (session : Session)
    (outcome : EStateM.Result Stop Machine Unit) : Prop :=
  Ends step session (fun _ after => outcome = .ok () after.machine)
    fun failure after => ∃ stop,
      failure = .ofStop stop ∧ outcome = .error stop after.machine

/-- Two steps have succeeded, or failed in the same way, and the first of them has left
what the machine that the second has left is changed to. -/
def EndAlike (change : Machine → Machine)
    (first second : EStateM.Result Failure Session Unit) : Prop :=
  match first, second with
  | .ok _ left, .ok _ other => left.machine = change other.machine
  | .error failure left, .error otherFailure other =>
      failure = otherFailure ∧ left.machine = change other.machine
  | _, _ => False

section

variable {step : Step Unit} {session : Session} {machine : Machine}

theorem ComesTo.of_ok (comes : ComesTo step session (.ok () machine)) :
    ∃ left, step session = .ok () left ∧ left.machine = machine := by
  unfold ComesTo Ends at comes
  cases ended : step session with
  | ok _ left =>
      rw [ended] at comes
      cases comes
      exact ⟨left, rfl, rfl⟩
  | error failure left =>
      rw [ended] at comes
      rcases comes with ⟨_, _, ⟨⟩⟩

theorem ComesTo.of_error {stop : Stop}
    (comes : ComesTo step session (.error stop machine)) :
    ∃ left, step session = .error (.ofStop stop) left ∧ left.machine = machine := by
  unfold ComesTo Ends at comes
  cases ended : step session with
  | ok _ left =>
      rw [ended] at comes
      cases comes
  | error failure left =>
      rw [ended] at comes
      rcases comes with ⟨_, rfl, ⟨⟩⟩
      exact ⟨left, rfl, rfl⟩

end

theorem ComesTo.endAlike {change : Machine → Machine} {run : Run Unit}
    (commutes : Commutes change run) {machine : Machine} {first second : Step Unit}
    {session other : Session} (firstComes : ComesTo first session (run (change machine)))
    (secondComes : ComesTo second other (run machine)) :
    EndAlike change (first session) (second other) := by
  rw [commutes machine] at firstComes
  unfold EndAlike
  cases outcome : run machine with
  | ok _ base =>
      rw [outcome] at firstComes secondComes
      rcases firstComes.of_ok with ⟨left, ended, leftIs⟩
      rcases secondComes.of_ok with ⟨otherLeft, otherEnded, rfl⟩
      rw [ended, otherEnded]
      exact leftIs
  | error stop base =>
      rw [outcome] at firstComes secondComes
      rcases firstComes.of_error with ⟨left, failed, leftIs⟩
      rcases secondComes.of_error with ⟨otherLeft, otherFailed, rfl⟩
      rw [failed, otherFailed]
      exact ⟨rfl, leftIs⟩

theorem ComesTo.bind {first second : Step Unit} {session : Session} {run rest : Run Unit}
    {machine : Machine}
    (comes : Ends first session
      (fun _ between => run machine = .ok () between.machine ∧
        ComesTo second between (rest between.machine))
      fun failure after => ∃ stop, failure = .ofStop stop ∧
        run machine = .error stop after.machine) :
    ComesTo (first >>= fun _ => second) session ((run >>= fun _ => rest) machine) := by
  change ComesTo _ _ (EStateM.bind run (fun _ => rest) machine)
  unfold EStateM.bind
  refine Ends.bind (comes.mono ?_ ?_)
  · rintro _ between ⟨ran, remaining⟩
    rw [ran]
    exact remaining
  · rintro failure after ⟨stop, isStop, stopped⟩
    rw [stopped]
    exact ⟨stop, isStop, rfl⟩

/-! ## What chunks and whole programs come to -/

theorem get_ok (session : Session) : (get : Step Session) session = .ok session session :=
  rfl

theorem check_ok {statements : List Statement} {session : Session}
    {checked : Typing.State}
    (fits : Typing.checkMore statements session.checker = (.ok (), checked)) :
    check statements session = .ok () { session with checker := checked } := by
  unfold check
  rw [bind_ok (get_ok session), fits]
  rfl

theorem carryOut_ends {statements : List Statement} {session : Session}
    {checked : Typing.State}
    (fits : Typing.checkMore statements session.checker = (.ok (), checked)) :
    let outcome := Run.whole session.settings.maxCallDepth statements session.machine
    Ends (carryOut statements) session
      (fun _ after => outcome = .ok () after.machine ∧ after.settings = session.settings ∧
        after.checker = checked)
      fun failure after => ∃ stop,
        failure = .ofStop stop ∧ outcome = .error stop after.machine ∧
          ((∀ error, stop ≠ .error error) → after.checker = checked) := by
  intro outcome
  refine Ends.of_eq ?_ (bind_ok (check_ok fits))
  apply Ends.bind
  unfold attempt execute
  unfold Ends
  dsimp only
  cases ran : Run.whole session.settings.maxCallDepth statements session.machine with
  | ok _ machine => exact ⟨ran, rfl, rfl⟩
  | error stop machine =>
      cases stop with
      | error error =>
          exact ⟨_, rfl, ran, fun none => (none error rfl).elim⟩
      | exit code => exact ⟨_, rfl, ran, fun _ => rfl⟩
      | fault fault => exact ⟨_, rfl, ran, fun _ => rfl⟩

theorem keep_ends (program : Program) (session : Session) :
    Ends (keep program) session
      (fun _ after => (Typing.checkProgram [.empty] program).1 = .ok () ∧
        after = { session with
          program := some program, console := after.console, notices := after.notices })
      fun _ after =>
        (Typing.checkProgram [.empty] program).1 ≠ .ok () ∧ after = session := by
  apply Ends.bind
  cases accepted : (Typing.checkProgram [.empty] program).1 with
  | error error => exact ⟨nofun, rfl⟩
  | ok =>
      refine Ends.bind ((logDebug_ends _ _).mono (fun _ afterCheck sameCheck => ?_)
        fun _ _ => False.elim)
      refine Ends.bind (.modify ?_)
      refine Ends.bind ((logDebug_ends _ _).mono (fun _ afterKeep sameKeep => ?_)
        fun _ _ => False.elim)
      refine Ends.bind ((measured_ends _ _).mono (fun _ afterFirst sameFirst => ?_)
        fun _ _ => False.elim)
      refine (measured_ends _ _).mono (fun _ after same => ?_) fun _ _ => False.elim
      refine ⟨rfl, ?_⟩
      rw [same, sameFirst, sameKeep, sameCheck]

theorem load_ends (sourceName source : String) (session : Session) :
    Ends (load sourceName source) session
      (fun _ after => ∃ program, Program.ofText sourceName source = .ok program ∧
        (Typing.checkProgram [.empty] program).1 = .ok () ∧
        after = { session with
          program := some program, console := after.console, notices := after.notices })
      fun _ after => session.IsUnchanged after ∧
        ∀ program, Program.ofText sourceName source = .ok program →
          (Typing.checkProgram [.empty] program).1 ≠ .ok () := by
  rw [load_eq]
  apply Ends.bind
  unfold readProgram
  cases read : Program.ofText sourceName source with
  | error cause => exact ⟨rfl, nofun⟩
  | ok program =>
      change Ends (logDebug _ >>= fun _ => pure program) session _ _
      refine Ends.bind ((logDebug_ends _ _).mono ?_ fun _ _ => False.elim)
      intro _ afterRead sameRead
      refine (keep_ends program afterRead).mono ?_ ?_
      · rintro _ after ⟨accepted, same⟩
        exact ⟨program, rfl, accepted, by rw [same, sameRead]⟩
      · rintro _ _ ⟨refused, rfl⟩
        refine ⟨sameRead, ?_⟩
        rintro _ ⟨⟩
        exact refused

theorem run_comesTo {session kept : Session} {program : Program}
    (same : kept = { session with
      program := some program, console := kept.console, notices := kept.notices }) :
    ComesTo run kept (Run.whole session.settings.maxCallDepth program.statements
      { session.machine with stack := [], scopes := [.empty] }) := by
  have ran := @run_statements kept program (by rw [same])
  rw [same] at ran ⊢
  exact ran

section

variable {program : Program}
    (accepted : (Typing.checkProgram [.empty] program).1 = .ok ())

include accepted

theorem keep_run_comesTo (session : Session) :
    ComesTo (keep program >>= fun _ => run) session
      (Run.whole session.settings.maxCallDepth program.statements
        { session.machine with stack := [], scopes := [.empty] }) :=
  Ends.bind ((keep_ends program session).mono (fun _ _ kept => run_comesTo kept.2)
    fun _ _ failed => (failed.1 accepted).elim)

theorem runSource_comesTo {sourceName source : String}
    (read : Program.ofText sourceName source = .ok program) (session : Session) :
    ComesTo (runSource sourceName source) session
      (Run.whole session.settings.maxCallDepth program.statements
        { session.machine with stack := [], scopes := [.empty] }) := by
  refine Ends.bind ((load_ends sourceName source session).mono ?_ ?_)
  · rintro _ loaded ⟨other, otherRead, _, same⟩
    cases read.symm.trans otherRead
    exact run_comesTo same
  · rintro _ _ ⟨-, refused⟩
    exact absurd accepted (refused program read)

end

end Step

end StackLanguage
