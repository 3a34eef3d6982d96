import StackLanguage.Proofs.Session.Outcomes
import StackLanguage.Proofs.Session.Surroundings

namespace StackLanguage

/-! What was done with a session before makes no difference to a program that is loaded
and run on it, however each step of it came to an end. -/

inductive Command where
  | evaluate (source : String)
  | load (sourceName source : String)
  | run
  | execute (statements : List Statement)

def Command.step : Command → Step Unit
  | evaluate source => Step.evaluate source
  | load sourceName source => Step.load sourceName source
  | run => Step.run
  | execute statements => Step.execute statements

namespace Session

def afterAll (session : Session) (commands : List Command) : Session :=
  commands.foldl (fun session command => command.step.leaves session) session

def SameDepth (session after : Session) : Prop :=
  after.settings = session.settings ∧ after.machine.depth = session.machine.depth

instance SameDepth.isPreorder : IsPreorder Session SameDepth where
  refl _ := ⟨rfl, rfl⟩
  trans _ _ _ first second := ⟨second.1.trans first.1, second.2.trans first.2⟩

theorem IsUnchanged.sameDepth {session after : Session}
    (unchanged : session.IsUnchanged after) : session.SameDepth after := by
  rw [unchanged]
  exact ⟨rfl, rfl⟩

end Session

namespace Step

abbrev KeepsDepth {Result : Type} (step : Step Result) : Prop :=
  Keeps Session.SameDepth step

theorem execute_keepsDepth (statements : List Statement) :
    KeepsDepth (execute statements) := by
  intro session
  have depth :=
    Run.after_depth session.settings.maxCallDepth Program.nestingLimit statements
      session.machine
  unfold Run.after at depth
  unfold Ends execute Run.whole
  cases ran : Run.statements session.settings.maxCallDepth Program.nestingLimit statements
      session.machine with
  | ok _ machine =>
      rw [ran] at depth
      exact ⟨rfl, depth⟩
  | error stop machine =>
      rw [ran] at depth
      exact ⟨rfl, depth⟩

theorem resync_keepsDepth : KeepsDepth resync :=
  fun session => (resync_ends session).mono
    (fun _ _ same => same ▸ ⟨rfl, rfl⟩) fun _ _ => False.elim

theorem carryOut_keepsDepth (statements : List Statement) :
    KeepsDepth (carryOut statements) := by
  have checkKeeps : KeepsDepth (check statements) := fun session =>
    (check_ends statements session).mono
      (fun _ _ ⟨_, _, same⟩ => same ▸ ⟨rfl, rfl⟩) fun _ _ ⟨_, same⟩ => same ▸ ⟨rfl, rfl⟩
  refine checkKeeps.bind fun _ => ?_
  refine (attempt_keeps (execute_keepsDepth statements)).bind fun outcome => ?_
  rcases outcome with (_ | _ | error | _ | _) | _
  · exact .throw _
  · exact .throw _
  · exact resync_keepsDepth.bind fun _ => .throw _
  · exact .throw _
  · exact .throw _
  · exact .pure ()

theorem run_keepsDepth : KeepsDepth run :=
  run_keeps (fun _ => ⟨rfl, rfl⟩) execute_keepsDepth fun _ _ _ => ⟨rfl, rfl⟩

theorem command_keepsDepth (command : Command) : KeepsDepth command.step := by
  cases command with
  | evaluate source =>
      change KeepsDepth (evaluate source)
      rw [evaluate_eq]
      refine Keeps.bind (fun session => (readProgram_ends _ _ session).mono ?_ ?_)
        fun program => carryOut_keepsDepth program.statements
      · rintro _ _ ⟨-, same⟩
        exact same ▸ ⟨rfl, rfl⟩
      · rintro _ _ ⟨-, rfl⟩
        exact ⟨rfl, rfl⟩
  | load sourceName source =>
      refine fun session => (load_ends sourceName source session).mono ?_ ?_
      · rintro _ _ ⟨_, _, _, same⟩
        exact same ▸ ⟨rfl, rfl⟩
      · rintro _ _ ⟨unchanged, -⟩
        exact unchanged.sameDepth
  | run => exact run_keepsDepth
  | execute statements => exact execute_keepsDepth statements

theorem sameDepth_leaves {step : Step Unit} (keeps : KeepsDepth step)
    (session : Session) : session.SameDepth (step.leaves session) := by
  have kept := keeps session
  unfold Ends at kept
  unfold leaves
  cases ended : step session <;> (rw [ended] at kept; exact kept)

theorem sameDepth_afterAll (session : Session) (commands : List Command) :
    session.SameDepth (session.afterAll commands) := by
  induction commands generalizing session with
  | nil => exact refl_of Session.SameDepth session
  | cons command rest induction =>
      exact trans_of Session.SameDepth
        (sameDepth_leaves (command_keepsDepth command) session) (induction _)

/-- A program that is loaded and run after any commands ends like on a session that has
done nothing and has the same settings and the same input left. What it writes is written
after what was written before, and its calls are counted after those made before. -/
theorem runSource_afterAll (settings : Settings) (input : String)
    (commands : List Command) {sourceName source : String} {loaded : Session} :
    let session := (Session.initial settings input).afterAll commands
    load sourceName source session = .ok () loaded →
      EndAlike (Machine.withPast ⟨session.machine.output, session.machine.calls⟩)
        (runSource sourceName source session)
        (runSource sourceName source
          (.initial settings (String.ofList session.machine.input))) := by
  intro session accepted
  rcases (load_ends sourceName source session).outcomes.1 _ _ accepted with
    ⟨program, read, checks, -⟩
  rcases sameDepth_afterAll (.initial settings input) commands with ⟨sameSettings, depth⟩
  have past : ({ session.machine with stack := [], scopes := [.empty] } : Machine) =
      (Machine.initial session.machine.input).withPast
        ⟨session.machine.output, session.machine.calls⟩ := by
    simp only [Machine.withPast, Machine.initial, String.append_empty, Nat.add_zero]
    rw [show session.machine.depth = 0 from depth]
  have clean :
      ({ (Session.initial settings (String.ofList session.machine.input)).machine with
      stack := [], scopes := [.empty] } : Machine) = .initial session.machine.input := by
    simp only [Session.initial, Machine.initial, String.toList_ofList]
  have ran := runSource_comesTo checks read session
  have ranFresh := runSource_comesTo checks read
    (.initial settings (String.ofList session.machine.input))
  rw [past, show session.settings = settings from sameSettings] at ran
  rw [clean] at ranFresh
  have commutes :
      Commutes (Machine.withPast ⟨session.machine.output, session.machine.calls⟩)
        (Run.whole settings.maxCallDepth program.statements) :=
    (Run.statements_isLocal _ _ _).commutes _
  exact ran.endAlike commutes ranFresh

def failingCommands : List Command :=
  [.evaluate "fun f \x7b f() \x7d input let x: string f()",
   .execute
    [.define .nowhere "g" [] none
      [.push .nowhere (.string "a"), .push .nowhere (.int 1), .operator .nowhere "+"],
     .call .nowhere "g"],
   .run,
   .load "" "1",
   .evaluate "7 fun h \x7b okexit \x7d h()"]

theorem runSource_afterFailures :
    let settings := { Settings.initial with maxCallDepth := 2 }
    let source := "fun f -> string \x7b input \x7d f() println"
    EndAlike (Machine.withPast ⟨"", 4⟩)
      (runSource "" source
        ((Session.initial settings "one\ntwo\n").afterAll failingCommands))
      (runSource "" source (.initial settings "two\n")) := by
  intro settings source
  have accepted : ∃ loaded, load "" source
      ((Session.initial settings "one\ntwo\n").afterAll failingCommands) =
      .ok () loaded := by
    refine ⟨?_, ?_⟩
    rotate_left
    · set_option maxRecDepth 2000 in cbv
      rfl
  rcases accepted with ⟨loaded, accepted⟩
  have alike := runSource_afterAll settings "one\ntwo\n" failingCommands accepted
  have left :
      let machine :=
        ((Session.initial settings "one\ntwo\n").afterAll failingCommands).machine
      (machine.output, machine.calls, machine.input) = ("", 4, "two\n".toList) := by
    set_option maxRecDepth 2000 in cbv
  simp only [Prod.mk.injEq] at left
  rcases left with ⟨output, calls, input⟩
  rw [output, calls, input] at alike
  exact alike

end Step

end StackLanguage
