import StackLanguage.Proofs.Evaluation.CallLimit
import StackLanguage.Proofs.Session.Outcomes

namespace StackLanguage

/-! The limit on active calls does nothing to a loaded program but cut its run off. -/

def Failure.IsCallLimit : Failure → Prop
  | .runtime error => error.cause.IsCallLimit
  | _ => False

theorem Failure.isCallLimit_ofStop {stop : Stop} :
    (ofStop stop).IsCallLimit ↔ stop.IsCallLimit := by
  cases stop <;> rfl

namespace Step

open Run (Active)

/-- In the run of a loaded program no more calls are ever active than the limit allows,
and a run that does not fail because of the limit ends in the same way under every larger
one. -/
theorem run_callLimit {session : Session} {program : Program}
    (loaded : session.program = some program) {larger : Nat}
    (le : session.settings.maxCallDepth ≤ larger) :
    let limit := session.settings.maxCallDepth
    let clean : Machine := { session.machine with stack := [], scopes := [.empty] }
    (∀ count,
      Active limit Program.nestingLimit program.statements clean count → count ≤ limit) ∧
    (Ends run session (fun _ _ => True) (fun failure _ => ¬ failure.IsCallLimit) →
      EndAlike id
        (run { session with
          settings := { session.settings with maxCallDepth := larger } })
        (run session)) := by
  intro limit clean
  constructor
  · intro count active
    have bounded := active.depth_add_le
    omega
  · intro uncut
    have ran : ComesTo run session (Run.whole limit program.statements clean) :=
      run_statements loaded
    have ranLarger : ComesTo run
        { session with settings := { session.settings with maxCallDepth := larger } }
        (Run.whole larger program.statements clean) :=
      run_statements loaded
    have same : Run.whole larger program.statements clean =
        Run.whole limit program.statements clean := by
      refine Run.statements_larger le ?_
      rintro ⟨stop, left, stopped, isLimit⟩
      change Run.whole limit program.statements clean = .error stop left at stopped
      rw [stopped] at ran
      rcases ran.of_error with ⟨after, failed, -⟩
      exact uncut.outcomes.2 _ _ failed (Failure.isCallLimit_ofStop.mpr isLimit)
    rw [same] at ranLarger
    exact ranLarger.endAlike (Commutes.unchanged _) ran

theorem run_twoCalls_callLimit :
    ∃ program,
      Program.ofText "" "fun f \x7b input println \x7d fun g \x7b f() \x7d g()" =
        .ok program ∧
      (Typing.checkProgram [.empty] program).1 = .ok () ∧
      let session : Session :=
        { Session.initial { Settings.initial with maxCallDepth := 2 } "" with
          program := some program }
      (∀ count,
        Active 2 Program.nestingLimit program.statements (.initial []) count →
          count ≤ 2) ∧
        EndAlike id (run { session with settings := Settings.initial })
          (run session) := by
  refine ⟨⟨[.define ⟨"", ⟨1, 1⟩⟩ "f" [] none [.word ⟨"", ⟨1, 9⟩⟩ "input",
      .word ⟨"", ⟨1, 15⟩⟩ "println"],
    .define ⟨"", ⟨1, 25⟩⟩ "g" [] none [.call ⟨"", ⟨1, 33⟩⟩ "f"], .call ⟨"", ⟨1, 39⟩⟩ "g"],
    ""⟩,
    by cbv, by cbv, ?_⟩
  intro session
  have le : session.settings.maxCallDepth ≤ Settings.initial.maxCallDepth := by decide
  have limited := @run_callLimit session _ rfl _ le
  have ran : Ends run session (fun _ _ => True)
    fun failure _ => ¬ failure.IsCallLimit := by
    cbv
  exact ⟨limited.1, limited.2 ran⟩

end Step

end StackLanguage
