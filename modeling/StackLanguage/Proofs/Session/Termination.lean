import Mathlib
import StackLanguage.Proofs.Evaluation.CallBound
import StackLanguage.Proofs.Session.Steps

namespace StackLanguage

/-! Every run of a loaded program comes to an end, and what it adds to the calls is
bounded by the limit on active calls and the call sites of the program. -/

open Statement (CallAtMost)
open Finset (range)

namespace Run

/-- With enough room a run of statements comes to this end, which is not for want of
room. -/
def EndsAs (limit : Nat) (list : List Statement) (machine : Machine)
    (outcome : EStateM.Result Stop Machine Unit) : Prop :=
  (∃ room, ∀ more, room ≤ more → statements limit more list machine = outcome) ∧
    ∀ left, outcome ≠ .error .outOfRoom left

theorem exists_endsAs (limit : Nat) (list : List Statement) (machine : Machine) :
    ∃ outcome, EndsAs limit list machine outcome := by
  rcases exists_room limit limit list machine (Nat.le_add_left _ _) with ⟨room, enough⟩
  exact ⟨statements limit room list machine,
    ⟨room, fun more le => statements_of_le le enough⟩,
    fun left exhausted => enough ⟨left, exhausted⟩⟩

theorem EndsAs.eq_or_exhausts {limit : Nat} {list : List Statement} {machine : Machine}
    {outcome : EStateM.Result Stop Machine Unit}
    (ends : EndsAs limit list machine outcome) (room : Nat) :
    statements limit room list machine = outcome ∨
      Exhausts (statements limit room list) machine := by
  by_cases exhausts : Exhausts (statements limit room list) machine
  · exact .inr exhausts
  · rcases ends.1 with ⟨enough, same⟩
    have larger := same (max enough room) (Nat.le_max_left _ _)
    exact .inl ((statements_of_le (Nat.le_max_right enough room) exhausts).symm.trans
      larger)

end Run

namespace Step

theorem run_statements {session : Session} {program : Program}
    (loaded : session.program = some program) :
    let whole := Run.whole session.settings.maxCallDepth program.statements
      { session.machine with stack := [], scopes := [.empty] }
    Ends run session (fun _ after => whole = .ok () after.machine)
      fun failure after => ∃ stop,
        failure = .ofStop stop ∧ whole = .error stop after.machine := by
  intro whole
  refine run_parts loaded (fun machine => whole = .ok () machine)
    (fun failure machine => ∃ stop, failure = .ofStop stop ∧ whole = .error stop machine)
    ?_
  unfold Ends execute
  dsimp only
  cases same : Run.whole session.settings.maxCallDepth program.statements
    { session.machine with stack := [], scopes := [.empty] } with
  | ok _ left => exact same
  | error stop left => exact ⟨stop, rfl, same⟩

/-- The run of a loaded program comes to an end, whatever functions call each other: with
enough room its statements come to an outcome, and the run comes to the same unless it
lacks the room. The calls that it adds are bounded by the call sites. -/
theorem run_terminates {session : Session} {program : Program}
    (loaded : session.program = some program) :
    let limit := session.settings.maxCallDepth
    let clean : Machine := { session.machine with stack := [], scopes := [.empty] }
    (∃ outcome, Run.EndsAs limit program.statements clean outcome ∧
      Ends run session (fun _ after => outcome = .ok () after.machine)
        fun failure after => failure = .ofStop .outOfRoom ∨
          ∃ stop, failure = .ofStop stop ∧ outcome = .error stop after.machine) ∧
    ∀ count, CallAtMost count program.statements →
      let bound := session.machine.calls + ∑ power ∈ range limit, count ^ (power + 1)
      (∀ room,
        ((Run.statements limit room program.statements).after clean).calls ≤ bound) ∧
        Ends run session (fun _ after => after.machine.calls ≤ bound)
          fun _ after => after.machine.calls ≤ bound := by
  intro limit clean
  refine ⟨?_, fun count few => ?_⟩
  · rcases Run.exists_endsAs limit program.statements clean with ⟨outcome, ends⟩
    refine ⟨outcome, ends, (run_statements loaded).mono (fun _ after ended => ?_) ?_⟩
    · rcases ends.eq_or_exhausts Program.nestingLimit with same | ⟨left, exhausted⟩
      · exact same.symm.trans ended
      · cases exhausted.symm.trans ended
    · rintro failure after ⟨stop, rfl, stopped⟩
      rcases ends.eq_or_exhausts Program.nestingLimit with same | ⟨left, exhausted⟩
      · exact .inr ⟨stop, rfl, same.symm.trans stopped⟩
      · cases exhausted.symm.trans stopped
        exact .inl rfl
  · intro bound
    have calls (room : Nat) :
        ((Run.statements limit room program.statements).after clean).calls ≤ bound :=
      Run.calls_le few Knows.not_clean room
    refine ⟨calls, (run_statements loaded).mono (fun _ after ended => ?_) ?_⟩
    · exact Run.after_ok ended ▸ calls Program.nestingLimit
    · rintro failure after ⟨stop, rfl, stopped⟩
      exact Run.after_error stopped ▸ calls Program.nestingLimit

theorem run_doubling_terminates :
    ∃ program, Program.ofText "" "fun f \x7b f() f() \x7d f()" = .ok program ∧
      (Typing.checkProgram [.empty] program).1 = .ok () ∧
      let session : Session :=
        { Session.initial { Settings.initial with maxCallDepth := 3 } "" with
          program := some program }
      (∃ outcome, Run.EndsAs 3 program.statements (.initial []) outcome) ∧
        Ends run session (fun _ after => after.machine.calls ≤ 14)
          fun _ after => after.machine.calls ≤ 14 := by
  refine ⟨⟨[.define ⟨"", ⟨1, 1⟩⟩ "f" []
    none [.call ⟨"", ⟨1, 9⟩⟩ "f", .call ⟨"", ⟨1, 13⟩⟩ "f"],
    .call ⟨"", ⟨1, 19⟩⟩ "f"], ""⟩, by cbv, by cbv, ?_⟩
  intro session
  have few : CallAtMost 2 [.define ⟨"", ⟨1, 1⟩⟩ "f" [] none
      [.call ⟨"", ⟨1, 9⟩⟩ "f", .call ⟨"", ⟨1, 13⟩⟩ "f"], .call ⟨"", ⟨1, 19⟩⟩ "f"] := by
    refine ⟨by decide, fun location name parameters result body member => ?_⟩
    simp only [Statement.everyNested, Statement.withNested, List.cons_append,
      List.nil_append, List.append_nil, List.mem_cons, Statement.define.injEq,
      reduceCtorEq, List.not_mem_nil, or_false] at member
    rw [member.2.2.2.2]
    decide
  rcases @run_terminates session _ rfl with ⟨⟨outcome, ends, _⟩, bounded⟩
  exact ⟨⟨outcome, ends⟩, (bounded 2 few).2⟩

end Step

end StackLanguage
