import StackLanguage.Proofs.Session.Outcomes
import StackLanguage.Proofs.Soundness.Programs

namespace StackLanguage

/-! A program can be run as a whole or given to a session piece by piece. The whole is
checked before any of it is run, each piece only when those before it have been carried
out; both come to the same. -/

namespace Step

open Typing (checkStatements)

theorem carryOut_pieces_comesTo {pieces : List (List Statement)} {session : Session}
    {checked : Typing.State}
    (fits : checkStatements Program.nestingLimit pieces.flatten session.checker =
      .ok () checked) :
    ComesTo (pieces.forM carryOut) session
      (Run.whole session.settings.maxCallDepth pieces.flatten session.machine) := by
  -- After each piece the checker believes what it has found for it, and the next
  -- is checked on that.
  induction pieces generalizing session with
  | nil => exact rfl
  | cons piece rest induction =>
      rcases Typing.checkStatements_append_ok fits with ⟨between, pieceFits, restFits⟩
      have parts : Run.whole session.settings.maxCallDepth (piece ++ rest.flatten) =
          (Run.whole session.settings.maxCallDepth piece >>= fun _ =>
            Run.whole session.settings.maxCallDepth rest.flatten) :=
        Run.statements_append _ _ _ _
      rw [List.flatten_cons, parts]
      refine ComesTo.bind ((carryOut_ends (Typing.checkMore_of_ok pieceFits)).mono ?_ ?_)
      · rintro _ after ⟨ran, sameSettings, believed⟩
        rw [← believed] at restFits
        exact ⟨ran, sameSettings ▸ induction restFits⟩
      · rintro failure after ⟨stop, isStop, stopped, -⟩
        exact ⟨stop, isStop, stopped⟩

/-- A program that checks, given to a session that has done nothing in pieces of any size,
passes the check of each piece that is reached and ends like the program run as a
whole. -/
theorem carryOut_pieces {program : Program}
    (accepted : (Typing.checkProgram [.empty] program).1 = .ok ())
    {pieces : List (List Statement)} (cut : pieces.flatten = program.statements)
    (settings : Settings) (input : String) :
    let fresh := Session.initial settings input
    Ends (pieces.forM carryOut) fresh (fun _ _ => True) (fun failure _ =>
      failure.isRejection = false) ∧
    EndAlike id (pieces.forM carryOut fresh) ((keep program >>= fun _ => run) fresh) := by
  intro fresh
  rcases Typing.checkProgram_ok accepted with ⟨checked, fits, -⟩
  rw [← cut] at fits
  have inPieces : ComesTo _ fresh _ := carryOut_pieces_comesTo fits
  rw [cut] at inPieces
  constructor
  · refine inPieces.mono (fun _ _ _ => trivial) ?_
    rintro failure after ⟨stop, rfl, -⟩
    cases stop <;> rfl
  · exact inPieces.endAlike (Commutes.unchanged _) (keep_run_comesTo accepted fresh)

theorem carryOut_pieces_division :
    let define : Statement := .define .nowhere "f" [] (some .int)
      [.push .nowhere (.int 1), .push .nowhere (.int 0), .operator .nowhere "/"]
    let call : List Statement := [.push .nowhere (.string "a"), .call .nowhere "f"]
    let drop : List Statement := [.word .nowhere "drop", .word .nowhere "println"]
    let program : Program := ⟨define :: call ++ drop, ""⟩
    let fresh := Session.initial .initial ""
    Ends ([[define], call, drop].forM carryOut) fresh (fun _ _ => True) (fun failure _ =>
      failure.isRejection = false) ∧
    EndAlike id ([[define], call, drop].forM carryOut fresh)
      ((keep program >>= fun _ => run) fresh) := by
  intro define call drop program
  have accepted : (Typing.checkProgram [.empty] program).1 = .ok () := by cbv
  exact carryOut_pieces accepted rfl .initial ""

end Step

end StackLanguage
