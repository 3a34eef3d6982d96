import StackLanguage.Proofs.Interactive.ChunkByChunk

namespace StackLanguage

/-! The prompts that the interactive loop shows among the output of programs. They make no
difference to what a chunk does. -/

inductive IsPrompted : (prompts : List String) → (written shown : String) → Prop
  | same (text : String) : IsPrompted [] text text
  | write {prompts written shown} (prompted : IsPrompted prompts written shown)
      (text : String) :
      IsPrompted prompts (written ++ text) (shown ++ text)
  | prompt {prompts written shown} (prompted : IsPrompted prompts written shown)
      (text : String) :
      IsPrompted (prompts ++ [text]) written (shown ++ text)

def promptsOf (settings : Settings) : List (List Char) → List String
  | [] => []
  | _ :: rest => settings.prompt :: rest.map fun _ => Interactive.continuationPrompt

theorem IsPrompted.start {prompts : List String} {written shown : String}
    (prompted : IsPrompted prompts written shown) (settings : Settings) :
    IsPrompted (prompts ++ promptsOf settings []) written shown := by
  rw [promptsOf, List.append_nil]
  exact prompted

def LineUse.prompts (settings : Settings) : LineUse → List String
  | blank line => promptsOf settings [line]
  | chunk lines _ => promptsOf settings lines
  | ended lines => promptsOf settings (lines ++ [[]]) ++ ["\n"]

def Session.withOutput (session : Session) (output : String) : Session :=
  { session with machine := { session.machine with output } }

namespace Step

theorem IsLocal.shown {step : Step Result} (isLocal : IsLocal step)
    {session after : Session} {result : Result} (ended : step session = .ok result after)
    {prompts : List String} {shown : String}
    (prompted : IsPrompted prompts session.machine.output shown) :
    ∃ shown', step (session.withOutput shown) = .ok result (after.withOutput shown') ∧
      IsPrompted prompts after.machine.output shown' := by
  have restored (text : String) :
      (session.withOutput "").withPast ⟨text, 0⟩ = session.withOutput text := by
    simp [Session.withPast, Session.withOutput, Machine.withPast]
  have written := isLocal.commutes ⟨session.machine.output, 0⟩ (session.withOutput "")
  have showing := isLocal.commutes ⟨shown, 0⟩ (session.withOutput "")
  rw [restored] at written showing
  cases outcome : step (session.withOutput "") with
  | error failure base =>
      rw [outcome] at written
      cases ended.symm.trans written
  | ok result base =>
      rw [outcome] at written showing
      cases ended.symm.trans written
      exact ⟨shown ++ base.machine.output, showing, prompted.write base.machine.output⟩

end Step

namespace Interactive

open Step

theorem report_isLocal (heading : String) (failure : Failure) :
    Step.IsLocal (report heading failure) := by
  unfold report
  cases failure.text? with
  | none => exact .throw failure
  | some text => exact notify_isLocal _

theorem evaluateChunk_isLocal (source : String) :
    Step.IsLocal (evaluateChunk source) := by
  refine .bind (attempt_isLocal (evaluate_isLocal source)) fun outcome => ?_
  rcases outcome with (_ | _ | _ | _ | _) | _
  · exact .bind (report_isLocal _ _) fun _ => .pure none
  · exact .bind (report_isLocal _ _) fun _ => .pure none
  · exact .bind (report_isLocal _ _) fun _ => .pure none
  · exact .bind (notify_isLocal _) fun _ => .pure _
  · exact .bind (report_isLocal _ _) fun _ => .pure none
  · exact .pure none

end Interactive

end StackLanguage
