import StackLanguage.Proofs.Interactive.Prompts
import StackLanguage.Proofs.Session.InputLines

namespace StackLanguage

/-! A round of the interactive loop: what it does with the next line, and with a chunk
that is then finished or not. -/

namespace Interactive

open Step

/-! ## Reading a line -/

theorem get_eq (session : Session) : (get : Step Session) session = .ok session session :=
  rfl

theorem say_eq (text : String) (session : Session) :
    say text session = .ok () (session.withOutput (session.machine.output ++ text)) := rfl

theorem nextLine?_some {session : Session} {line : List Char} {rest : List (List Char)}
    (next : session.lines = line :: rest) :
    nextLine? session =
      .ok (some (String.ofList line)) (session.withInput rest.flatten) := by
  have notEmpty : session.machine.input ≠ [] := by
    intro isEmpty
    rw [Session.lines, isEmpty] at next
    cases next
  have lines := linesOf_eq notEmpty
  rw [← Session.lines, next] at lines
  rcases List.cons.inj lines with ⟨isLine, isRest⟩
  rw [take_line] at isLine
  have left : session.machine.readLine.2 =
      { session.machine with input := rest.flatten } := by
    rw [isRest, flatten_linesOf]
    rfl
  have text : (if session.machine.readLine.1.length < session.machine.input.length
      then session.machine.readLine.1 ++ "\n" else session.machine.readLine.1) =
      String.ofList line := by
    rw [isLine]
    simp only [Machine.readLine, String.length_ofList]
    split
    · exact String.ofList_append.symm
    · rfl
  unfold nextLine?
  rw [bind_ok (get_eq session)]
  dsimp only
  rw [if_neg (by simpa using notEmpty), ← text, Session.withInput, ← left]
  rfl

theorem nextLine?_none {session : Session} (noLines : session.lines = []) :
    nextLine? session = .ok none session := by
  unfold nextLine?
  rw [bind_ok (get_eq session)]
  simp [linesOf_eq_nil.mp noLines]
  rfl

abbrev promptOf (session : Session) (pending : String) : String :=
  if pending = "" then session.settings.prompt else continuationPrompt

def afterLines (left : Nat) (source : String) : Step Int := do
  match ← attempt (evaluate source) with
  | .ok _ => rounds left ""
  | .error (.source error) =>
      if error.cause.isIncomplete then rounds left source
      else
        report "error parsing input" (.source error)
        rounds left ""
  | .error (.exit code) =>
      logDebug ("interactive session ended with exit code " ++ toString code)
      pure code
  | .error failure =>
      report "error" failure
      rounds left ""

theorem rounds_line {session : Session} {line : List Char} {rest : List (List Char)}
    (next : session.lines = line :: rest) (left : Nat) (pending : String) :
    rounds (left + 1) pending session =
      (if (pending ++ String.ofList line).toList.all isBlank then rounds left pending
        else afterLines left (pending ++ String.ofList line))
        ((session.withInput rest.flatten).withOutput
          (session.machine.output ++ promptOf session pending)) := by
  have nextIs : nextLine? (session.withOutput (session.machine.output ++
      promptOf session pending)) = .ok _ _ := nextLine?_some next
  rw [rounds, bind_ok (get_eq session),
    bind_ok (say_eq (promptOf session pending) session),
    bind_ok nextIs]
  rfl

theorem rounds_end {session : Session} (noLines : session.lines = []) (left : Nat)
    (pending : String) :
    rounds (left + 1) pending session =
      (do
        if pending ≠ "" then feed pending
        say "\n"
        pure 0 : Step Int)
        (session.withOutput (session.machine.output ++ promptOf session pending)) := by
  have nextIs : nextLine? (session.withOutput (session.machine.output ++
      promptOf session pending)) = .ok _ _ := nextLine?_none noLines
  rw [rounds, bind_ok (get_eq session),
    bind_ok (say_eq (promptOf session pending) session),
    bind_ok nextIs]

/-! ## Unfinished and finished chunks -/

theorem evaluate_unfinished {lines : List (List Char)} {error : Located SyntaxError}
    (isUnfinished : unfinished? lines = some error) (session : Session) :
    evaluate (sourceOf lines) session = .error (.source error) session ∧
      error.cause.isIncomplete = true := by
  unfold unfinished? at isUnfinished
  split at isUnfinished
  · next found read =>
      split at isUnfinished
      · next isIncomplete =>
          cases isUnfinished
          refine ⟨?_, isIncomplete⟩
          unfold evaluate readProgram
          rw [read]
          rfl
      · cases isUnfinished
  · cases isUnfinished

theorem afterLines_unfinished {lines : List (List Char)} {error : Located SyntaxError}
    (isUnfinished : unfinished? lines = some error) (left : Nat) (session : Session) :
    afterLines left (sourceOf lines) session = rounds left (sourceOf lines) session := by
  rcases evaluate_unfinished isUnfinished session with ⟨failed, isIncomplete⟩
  unfold afterLines
  rw [bind_ok (attempt_error failed)]
  dsimp only
  rw [if_pos isIncomplete]

theorem feed_unfinished {lines : List (List Char)} {error : Located SyntaxError}
    (isUnfinished : unfinished? lines = some error) (session : Session) :
    feed (sourceOf lines) session =
      notify (.report ("error: " ++ error.text SyntaxError.message)) session := by
  unfold feed
  rw [bind_ok (attempt_error (evaluate_unfinished isUnfinished session).1)]
  rfl

theorem afterLines_finished {lines : List (List Char)}
    (isFinished : unfinished? lines = none) (left : Nat) (session : Session) :
    afterLines left (sourceOf lines) session =
      (do
        match ← evaluateChunk (sourceOf lines) with
        | none => rounds left ""
        | some code => pure code : Step Int) session := by
  unfold afterLines evaluateChunk
  rw [bind_assoc]
  cases outcome : evaluate (sourceOf lines) session with
  | ok result after =>
      rw [bind_ok (attempt_ok outcome), bind_ok (attempt_ok outcome)]
      rfl
  | error failure after =>
      rw [bind_ok (attempt_error outcome), bind_ok (attempt_error outcome)]
      cases failure with
      | source error =>
          have found := (evaluate_source _ session).outcomes.2 _ _ outcome error rfl
          have isComplete : error.cause.isIncomplete = false := by
            unfold unfinished? at isFinished
            rw [found] at isFinished
            simpa using isFinished
          simp [isComplete]
      | exit code => simp
      | typing error => simp
      | runtime error => simp
      | fault error => simp

/-! ## What a chunk reads -/

theorem report_ends (heading : String) (failure : Failure) (session : Session) :
    Ends (report heading failure) session (fun _ after => after.machine = session.machine)
      fun _ after => after.machine = session.machine := by
  unfold report
  cases failure.text? <;> rfl

theorem evaluateChunk_input (source : String) (session : Session) :
    Ends (evaluateChunk source) session (fun _ after => LeavesInput source session after)
      fun _ after => LeavesInput source session after := by
  have reported {between : Session} (isLeft : LeavesInput source session between)
      (heading : String) (failure : Failure) :
      Ends (do report heading failure; pure none : Step (Option Int)) between
        (fun _ after => LeavesInput source session after)
        fun _ after => LeavesInput source session after := by
    have unread {after : Session} (same : after.machine = between.machine) :
        LeavesInput source session after := by
      rw [LeavesInput, same]
      exact isLeft
    apply Ends.bind
    exact (report_ends _ _ _).mono (fun _ _ same => unread same)
      fun _ _ same => unread same
  unfold evaluateChunk
  refine Ends.bind
    ((attempt_ends (evaluate_input source session)).mono ?_ fun _ _ => False.elim)
  intro outcome between ended
  rcases outcome with (_ | _ | _ | _ | _) | _
  · exact reported ended _ _
  · exact reported ended _ _
  · exact reported ended _ _
  · exact ended
  · exact reported ended _ _
  · exact ended

theorem LeavesInput.readsData {chunk data : List (List Char)} {session after : Session}
    (isLeft : LeavesInput (sourceOf chunk) session after)
    (read : session.lines = data ++ after.lines) :
    ReadsData chunk session data after.lines := by
  rintro front line back rfl
  have toRead : line :: (back ++ after.lines) <:+ session.lines := by
    rw [read, List.append_assoc]
    exact List.suffix_append _ _
  have remaining : after.lines <:+ back ++ after.lines := List.suffix_append _ _
  rcases isLeft with unread | ⟨program, isProgram, isLeft⟩
  · have same : after.lines = session.lines := congrArg linesOf unread
    rw [← same] at toRead
    exact (not_suffix_of_cons toRead remaining).elim
  · have isRead :
        linesOf ((Run.whole session.settings.maxCallDepth program.statements).inputAfter
          session.machine) <:+ back ++ after.lines := by
      rw [← isLeft]
      exact remaining
    rcases Run.exists_readsLine program.statements session.machine toRead isRead with
      ⟨location, now, reads⟩
    exact ⟨program, isProgram, (location, now), reads,
      fun _ again => Prod.ext (reads.unique again).1 (reads.unique again).2⟩

end Interactive

end StackLanguage
