import StackLanguage.Interactive
import StackLanguage.Proofs.Evaluation.InputLines
import StackLanguage.Proofs.Session.Surroundings

namespace StackLanguage

/-! What an interactive session is to do, chunk by chunk: blank lines are passed over, the
shortest run of lines that is not unfinished is evaluated once, and what it leaves of the
input is gone on with. Every line is used once. -/

def sourceOf (lines : List (List Char)) : String := String.ofList lines.flatten

theorem toList_sourceOf (lines : List (List Char)) :
    (sourceOf lines).toList = lines.flatten :=
  String.toList_ofList

theorem sourceOf_append (lines : List (List Char)) (line : List Char) :
    sourceOf lines ++ String.ofList line = sourceOf (lines ++ [line]) := by
  simp [sourceOf, String.ofList_append]

def unfinished? (lines : List (List Char)) : Option (Located SyntaxError) :=
  match Program.ofText "<interactive>" (sourceOf lines) with
  | .error (.error error) => if error.cause.isIncomplete then some error else none
  | _ => none

/-- Lines that begin with one that is not blank, and of which every shorter run is
unfinished. -/
structure IsRun (lines : List (List Char)) : Prop where
  starts : ∃ first rest, lines = first :: rest ∧ first.all isBlank = false
  shortest : ∀ shorter, shorter <+: lines → shorter ≠ [] → shorter ≠ lines →
    unfinished? shorter ≠ none

theorem IsRun.ne_nil {lines : List (List Char)} (isRun : IsRun lines) : lines ≠ [] := by
  rcases isRun.starts with ⟨first, rest, rfl, -⟩
  simp

theorem IsRun.sourceOf_ne {lines : List (List Char)} (isRun : IsRun lines) :
    sourceOf lines ≠ "" := by
  rcases isRun.starts with ⟨first, rest, rfl, notBlank⟩
  intro isEmpty
  have noText : first ++ rest.flatten = [] := by
    simpa [toList_sourceOf] using congrArg String.toList isEmpty
  rw [(List.append_eq_nil_iff.mp noText).1] at notBlank
  cases notBlank

theorem IsRun.not_blank {run rest lines : List (List Char)} {line : List Char}
    (isRun : IsRun run) (same : run ++ rest = line :: lines) :
    line.all isBlank = false := by
  rcases isRun.starts with ⟨first, others, rfl, notBlank⟩
  cases same
  exact notBlank

theorem IsRun.eq_of_isPrefix {run shorter : List (List Char)} (isRun : IsRun run)
    (shorterRun : IsRun shorter) (isFinished : unfinished? shorter = none)
    (isPrefix : shorter <+: run) : shorter = run := by
  apply Classical.byContradiction
  intro different
  exact isRun.shortest shorter isPrefix shorterRun.ne_nil different isFinished

theorem IsRun.eq_of_append {first second firstRest secondRest : List (List Char)}
    (firstRun : IsRun first) (secondRun : IsRun second)
    (firstFinished : unfinished? first = none)
    (secondFinished : unfinished? second = none)
    (same : first ++ firstRest = second ++ secondRest) :
    first = second ∧ firstRest = secondRest := by
  have isSame : first = second := by
    rcases List.prefix_or_prefix_of_prefix (List.prefix_append first firstRest)
      (same ▸ List.prefix_append second secondRest) with isPrefix | isPrefix
    · exact secondRun.eq_of_isPrefix firstRun firstFinished isPrefix
    · exact (firstRun.eq_of_isPrefix secondRun secondFinished isPrefix).symm
  subst isSame
  exact ⟨rfl, List.append_cancel_left same⟩

inductive LineUse where
  | blank (line : List Char)
  | chunk (lines data : List (List Char))
  | ended (lines : List (List Char))

def LineUse.lines : LineUse → List (List Char)
  | blank line => [line]
  | chunk lines data => lines ++ data
  | ended lines => lines

namespace Session

def withInput (session : Session) (input : List Char) : Session :=
  { session with machine := { session.machine with input } }

def lines (session : Session) : List (List Char) := linesOf session.machine.input

theorem withInput_lines (session : Session) :
    session.withInput session.lines.flatten = session := by
  rw [Session.lines, flatten_linesOf]
  rfl

end Session

namespace Interactive

open Step

def evaluateChunk (source : String) : Step (Option Int) := do
  match ← attempt (evaluate source) with
  | .ok _ => pure none
  | .error (.exit code) =>
      logDebug ("interactive session ended with exit code " ++ toString code)
      pure (some code)
  | .error (.source error) =>
      report "error parsing input" (.source error)
      pure none
  | .error failure =>
      report "error" failure
      pure none

def ReadsData (chunk : List (List Char)) (session : Session)
    (data rest : List (List Char)) : Prop :=
  ∀ front line back, data = front ++ line :: back →
    ∃ program, Program.ofText "<interactive>" (sourceOf chunk) = .ok program ∧
      ∃! moment : Location × Machine,
        Run.ReadsLine session.settings.maxCallDepth Program.nestingLimit
          program.statements session.machine line (back ++ rest) moment.1 moment.2

/-- What is done with the next lines of the input: nothing comes of a blank line, a chunk
may end the session with a code, and so does the end of the input in a chunk. -/
inductive UsesLines : Session → LineUse → Except Failure (Option Int) → Session → Prop
  | blank {session line rest} (next : session.lines = line :: rest)
      (isBlank : line.all isBlank = true) :
      UsesLines session (.blank line) (.ok none) (session.withInput rest.flatten)
  | chunk {session chunk rest data outcome after} (next : session.lines = chunk ++ rest)
      (isRun : IsRun chunk) (isFinished : unfinished? chunk = none)
      (evaluated :
        attempt (evaluateChunk (sourceOf chunk)) (session.withInput rest.flatten) =
          .ok outcome after)
      (read : rest = data ++ after.lines)
      (readsData : ReadsData chunk (session.withInput rest.flatten) data after.lines) :
      UsesLines session (.chunk chunk data) outcome after
  | ended {session} (noLines : session.lines = []) :
      UsesLines session (.ended []) (.ok (some 0)) session
  | unfinished {session error} (isRun : IsRun session.lines)
      (isUnfinished : unfinished? session.lines = some error) :
      UsesLines session (.ended session.lines) (.ok (some 0))
        { session.withInput [] with
          notices :=
            session.notices ++ [.report ("error: " ++ error.text SyntaxError.message)] }

/-- What is done with the whole input: the uses of its lines, and what it comes to. -/
inductive EvaluatesChunks : Session → List LineUse → Except Failure Int → Session → Prop
  | goesOn {session use between uses outcome after}
      (usesLines : UsesLines session use (.ok none) between)
      (more : EvaluatesChunks between uses outcome after) :
      EvaluatesChunks session (use :: uses) outcome after
  | exits {session use code after}
      (usesLines : UsesLines session use (.ok (some code)) after) :
      EvaluatesChunks session [use] (.ok code) after
  | fails {session use failure after}
      (usesLines : UsesLines session use (.error failure) after) :
      EvaluatesChunks session [use] (.error failure) after

/-! ## Every line is used once -/

theorem UsesLines.lines {session after : Session} {use : LineUse}
    {outcome : Except Failure (Option Int)}
    (usesLines : UsesLines session use outcome after) :
    session.lines = use.lines ++ after.lines := by
  cases usesLines with
  | @blank line rest next =>
      rw [next]
      exact congrArg (line :: ·)
        (linesOf_flatten_of_append (List.singleton_append ▸ next)).symm
  | chunk next isRun isFinished evaluated read readsData =>
      rw [next, read, LineUse.lines, List.append_assoc]
  | ended noLines => exact (List.nil_append _).symm
  | unfinished isRun isUnfinished => exact (List.append_nil _).symm

theorem EvaluatesChunks.lines {session after : Session} {uses : List LineUse}
    {outcome : Except Failure Int}
    (evaluates : EvaluatesChunks session uses outcome after) :
    session.lines = uses.flatMap LineUse.lines ++ after.lines := by
  induction evaluates with
  | goesOn usesLines more induction =>
      rw [usesLines.lines, induction, List.flatMap_cons, List.append_assoc]
  | exits usesLines => simpa using usesLines.lines
  | fails usesLines => simpa using usesLines.lines

/-! ## There is only one way -/

theorem UsesLines.unique {session after after' : Session} {use use' : LineUse}
    {outcome outcome' : Except Failure (Option Int)}
    (first : UsesLines session use outcome after)
    (second : UsesLines session use' outcome' after') :
    use' = use ∧ outcome' = outcome ∧ after' = after := by
  cases first with
  | blank next isBlank =>
      cases second with
      | blank next' isBlank' =>
          cases next.symm.trans next'
          exact ⟨rfl, rfl, rfl⟩
      | ended noLines => cases next.symm.trans noLines
      | chunk next' isRun' =>
          rw [isRun'.not_blank (next'.symm.trans next)] at isBlank
          cases isBlank
      | unfinished isRun' =>
          rw [isRun'.not_blank ((List.append_nil _).trans next)] at isBlank
          cases isBlank
  | chunk next isRun isFinished evaluated read readsData =>
      cases second with
      | blank next' isBlank' =>
          rw [isRun.not_blank (next.symm.trans next')] at isBlank'
          cases isBlank'
      | ended noLines =>
          exact (isRun.ne_nil
            (List.append_eq_nil_iff.mp (next.symm.trans noLines)).1).elim
      | chunk next' isRun' isFinished' evaluated' read' readsData' =>
          rcases isRun.eq_of_append isRun' isFinished isFinished'
            (next.symm.trans next') with
            ⟨rfl, rfl⟩
          cases evaluated.symm.trans evaluated'
          cases List.append_cancel_right (read.symm.trans read')
          exact ⟨rfl, rfl, rfl⟩
      | unfinished isRun' isUnfinished' =>
          have isPrefix := next ▸ List.prefix_append _ _
          rw [← isRun'.eq_of_isPrefix isRun isFinished isPrefix,
            isFinished] at isUnfinished'
          cases isUnfinished'
  | ended noLines =>
      cases second with
      | blank next => cases noLines.symm.trans next
      | chunk next isRun =>
          exact (isRun.ne_nil
            (List.append_eq_nil_iff.mp (next.symm.trans noLines)).1).elim
      | ended => exact ⟨rfl, rfl, rfl⟩
      | unfinished isRun => exact (isRun.ne_nil noLines).elim
  | unfinished isRun isUnfinished =>
      cases second with
      | ended noLines => exact (isRun.ne_nil noLines).elim
      | blank next' isBlank' =>
          rw [isRun.not_blank ((List.append_nil _).trans next')] at isBlank'
          cases isBlank'
      | chunk next' isRun' isFinished' =>
          have isPrefix := next' ▸ List.prefix_append _ _
          rw [← isRun.eq_of_isPrefix isRun' isFinished' isPrefix,
            isFinished'] at isUnfinished
          cases isUnfinished
      | unfinished isRun' isUnfinished' =>
          cases isUnfinished.symm.trans isUnfinished'
          exact ⟨rfl, rfl, rfl⟩

theorem EvaluatesChunks.unique {session after after' : Session}
    {uses uses' : List LineUse} {outcome outcome' : Except Failure Int}
    (first : EvaluatesChunks session uses outcome after)
    (second : EvaluatesChunks session uses' outcome' after') :
    uses' = uses ∧ outcome' = outcome ∧ after' = after := by
  induction first generalizing uses' with
  | goesOn usesLines _ induction =>
      cases second with
      | goesOn usesLines' more' =>
          rcases usesLines.unique usesLines' with ⟨rfl, -, rfl⟩
          rcases induction more' with ⟨rfl, rfl, rfl⟩
          exact ⟨rfl, rfl, rfl⟩
      | exits usesLines' | fails usesLines' => cases (usesLines.unique usesLines').2.1
  | exits usesLines =>
      cases second with
      | goesOn usesLines' | fails usesLines' => cases (usesLines.unique usesLines').2.1
      | exits usesLines' =>
          rcases usesLines.unique usesLines' with ⟨rfl, sameOutcome, rfl⟩
          cases sameOutcome
          exact ⟨rfl, rfl, rfl⟩
  | fails usesLines =>
      cases second with
      | goesOn usesLines' | exits usesLines' => cases (usesLines.unique usesLines').2.1
      | fails usesLines' =>
          rcases usesLines.unique usesLines' with ⟨rfl, sameOutcome, rfl⟩
          cases sameOutcome
          exact ⟨rfl, rfl, rfl⟩

end Interactive

end StackLanguage
