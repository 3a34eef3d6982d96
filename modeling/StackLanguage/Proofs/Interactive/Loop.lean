import StackLanguage.Proofs.Interactive.Rounds

namespace StackLanguage

/-! The interactive loop does what is to be done chunk by chunk. It evaluates the lines of
an unfinished chunk again with every line that it adds, which has no effect before the
chunk is finished, and it shows prompts in between. -/

structure IsPending (lines : List (List Char)) : Prop where
  not_blank : ∀ first rest, lines = first :: rest → first.all isBlank = false
  unfinished : ∀ shorter, shorter <+: lines → shorter ≠ [] → unfinished? shorter ≠ none

theorem IsPending.nil : IsPending [] where
  not_blank := nofun
  unfinished _ isPrefix notEmpty := (notEmpty (List.prefix_nil.mp isPrefix)).elim

theorem IsRun.isPending {lines : List (List Char)} {error : Located SyntaxError}
    (isRun : IsRun lines) (isUnfinished : unfinished? lines = some error) :
    IsPending lines where
  not_blank first rest same := isRun.not_blank ((List.append_nil lines).trans same)
  unfinished shorter isPrefix notEmpty := by
    by_cases isWhole : shorter = lines
    · rw [isWhole, isUnfinished]
      exact Option.some_ne_none error
    · exact isRun.shortest shorter isPrefix notEmpty isWhole

namespace IsPending

variable {lines : List (List Char)} {line : List Char}

theorem isRun (isPending : IsPending lines) (notEmpty : lines ≠ []) : IsRun lines where
  starts := by
    rcases List.exists_cons_of_ne_nil notEmpty with ⟨first, rest, same⟩
    exact ⟨first, rest, same, isPending.not_blank first rest same⟩
  shortest shorter isPrefix someLines _ := isPending.unfinished shorter isPrefix someLines

theorem eq_nil_of_blank (isPending : IsPending lines)
    (areBlank : (lines ++ [line]).flatten.all isBlank = true) :
    lines = [] ∧ line.all isBlank = true := by
  cases lines with
  | nil => simpa using areBlank
  | cons first rest =>
      have notBlank := isPending.not_blank first rest rfl
      rw [List.cons_append, List.flatten_cons, List.all_append, notBlank] at areBlank
      cases areBlank

theorem isRun_append (isPending : IsPending lines)
    (notBlank : (lines ++ [line]).flatten.all isBlank = false) :
    IsRun (lines ++ [line]) where
  starts := by
    cases lines with
    | nil => exact ⟨line, [], rfl, by simpa using notBlank⟩
    | cons first rest =>
        exact ⟨first, rest ++ [line], rfl, isPending.not_blank first rest rfl⟩
  shortest shorter isPrefix someLines isShorter := by
    rcases List.prefix_concat_iff.mp isPrefix with same | isPrefix
    · exact (isShorter same).elim
    · exact isPending.unfinished shorter isPrefix someLines

end IsPending

namespace Interactive

open Step

theorem promptsOf_append {run : List (List Char)} (isPending : IsPending run)
    (session : Session) (line : List Char) :
    promptsOf session.settings (run ++ [line]) =
      promptsOf session.settings run ++ [promptOf session (sourceOf run)] := by
  unfold promptOf
  cases run with
  | nil => rfl
  | cons first rest =>
      rw [if_neg (isPending.isRun (List.cons_ne_nil first rest)).sourceOf_ne]
      simp [promptsOf]

/-- A step that shows, with prompts after earlier ones, what is to be done with the lines
of a session. -/
def Refines (earlier : List String) (step : Step Int) (showing session : Session) :
    Prop :=
  ∃ uses outcome after shown, EvaluatesChunks session uses outcome after ∧
    attempt step showing = .ok outcome (after.withOutput shown) ∧
    IsPrompted (earlier ++ uses.flatMap (LineUse.prompts session.settings))
      after.machine.output shown

section

variable {earlier : List String} {step : Step Int} {showing session : Session}

theorem Refines.of_eq {other : Step Int} {otherShowing : Session}
    (refines : Refines earlier other otherShowing session)
    (same : step showing = other otherShowing) :
    Refines earlier step showing session := by
  rcases refines with ⟨uses, outcome, after, shown, evaluates, ended, prompted⟩
  refine ⟨uses, outcome, after, shown, evaluates, ?_, prompted⟩
  unfold attempt at ended ⊢
  rw [same]
  exact ended

theorem Refines.last {use : LineUse} {outcome : Except Failure Int} {after : Session}
    {shown : String} (evaluates : EvaluatesChunks session [use] outcome after)
    (ended : attempt step showing = .ok outcome (after.withOutput shown))
    (prompted :
      IsPrompted (earlier ++ use.prompts session.settings) after.machine.output shown) :
    Refines earlier step showing session := by
  refine ⟨[use], outcome, after, shown, evaluates, ended, ?_⟩
  rwa [List.flatMap_singleton]

theorem Refines.goesOn {between : Session} {use : LineUse}
    (more : Refines (earlier ++ use.prompts session.settings) step showing between)
    (usesLines : UsesLines session use (.ok none) between)
    (sameSettings : between.settings = session.settings) :
    Refines earlier step showing session := by
  rcases more with ⟨uses, outcome, after, shown, evaluates, ended, prompted⟩
  rw [sameSettings, List.append_assoc, ← List.flatMap_cons] at prompted
  exact ⟨use :: uses, outcome, after, shown, .goesOn usesLines evaluates, ended, prompted⟩

theorem rounds_refines_end {run : List (List Char)} (noMore : session.lines = run)
    (isPending : IsPending run) {shown : String}
    (prompted : IsPrompted (earlier ++ promptsOf session.settings run)
      session.machine.output shown)
    (left : Nat) :
    Refines earlier (rounds (left + 1) (sourceOf run))
      ((session.withInput []).withOutput shown) session := by
  have ends :=
    @rounds_end ((session.withInput []).withOutput shown) rfl left (sourceOf run)
  have promptedEnd := (prompted.prompt (promptOf session (sourceOf run))).prompt "\n"
  rw [List.append_assoc earlier, ← promptsOf_append isPending session [],
    List.append_assoc] at promptedEnd
  by_cases isEmpty : run = []
  · subst isEmpty
    have unread : session.withInput [] = session := by
      rw [← session.withInput_lines, noMore]
      rfl
    refine .last (.exits (.ended noMore)) ?_ promptedEnd
    rw [if_neg (by simp [sourceOf]), unread] at ends
    rw [unread]
    exact attempt_ok ends
  · have isRun := isPending.isRun isEmpty
    rcases Option.ne_none_iff_exists'.mp
      (isPending.unfinished run (List.prefix_refl run) isEmpty) with ⟨error, isUnfinished⟩
    subst noMore
    refine .last (.exits (.unfinished isRun isUnfinished)) ?_ promptedEnd
    rw [if_pos isRun.sourceOf_ne] at ends
    apply attempt_ok
    rw [ends, bind_ok ((feed_unfinished isUnfinished _).trans rfl)]
    rfl

theorem afterLines_refines {chunk rest : List (List Char)}
    (next : session.lines = chunk ++ rest) (isRun : IsRun chunk)
    (isFinished : unfinished? chunk = none) {shown : String}
    (prompted :
      IsPrompted (earlier ++ promptsOf session.settings chunk) session.machine.output
        shown) {left : Nat}
    (goOn : ∀ after shown, after.settings = session.settings → after.lines <:+ rest →
      IsPrompted (earlier ++ promptsOf session.settings chunk)
        after.machine.output shown →
      Refines (earlier ++ promptsOf session.settings chunk) (rounds left "")
        (after.withOutput shown) after) :
    Refines earlier (afterLines left (sourceOf chunk))
      ((session.withInput rest.flatten).withOutput shown) session := by
  have isLocal := attempt_isLocal (evaluateChunk_isLocal (sourceOf chunk))
  have lines : (session.withInput rest.flatten).lines = rest :=
    linesOf_flatten_of_append next
  rcases exists_attempt (evaluateChunk (sourceOf chunk))
    (session.withInput rest.flatten) with
    ⟨outcome, after, evaluated⟩
  rcases isLocal.shown evaluated prompted with ⟨shown', showing, prompted'⟩
  rcases (isLocal.keeps _).outcomes.1 _ _ evaluated with ⟨sameSettings, hasRead⟩
  have isPart : after.lines <:+ rest := lines ▸ hasRead
  rcases isPart with ⟨data, same⟩
  have readsData : ReadsData chunk (session.withInput rest.flatten) data after.lines := by
    have isLeft := (attempt_ends (evaluateChunk_input (sourceOf chunk)
      (session.withInput rest.flatten))).outcomes.1 _ _ evaluated
    apply LeavesInput.readsData _ (lines.trans same.symm)
    cases outcome <;> exact isLeft
  have usesLines := UsesLines.chunk next isRun isFinished evaluated same.symm readsData
  refine Refines.of_eq ?_ (afterLines_finished isFinished left _)
  rcases outcome with failure | none | code
  · exact .last (.fails usesLines) (attempt_error (bind_error (attempt_eq showing)))
      prompted'
  · have more := goOn after shown' sameSettings ⟨data, same⟩ prompted'
    apply Refines.goesOn _ usesLines sameSettings
    exact more.of_eq (bind_ok (attempt_eq showing))
  · exact .last (.exits usesLines) (attempt_ok (bind_ok (attempt_eq showing))) prompted'

end

theorem rounds_refines {left : Nat} {earlier : List String} {session : Session}
    {run rest : List (List Char)} (next : session.lines = run ++ rest)
    (enough : rest.length < left) (isPending : IsPending run) {shown : String}
    (prompted :
      IsPrompted (earlier ++ promptsOf session.settings run) session.machine.output
        shown) :
    Refines earlier (rounds left (sourceOf run))
      ((session.withInput rest.flatten).withOutput shown) session := by
  induction left generalizing earlier session run rest shown with
  | zero => cases enough
  | succ left induction =>
      cases rest with
      | nil =>
          exact rounds_refines_end (next.trans (List.append_nil run)) isPending
            prompted left
      | cons line rest =>
          have lines : (session.withInput (line :: rest).flatten).lines = line :: rest :=
            linesOf_flatten_of_append next
          have round :=
            @rounds_line ((session.withInput (line :: rest).flatten).withOutput shown)
              line rest lines left (sourceOf run)
          have promptedLine := prompted.prompt (promptOf session (sourceOf run))
          rw [List.append_assoc earlier,
            ← promptsOf_append isPending session line] at promptedLine
          have fewer : rest.length < left := Nat.lt_of_succ_lt_succ enough
          have next' : session.lines = (run ++ [line]) ++ rest := by simp [next]
          rw [sourceOf_append, toList_sourceOf] at round
          cases areBlank : (run ++ [line]).flatten.all isBlank with
          | true =>
              rcases isPending.eq_nil_of_blank areBlank with ⟨rfl, isBlank⟩
              rw [if_pos areBlank] at round
              have others : (session.withInput rest.flatten).lines = [] ++ rest :=
                linesOf_flatten_of_append next'
              have more := induction others fewer .nil (promptedLine.start _)
              exact (more.goesOn (.blank next isBlank) rfl).of_eq round
          | false =>
              have isRun := isPending.isRun_append areBlank
              rw [areBlank, if_neg Bool.false_ne_true] at round
              cases isUnfinished : unfinished? (run ++ [line]) with
              | some error =>
                  have more :=
                    induction next' fewer (isRun.isPending isUnfinished) promptedLine
                  exact more.of_eq
                    (round.trans (afterLines_unfinished isUnfinished left _))
              | none =>
                  refine (afterLines_refines next' isRun isUnfinished promptedLine
                    ?_).of_eq round
                  intro after shown' sameSettings isPart promptedAfter
                  have fewer' : after.lines.length < left := by
                    have shorter := isPart.length_le
                    omega
                  have more := induction (List.nil_append after.lines).symm fewer' .nil
                    (promptedAfter.start _)
                  rw [after.withInput_lines] at more
                  exact more

/-- For every session the loop does what is to be done chunk by chunk: it comes to the
same end with the same code, and leaves the same session, but for the banner and the
prompts in the output. There is one thing to be done, and in it every line is used
once. -/
theorem loop_refines (session : Session) :
    ∃ uses outcome after shown,
      EvaluatesChunks session uses outcome after ∧
      (∀ uses' outcome' after', EvaluatesChunks session uses' outcome' after' →
        uses' = uses ∧ outcome' = outcome ∧ after' = after) ∧
      attempt loop session = .ok outcome (after.withOutput shown) ∧
      IsPrompted (banner :: uses.flatMap (LineUse.prompts session.settings))
        after.machine.output shown ∧
      session.lines = uses.flatMap LineUse.lines ++ after.lines := by
  have enough : session.lines.length < session.machine.input.length + 1 :=
    Nat.lt_succ_of_le (length_linesOf_le session.machine.input)
  have refines := rounds_refines (List.nil_append session.lines).symm enough .nil
    (((IsPrompted.same session.machine.output).prompt banner).start session.settings)
  rw [session.withInput_lines] at refines
  rcases (refines.of_eq rfl : Refines _ loop session session) with
    ⟨uses, outcome, after, shown, evaluates, ended, prompted⟩
  exact ⟨uses, outcome, after, shown, evaluates,
    fun _ _ _ other => evaluates.unique other, ended, prompted, evaluates.lines⟩

end Interactive

end StackLanguage
