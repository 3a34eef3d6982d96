import StackLanguage.Proofs.Token.ScanStability
import StackLanguage.SyntaxTree.Reading

namespace StackLanguage

/-! Reading a text is stepping through its tokens: whatever stands between them is left
out, and every token has the place where it starts. -/

/-- Tokens that make up a text, from a place on, with only white space and comments
between and around them. -/
inductive Placed : Position → List Token → List Char → Prop
  | last {position text} (trivia : IsLastTrivia text) : Placed position [] text
  | next {position : Position} {token : Token} {rest gap text} (trivia : IsTrivia gap)
      (starts : token.position = position.after gap)
      (placed : Placed (position.after (gap ++ token.text.toList)) rest text) :
      Placed position (token :: rest) (gap ++ (token.text.toList ++ text))

theorem Placed.interleaves {position : Position} {tokens : List Token} {text : List Char}
    (placed : Placed position tokens text) :
    Interleaves (tokens.map Token.lexeme) text := by
  induction placed with
  | last trivia => exact .last trivia
  | @next _ token rest _ _ trivia _ _ interleaves =>
      exact @Interleaves.next token.lexeme (rest.map Token.lexeme) _ _ trivia interleaves

namespace Reading

def steps? : Reading → List Token → Option Reading
  | reading, [] => some reading
  | reading, token :: rest => (reading.step? token).bind (·.steps? rest)

end Reading

/-! ## Trivia are skipped -/

theorem IsTrivia.comment_cons {gap : List Char} (trivia : IsTrivia ('#' :: gap))
    {character : Char} (sameLine : character ≠ '\n') :
    IsTrivia ('#' :: character :: gap) := by
  generalize whole : '#' :: gap = text at trivia
  cases trivia with
  | nil => cases whole
  | layout isLayout => cases whole; cases isLayout
  | comment body bodySameLine trivia =>
      cases whole
      exact .comment (character :: body) (by simp [Ne.symm sameLine, bodySameLine]) trivia

theorem IsLastTrivia.comment_cons {gap : List Char} (trivia : IsLastTrivia ('#' :: gap))
    {character : Char} (sameLine : character ≠ '\n') :
    IsLastTrivia ('#' :: character :: gap) := by
  rcases trivia with ⟨closed, last, same, isTrivia, isLast⟩
  cases closed with
  | nil =>
      rcases isLast with rfl | ⟨body, rfl, bodySameLine⟩
      · cases same
      · cases same
        exact ⟨[], _, rfl, .nil, .inr ⟨character :: gap, rfl, by
          simp [Ne.symm sameLine, bodySameLine]⟩⟩
  | cons first closed =>
      cases same
      exact ⟨'#' :: character :: closed, last, rfl, isTrivia.comment_cons sameLine,
        isLast⟩

theorem IsLastTrivia.append {gap : List Char} (trivia : IsLastTrivia gap)
    (front : List Char)
    (before : ∀ closed, IsTrivia closed → IsTrivia (front ++ closed)) :
    IsLastTrivia (front ++ gap) := by
  rcases trivia with ⟨closed, last, rfl, isTrivia, isLast⟩
  exact ⟨front ++ closed, last, by simp, before closed isTrivia, isLast⟩

namespace Scan

theorem skipTrivia_sound (inComment : Bool) (position : Position)
    (characters : List Char) :
    ∃ gap, characters = gap ++ (skipTrivia inComment position characters).2 ∧
      (skipTrivia inComment position characters).1 = position.after gap ∧
      IsLastTrivia ((if inComment then ['#'] else []) ++ gap) ∧
      ((skipTrivia inComment position characters).2 ≠ [] →
        IsTrivia ((if inComment then ['#'] else []) ++ gap)) := by
  fun_induction skipTrivia inComment position characters with
  | case1 inComment position =>
      refine ⟨[], rfl, rfl, ?_, fun something => absurd rfl something⟩
      cases inComment
      · exact ⟨[], [], rfl, .nil, .inl rfl⟩
      · exact ⟨[], ['#'], rfl, .nil, .inr ⟨[], rfl, by simp⟩⟩
  | case2 position character rest induction =>
      rcases induction with ⟨gap, same, place, last, trivia⟩
      refine ⟨character :: gap, by rw [List.cons_append, ← same], place, ?_,
        fun more => ?_⟩
      · by_cases ends : character = '\n'
        · subst ends
          exact last.append ['#', '\n'] fun closed => .comment [] (by simp)
        · simp only [ends, ne_eq, not_false_eq_true, decide_true, if_true] at last
          exact last.comment_cons ends
      · by_cases ends : character = '\n'
        · subst ends
          exact .comment [] (by simp) (trivia more)
        · have trivia := trivia more
          simp only [ends, ne_eq, not_false_eq_true, decide_true, if_true] at trivia
          exact trivia.comment_cons ends
  | case3 position character rest isLayout induction =>
      rcases induction with ⟨gap, same, place, last, trivia⟩
      refine ⟨character :: gap, by rw [List.cons_append, ← same], place, ?_,
        fun more => ?_⟩
      · exact last.append [character] fun closed => .layout isLayout
      · exact .layout isLayout (trivia more)
  | case4 position rest noLayout induction =>
      rcases induction with ⟨gap, same, place, last, trivia⟩
      exact ⟨'#' :: gap, by rw [List.cons_append, ← same], place, last, trivia⟩
  | case5 position character rest noLayout noComment =>
      exact ⟨[], rfl, rfl, ⟨[], [], rfl, .nil, .inl rfl⟩, fun _ => .nil⟩

theorem skipTrivia_outside {position here : Position} {characters rest : List Char}
    (skipped : skipTrivia false position characters = (here, rest)) :
    ∃ gap, characters = gap ++ rest ∧ here = position.after gap ∧ IsLastTrivia gap ∧
      (rest ≠ [] → IsTrivia gap) := by
  rcases skipTrivia_sound false position characters with ⟨gap, whole, place, last, trivia⟩
  rw [skipped] at whole place trivia
  exact ⟨gap, whole, place, last, trivia⟩

theorem skipTrivia_comment {body : List Char} (sameLine : '\n' ∉ body)
    (position : Position) (rest : List Char) :
    skipTrivia true position (body ++ '\n' :: rest) =
      skipTrivia false (position.after (body ++ ['\n'])) rest := by
  induction body generalizing position with
  | nil => simp [skipTrivia]
  | cons character body induction =>
      simp only [List.mem_cons, not_or] at sameLine
      simp [skipTrivia, Ne.symm sameLine.1, induction sameLine.2]

theorem skipTrivia_complete {gap : List Char} (trivia : IsTrivia gap)
    (position : Position) (rest : List Char) :
    skipTrivia false position (gap ++ rest) =
      skipTrivia false (position.after gap) rest := by
  induction trivia generalizing position with
  | nil => rfl
  | layout isLayout _ induction =>
      simp [skipTrivia, isLayout, induction]
  | comment body sameLine _ induction =>
      have noLayout : isLayout '#' = false := by decide
      simp [skipTrivia, noLayout, skipTrivia_comment sameLine, induction]

theorem skipTrivia_lexeme {lexeme : Lexeme} (proper : lexeme.IsProper)
    (position : Position) (rest : List Char) :
    skipTrivia false position (lexeme.text.toList ++ rest) =
      (position, lexeme.text.toList ++ rest) := by
  rcases isProper_starts proper with ⟨first, others, textIs, noGap⟩
  simp only [gapStarts, List.mem_cons, List.not_mem_nil, or_false, not_or] at noGap
  rw [textIs]
  simp [skipTrivia, isLayout, noGap]

end Scan

namespace Reading

/-- How a text is read: token by token, up to its end or to a place where none may
follow. -/
inductive Reads :
    Reading → Position → Position → List Char →
      Except (SyntaxError × Position) (List Item) → Prop
  | finished {reading : Reading} {last position here : Position} {characters : List Char}
      {items : List Item}
      (skipped : Scan.skipTrivia false position characters = (here, []))
      (finished : reading.finish? = some items) :
      Reads reading last position characters (.ok items)
  | unfinished {reading : Reading} {last position here : Position}
      {characters : List Char}
      (skipped : Scan.skipTrivia false position characters = (here, []))
      (unfinished : reading.finish? = none) :
      Reads reading last position characters (.error (.unexpectedEnd, last))
  | token {reading next : Reading} {last position : Position}
      {characters rest : List Char} {token : Token}
      {result : Except (SyntaxError × Position) (List Item)}
      (skipped : Scan.skipTrivia false position characters =
        (token.position, token.text.toList ++ rest))
      (scanned : Scan.tokenAt? reading.beginning.allows (token.text.toList ++ rest) =
        some (token.terminal, token.text.toList.length))
      (stepped : reading.step? token = some next)
      (reads : Reads next token.position (token.position.after token.text.toList) rest
        result) :
      Reads reading last position characters result
  | refused {reading : Reading} {last position here : Position}
      {characters rest : List Char}
      (skipped : Scan.skipTrivia false position characters = (here, rest))
      (notEmpty : rest ≠ [])
      (refused : ∀ terminal length, Scan.tokenAt? reading.beginning.allows rest =
        some (terminal, length) →
        reading.step? ⟨terminal, String.ofList (rest.take length), here⟩ = none) :
      Reads reading last position characters (.error (reading.refusal rest, here))

theorem reads_readText (reading : Reading) (last position : Position)
    (characters : List Char) :
    Reads reading last position characters
      (reading.readText last position characters) := by
  fun_induction readText reading last position characters with
  | case1 reading last position characters here skipped items finished =>
      exact .finished skipped finished
  | case2 reading last position characters here skipped unfinished =>
      exact .unfinished skipped unfinished
  | case3 reading last position characters here character rest skipped next?
      next text found induction =>
      rcases Option.bind_eq_some_iff.mp found with ⟨⟨terminal, length⟩, scanned, isNext⟩
      rcases Option.map_eq_some_iff.mp isNext with ⟨_, stepped, same⟩
      cases same
      have positive := Scan.tokenAt?_positive scanned
      have bound := Scan.tokenAt?_le scanned
      rw [List.length_cons] at bound
      have taken : (rest.take (length - 1)).length = length - 1 := by
        rw [List.length_take]
        omega
      simp only [List.length_cons, taken, Nat.add_sub_cancel] at induction ⊢
      refine @Reads.token _ _ _ _ _ (rest.drop (length - 1))
        ⟨terminal, String.ofList (character :: rest.take (length - 1)), here⟩ _ ?_ ?_
        stepped ?_
      · simpa using skipped
      · simp [scanned, taken]
        omega
      · simpa using induction
  | case4 reading last position characters here character rest skipped next? noNext =>
      refine .refused skipped (by simp) fun terminal length scanned => ?_
      have positive := Scan.tokenAt?_positive scanned
      rcases Nat.exists_eq_add_of_lt positive with ⟨less, rfl⟩
      simpa [next?, scanned] using noNext

theorem readText_sound (reading : Reading) (last position : Position)
    (characters : List Char) {items : List Item}
    (read : reading.readText last position characters = .ok items) :
    ∃ tokens final, Placed position tokens characters ∧
      (∀ token ∈ tokens, token.lexeme.IsProper) ∧ reading.steps? tokens = some final ∧
      final.finish? = some items := by
  have reads := reads_readText reading last position characters
  generalize reading.readText last position characters = result at read reads
  induction reads with
  | @finished reading _ _ _ _ _ skipped finished =>
      cases read
      rcases Scan.skipTrivia_outside skipped with ⟨gap, rfl, _, trivia, _⟩
      rw [List.append_nil]
      exact ⟨[], reading, .last trivia, by simp, rfl, finished⟩
  | unfinished => cases read
  | @token reading next last position characters rest token result skipped scanned
      stepped _ induction =>
      rcases induction read with ⟨tokens, final, placed, proper, steps, finished⟩
      have matched : token.lexeme.IsProper := Scan.tokenAt?_isProper scanned
      rcases Scan.skipTrivia_outside skipped with ⟨gap, rfl, place, _, trivia⟩
      have someText : token.text.toList ++ rest ≠ [] := by
        have positive := Scan.tokenAt?_positive scanned
        exact List.append_ne_nil_of_left_ne_nil (List.ne_nil_of_length_pos positive) _
      refine ⟨token :: tokens, final, .next (trivia someText) place ?_,
        List.forall_mem_cons.mpr ⟨matched, proper⟩, ?_, finished⟩
      · rw [Position.after_append, ← place]
        exact placed
      · rw [steps?, stepped]
        exact steps
  | refused => cases read

theorem allows_of_step? {reading next : Reading} {token : Token}
    (stepped : reading.step? token = some next) :
    reading.beginning.allows token.terminal = true := by
  rcases reading with ⟨beginning, items, enclosing⟩
  rcases token with ⟨terminal, text, position⟩
  unfold step? at stepped
  dsimp only at stepped ⊢
  split at stepped
  case h_9 =>
    rcases terminal with _ | _ | _ | _ | _ | ⟨⟨⟩⟩ | ⟨⟨⟩⟩ <;> first | rfl | cases stepped
  case h_29 =>
    rcases Option.bind_eq_some_iff.mp stepped with ⟨settled, isSettled, begun⟩
    rcases Option.map_eq_some_iff.mp isSettled with ⟨item, meaning, rfl⟩
    cases beginning <;> cases meaning <;>
      rcases terminal with _ | _ | _ | _ | _ | ⟨⟨⟩⟩ | ⟨⟨⟩⟩ <;>
        first | rfl | cases begun
  all_goals rfl

theorem readText_token {reading next : Reading} {last position here : Position}
    {characters rest : List Char} {lexeme : Lexeme}
    (skipped : Scan.skipTrivia false position characters =
      (here, lexeme.text.toList ++ rest))
    (notEmpty : lexeme.text.toList ≠ [])
    (scanned : Scan.tokenAt? reading.beginning.allows (lexeme.text.toList ++ rest) =
      some (lexeme.terminal, lexeme.text.toList.length))
    (stepped : reading.step? ⟨lexeme.terminal, lexeme.text, here⟩ = some next) :
    reading.readText last position characters =
      next.readText here (here.after lexeme.text.toList) rest := by
  rcases List.exists_cons_of_ne_nil notEmpty with ⟨first, others, textIs⟩
  have textBack : String.ofList (first :: others) = lexeme.text := by
    rw [← textIs, String.ofList_toList]
  simp only [textIs, List.cons_append, List.length_cons] at skipped scanned
  rw [textIs]
  conv => lhs; unfold readText
  split
  · next same => rw [skipped] at same; cases same
  · next same =>
      rw [skipped] at same
      cases same
      simp only [scanned, Option.bind_some, Nat.add_sub_cancel, List.take_left, textBack,
        stepped, Option.map_some, List.length_cons, List.drop_left]

theorem Reads.eq {reading : Reading} {last position : Position} {characters : List Char}
    {result : Except (SyntaxError × Position) (List Item)}
    (reads : Reads reading last position characters result) :
    reading.readText last position characters = result := by
  induction reads with
  | finished skipped finished =>
      unfold readText
      rw [skipped]
      simp only [finished]
  | unfinished skipped unfinished =>
      unfold readText
      rw [skipped]
      simp only [unfinished]
  | @token _ _ last _ _ _ token _ skipped scanned stepped _ induction =>
      have notEmpty : token.text.toList ≠ [] := by
        have positive := Scan.tokenAt?_positive scanned
        exact List.ne_nil_of_length_pos positive
      have continues :=
        @readText_token _ _ last _ _ _ _ token.lexeme skipped notEmpty scanned stepped
      exact continues.trans induction
  | @refused reading last position here characters rest skipped notEmpty refused =>
      rcases List.exists_cons_of_ne_nil notEmpty with ⟨first, others, rfl⟩
      unfold readText
      rw [skipped]
      dsimp only
      split
      · next found =>
          rcases Option.bind_eq_some_iff.mp found with
            ⟨⟨terminal, length⟩, scanned, stepped⟩
          have positive := Scan.tokenAt?_positive scanned
          rcases Nat.exists_eq_add_of_lt positive with ⟨less, rfl⟩
          rcases Option.map_eq_some_iff.mp stepped with ⟨next, stepped, -⟩
          have notStepped := refused _ _ scanned
          rw [Nat.zero_add] at notStepped stepped
          cases notStepped.symm.trans stepped
      · rfl

def AcceptsAll (reading : Reading) (lexemes : List Lexeme) : Prop :=
  ∀ tokens : List Token, tokens.map Token.lexeme = lexemes →
    ∃ final items, reading.steps? tokens = some final ∧ final.finish? = some items

theorem AcceptsAll.step {reading : Reading} {lexeme : Lexeme} {rest : List Lexeme}
    (accepts : reading.AcceptsAll (lexeme :: rest)) (position : Position) :
    ∃ next, reading.step? ⟨lexeme.terminal, lexeme.text, position⟩ = some next ∧
      next.AcceptsAll rest := by
  have continues (tokens : List Token) (same : tokens.map Token.lexeme = rest) :=
    accepts (⟨lexeme.terminal, lexeme.text, position⟩ :: tokens)
      (by rw [List.map_cons, same]; rfl)
  have someTokens :
      (rest.map fun lexeme => (⟨lexeme.terminal, lexeme.text, .start⟩ : Token)).map
        Token.lexeme = rest := by
    simp [Token.lexeme, Function.comp_def]
  rcases continues _ someTokens with ⟨_, _, steps, _⟩
  rcases Option.bind_eq_some_iff.mp steps with ⟨next, stepped, _⟩
  refine ⟨next, stepped, fun tokens same => ?_⟩
  rcases continues tokens same with ⟨final, items, steps, finished⟩
  rw [steps?, stepped] at steps
  exact ⟨final, items, steps, finished⟩

theorem readText_complete {lexemes : List Lexeme} {text : List Char}
    (spaces : Spaces lexemes text) (proper : ∀ lexeme ∈ lexemes, lexeme.IsProper)
    (noKeyword : ∀ lexeme ∈ lexemes, lexeme.terminal = .name →
      ∀ keyword : Keyword, lexeme.text ≠ keyword.text)
    {gap : List Char} (trivia : IsTrivia gap) (reading : Reading)
    (last position : Position) (accepts : reading.AcceptsAll lexemes) :
    ∃ tokens final items, tokens.map Token.lexeme = lexemes ∧
      reading.steps? tokens = some final ∧ final.finish? = some items ∧
      reading.readText last position (gap ++ text) = .ok items := by
  induction spaces generalizing gap reading last position with
  | nil =>
      rcases accepts [] rfl with ⟨final, items, steps, finished⟩
      cases steps
      refine ⟨[], reading, items, rfl, rfl, finished, ?_⟩
      have skipped : Scan.skipTrivia false position (gap ++ []) =
          (position.after gap, []) := by
        rw [Scan.skipTrivia_complete trivia]
        rfl
      unfold readText
      split
      · simp [finished]
      · next same => rw [skipped] at same; cases same
  | @next lexeme rest after text afterTrivia notEmpty _ induction =>
      rcases accepts.step (position.after gap) with ⟨next, stepped, nextAccepts⟩
      rw [List.forall_mem_cons] at proper noKeyword
      have skipped :
          Scan.skipTrivia false position
            (gap ++ (lexeme.text.toList ++ (after ++ text))) =
          (position.after gap, lexeme.text.toList ++ (after ++ text)) := by
        rw [Scan.skipTrivia_complete trivia, Scan.skipTrivia_lexeme proper.1]
      have scanned :=
        Scan.tokenAt?_complete proper.1 (allows_of_step? stepped) noKeyword.1
          (Scan.startsGap_of_trivia afterTrivia notEmpty text)
      have someText : lexeme.text.toList ≠ [] := by
        rcases Scan.isProper_starts proper.1 with ⟨first, others, textIs, _⟩
        simp [textIs]
      rw [readText_token skipped someText scanned stepped]
      rcases induction proper.2 noKeyword.2 afterTrivia next (position.after gap)
        ((position.after gap).after lexeme.text.toList) nextAccepts with
        ⟨tokens, final, items, same, steps, finished, read⟩
      refine ⟨⟨lexeme.terminal, lexeme.text, position.after gap⟩ :: tokens, final, items,
        ?_, ?_, finished, read⟩
      · rw [List.map_cons, same]
        rfl
      · rw [steps?, stepped]
        exact steps

end Reading

end StackLanguage
