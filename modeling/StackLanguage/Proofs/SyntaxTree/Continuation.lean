import Mathlib
import StackLanguage.Proofs.SyntaxTree.ReadItems

namespace StackLanguage

/-! What more lines do to a text that is rejected. Where the text ended too soon there are
lines with which it is accepted; any other error, a quote that starts no string apart,
stays what it is whatever follows. -/

namespace Scan

theorem skipTrivia_append {inComment : Bool} {position here : Position}
    {characters rest : List Char}
    (skipped : skipTrivia inComment position characters = (here, rest))
    (notEmpty : rest ≠ []) (more : List Char) :
    skipTrivia inComment position (characters ++ more) = (here, rest ++ more) := by
  fun_induction skipTrivia inComment position characters with
  | case1 =>
      cases skipped
      exact absurd rfl notEmpty
  | case2 position character rest induction =>
      simpa [skipTrivia] using induction skipped
  | case3 position character rest isLayout induction =>
      simpa [skipTrivia, isLayout] using induction skipped
  | case4 position rest noLayout induction =>
      simpa [skipTrivia, noLayout] using induction skipped
  | case5 position character rest noLayout noComment =>
      cases skipped
      simp [skipTrivia, noLayout, noComment]

theorem skipTrivia_lineFeed {inComment : Bool} {position here : Position}
    {characters : List Char}
    (skipped : skipTrivia inComment position characters = (here, [])) (more : List Char) :
    skipTrivia inComment position (characters ++ '\n' :: more) =
      skipTrivia false (here.next '\n') more := by
  fun_induction skipTrivia inComment position characters with
  | case1 inComment position =>
      cases skipped
      cases inComment <;> simp [skipTrivia, isLayout]
  | case2 position character rest induction =>
      simpa [skipTrivia] using induction skipped
  | case3 position character rest isLayout induction =>
      simpa [skipTrivia, isLayout] using induction skipped
  | case4 position rest noLayout induction =>
      simpa [skipTrivia, noLayout] using induction skipped
  | case5 => cases skipped

end Scan

theorem SyntaxError.ofSymbol_isIncomplete (character : Char) :
    (ofSymbol character).isIncomplete = false := by
  unfold ofSymbol
  split <;> rfl

namespace Reading

/-! ## The tokens before a line feed -/

theorem refusal_of_opensString {characters : List Char}
    (opens : Scan.OpensString characters) (reading : Reading) :
    ∃ delimiter, reading.refusal characters = .missingDelimiter delimiter := by
  have noToken := Scan.tokenAt?_none_of_opensString opens
  rcases opens with ⟨quote, rest, rfl, isQuote, _⟩
  refine ⟨quote, ?_⟩
  simp [refusal, noToken, SyntaxError.ofSymbol, isQuote]

theorem refusal_isIncomplete (reading : Reading) (characters : List Char) :
    (reading.refusal characters).isIncomplete = false := by
  unfold refusal
  split
  · rfl
  · split
    · rfl
    · exact SyntaxError.ofSymbol_isIncomplete _

theorem scanned_lineFeed {allowed : Terminal → Bool} {characters : List Char}
    {found : Terminal × Nat} (scanned : Scan.tokenAt? allowed characters = some found)
    (more : List Char) :
    Scan.tokenAt? allowed (characters ++ '\n' :: more) = some found := by
  rw [← scanned]
  apply Scan.tokenAt?_lineFeed
  intro opens
  rw [Scan.tokenAt?_none_of_opensString opens] at scanned
  cases scanned

theorem token_lineFeed {position : Position} {characters rest : List Char} {token : Token}
    {allowed : Terminal → Bool}
    (skipped : Scan.skipTrivia false position characters =
      (token.position, token.text.toList ++ rest))
    (scanned : Scan.tokenAt? allowed (token.text.toList ++ rest) =
      some (token.terminal, token.text.toList.length)) (more : List Char) :
    Scan.skipTrivia false position (characters ++ '\n' :: more) =
        (token.position, token.text.toList ++ (rest ++ '\n' :: more)) ∧
      Scan.tokenAt? allowed (token.text.toList ++ (rest ++ '\n' :: more)) =
        some (token.terminal, token.text.toList.length) := by
  have notEmpty : token.text.toList ≠ [] :=
    List.ne_nil_of_length_pos (Scan.tokenAt?_positive scanned)
  have skippedAgain := Scan.skipTrivia_append skipped
    (List.append_ne_nil_of_left_ne_nil notEmpty _) ('\n' :: more)
  have scannedAgain := scanned_lineFeed scanned more
  rw [List.append_assoc] at skippedAgain scannedAgain
  exact ⟨skippedAgain, scannedAgain⟩

theorem refusal_lineFeed {characters : List Char} (notEmpty : characters ≠ [])
    (noQuote : ¬ Scan.OpensString characters) (reading : Reading) (more : List Char) :
    reading.refusal (characters ++ '\n' :: more) = reading.refusal characters := by
  unfold refusal
  rw [Scan.tokenAt?_lineFeed noQuote, Scan.tokenAt?_lineFeed noQuote]
  split
  · next scanned => rw [List.take_append_of_le_length (Scan.tokenAt?_le scanned)]
  · split
    · next scanned => rw [List.take_append_of_le_length (Scan.tokenAt?_le scanned)]
    · rcases List.exists_cons_of_ne_nil notEmpty with ⟨first, rest, rfl⟩
      rfl

theorem Reads.unfinished_lineFeed {reading : Reading} {last position place : Position}
    {characters : List Char} {cause : SyntaxError}
    (reads : Reads reading last position characters (.error (cause, place)))
    (isIncomplete : cause.isIncomplete = true) :
    ∃ (final : Reading) (last' here : Position), ∀ more,
      reading.readText last position (characters ++ '\n' :: more) =
        final.readText last' here more := by
  generalize resultIs : Except.error (cause, place) = result at reads
  induction reads with
  | finished => cases resultIs
  | @unfinished reading last _ here _ skipped =>
      refine ⟨reading, last, here.next '\n', fun more => ?_⟩
      unfold readText
      rw [Scan.skipTrivia_lineFeed skipped]
  | @token _ _ last position characters rest token _ skipped scanned stepped _
    induction =>
      rcases induction resultIs with ⟨final, last', here, continues⟩
      refine ⟨final, last', here, fun more => ?_⟩
      rw [← continues more]
      have notEmpty : token.text.toList ≠ [] :=
        List.ne_nil_of_length_pos (Scan.tokenAt?_positive scanned)
      rcases token_lineFeed skipped scanned more with ⟨skippedAgain, scannedAgain⟩
      exact @readText_token _ _ last _ _ _ _ token.lexeme skippedAgain notEmpty
        scannedAgain stepped
  | refused =>
      cases resultIs
      rw [refusal_isIncomplete] at isIncomplete
      cases isIncomplete

theorem Reads.refused_lineFeed {reading : Reading} {last position place : Position}
    {characters : List Char} {cause : SyntaxError}
    (reads : Reads reading last position characters (.error (cause, place)))
    (notIncomplete : cause.isIncomplete = false)
    (noQuote : ∀ delimiter, cause ≠ .missingDelimiter delimiter) (more : List Char) :
    Reads reading last position (characters ++ '\n' :: more) (.error (cause, place)) := by
  generalize resultIs : Except.error (cause, place) = result at reads
  induction reads with
  | finished => cases resultIs
  | unfinished =>
      cases resultIs
      cases notIncomplete
  | @token _ _ _ _ _ rest token _ skipped scanned stepped _ induction =>
      rcases token_lineFeed skipped scanned more with ⟨skippedAgain, scannedAgain⟩
      exact .token skippedAgain scannedAgain stepped (induction resultIs)
  | @refused reading _ _ here _ rest skipped notEmpty refused =>
      cases resultIs
      have noString : ¬ Scan.OpensString rest := by
        intro opens
        rcases refusal_of_opensString opens reading with ⟨delimiter, isMissing⟩
        exact noQuote delimiter isMissing
      rw [← refusal_lineFeed notEmpty noString reading more]
      refine .refused (Scan.skipTrivia_append skipped notEmpty _) (by simp) ?_
      intro terminal length scanned
      rw [Scan.tokenAt?_lineFeed noString] at scanned
      rw [List.take_append_of_le_length (Scan.tokenAt?_le scanned)]
      exact refused terminal length scanned

end Reading

/-! ## What completes a text -/

def Lexeme.spaced (lexemes : List Lexeme) : List Char :=
  lexemes.flatMap fun lexeme => lexeme.text.toList ++ [' ']

theorem Lexeme.spaces_spaced (lexemes : List Lexeme) :
    Spaces lexemes (spaced lexemes) := by
  induction lexemes with
  | nil => exact .nil
  | cons lexeme rest induction =>
      have spaces : Spaces (lexeme :: rest)
          (lexeme.text.toList ++ ([' '] ++ Lexeme.spaced rest)) :=
        .next (.layout rfl .nil) (by simp) induction
      simpa [Lexeme.spaced] using spaces

def Lexeme.anyName : Lexeme := ⟨.name, "x"⟩

def Lexeme.emptyBlock : List Lexeme := [.punctuation .leftBrace, .punctuation .rightBrace]

def Beginning.remainder : Beginning → List Lexeme
  | between _ | word _ | literal _ | letType .. | letLiteral .. | thenBlock .. => []
  | callOpened _ => [.punctuation .rightParenthesis]
  | converting _ | letColon .. | letConverting .. => [.anyName]
  | letWord _ => [.anyName, .punctuation .colon, .anyName]
  | letName .. => [.punctuation .colon, .anyName]
  | letEqual .. => [.keyword .trueWord]
  | funWord _ | parameter _ | arrow _ => .anyName :: Lexeme.emptyBlock
  | funName _ | parameterType .. | parameterName _ | result _ | ifWord _ | elseWord .. =>
      Lexeme.emptyBlock

namespace Reading

def completion (reading : Reading) : List Lexeme :=
  reading.beginning.remainder ++
    List.replicate reading.enclosing.length (.punctuation .rightBrace)

theorem steps?_remainder (reading : Reading) {tokens : List Token}
    (same : tokens.map Token.lexeme = reading.beginning.remainder) :
    ∃ next settled, reading.steps? tokens = some next ∧ next.settled? = some settled ∧
      settled.enclosing = reading.enclosing := by
  rcases reading with ⟨beginning, items, enclosing⟩
  cases beginning <;>
    rcases tokens with _ | ⟨⟨_, _, _⟩, _ | ⟨⟨_, _, _⟩, _ | ⟨⟨_, _, _⟩, _ | ⟨_, _⟩⟩⟩⟩ <;>
    cases same <;>
    exact ⟨_, _, rfl, rfl, rfl⟩

theorem steps?_braces {reading settled : Reading}
    (isSettled : reading.settled? = some settled) {tokens : List Token}
    (same : tokens.map Token.lexeme =
      List.replicate settled.enclosing.length (.punctuation .rightBrace)) :
    ∃ final items, reading.steps? tokens = some final ∧ final.finish? = some items := by
  rcases settled with ⟨beginning, items, enclosing⟩
  induction enclosing generalizing reading beginning items tokens with
  | nil =>
      obtain rfl : tokens = [] := List.map_eq_nil_iff.mp same
      exact ⟨reading, items.reverse, rfl, by simp [finish?, isSettled]⟩
  | cons block enclosing induction =>
      rcases List.map_eq_cons_iff.mp same with
        ⟨⟨_, _, place⟩, rest, rfl, isBrace, areBraces⟩
      cases isBrace
      have closed : ∃ next after,
          (⟨beginning, items, block :: enclosing⟩ : Reading).closeBlock? =
            some next ∧ next.settled? = some (betweenItems after enclosing) := by
        rcases block with ⟨opener, before⟩
        cases opener <;> exact ⟨_, _, rfl, rfl⟩
      rcases closed with ⟨next, after, isNext, nextSettled⟩
      rcases induction _ _ nextSettled areBraces with ⟨final, read, steps, finished⟩
      refine ⟨final, read, ?_, finished⟩
      rw [steps?, step?_of_settled isSettled (by simp)]
      exact (congrArg (·.bind (·.steps? rest)) isNext).trans steps

theorem acceptsAll_completion (reading : Reading) :
    reading.AcceptsAll reading.completion := by
  intro tokens same
  rcases List.map_eq_append_iff.mp same with ⟨front, back, rfl, isRemainder, areBraces⟩
  rcases steps?_remainder reading isRemainder with
    ⟨next, settled, steps, isSettled, sameBlocks⟩
  rw [← sameBlocks] at areBraces
  rcases steps?_braces isSettled areBraces with ⟨final, items, moreSteps, finished⟩
  refine ⟨final, items, ?_, finished⟩
  rw [steps?_append, steps]
  exact moreSteps

theorem mem_completion {reading : Reading} {lexeme : Lexeme}
    (member : lexeme ∈ reading.completion) :
    lexeme = .anyName ∨ lexeme = .keyword .trueWord ∨
      ∃ mark, lexeme = .punctuation mark := by
  rcases List.mem_append.mp member with member | member
  · cases beginningIs : reading.beginning <;>
      simp only [beginningIs, Beginning.remainder, Lexeme.emptyBlock, List.mem_cons,
        List.not_mem_nil, or_false] at member <;>
      grind
  · exact .inr (.inr ⟨.rightBrace, List.eq_of_mem_replicate member⟩)

theorem completion_isProper {reading : Reading} {lexeme : Lexeme}
    (member : lexeme ∈ reading.completion) : lexeme.IsProper := by
  obtain rfl | rfl | ⟨mark, rfl⟩ := mem_completion member
  · exact ⟨'x', [], rfl, rfl, by simp⟩
  · rfl
  · rfl

theorem completion_noKeyword {reading : Reading} {lexeme : Lexeme}
    (member : lexeme ∈ reading.completion) (isName : lexeme.terminal = .name)
    (keyword : Keyword) : lexeme.text ≠ keyword.text := by
  obtain rfl | rfl | ⟨mark, rfl⟩ := mem_completion member
  · cases keyword <;> decide
  · cases isName
  · cases isName

theorem readText_completion (reading : Reading) (last position : Position) :
    ∃ items,
      reading.readText last position (Lexeme.spaced reading.completion) = .ok items := by
  have complete := readText_complete (Lexeme.spaces_spaced reading.completion)
    (fun _ => completion_isProper) (fun _ => completion_noKeyword) .nil reading last
    position reading.acceptsAll_completion
  rcases complete with ⟨_, _, items, _, _, _, read⟩
  exact ⟨items, read⟩

end Reading

namespace Item

theorem ofText_lines (source more : String) :
    ofText (source ++ "\n" ++ more) =
      Reading.start.readText .start .start (source.toList ++ '\n' :: more.toList) := by
  simp [ofText]

/-- An error says that the text is incomplete if and only if more lines can mend it,
except that a quote that starts no string may be closed by them: every other error stays,
with its place. -/
theorem ofText_continued {source : String} {cause : SyntaxError} {place : Position}
    (rejected : ofText source = .error (cause, place)) :
    (cause.isIncomplete = true →
      ∃ more items, ofText (source ++ "\n" ++ more) = .ok items) ∧
    (cause.isIncomplete = false → (∀ delimiter, cause ≠ .missingDelimiter delimiter) →
      ∀ more, ofText (source ++ "\n" ++ more) = .error (cause, place)) := by
  have reads := Reading.reads_readText .start .start .start source.toList
  rw [← ofText, rejected] at reads
  constructor
  · intro isIncomplete
    rcases reads.unfinished_lineFeed isIncomplete with ⟨final, last, here, continues⟩
    rcases final.readText_completion last here with ⟨items, read⟩
    refine ⟨String.ofList (Lexeme.spaced final.completion), items, ?_⟩
    rw [ofText_lines, String.toList_ofList, continues]
    exact read
  · intro notIncomplete noQuote more
    rw [ofText_lines]
    exact (reads.refused_lineFeed notIncomplete noQuote more.toList).eq

theorem ofText_continued_braces :
    (∃ more items, ofText ("\x7b" ++ "\n" ++ more) = .ok items) ∧
    ∀ more, ofText ("\x7d" ++ "\n" ++ more) =
      .error (.unexpectedToken "\x7d" Reading.start.expected, .start) := by
  have opened : ofText "\x7b" = .error (.unexpectedEnd, .start) := by cbv
  have stray : ofText "\x7d" =
      .error (.unexpectedToken "\x7d" Reading.start.expected, .start) := by cbv
  exact ⟨(ofText_continued opened).1 rfl, (ofText_continued stray).2 rfl (by simp)⟩

end Item

end StackLanguage
