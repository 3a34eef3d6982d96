import Mathlib
import StackLanguage.Proofs.SyntaxTree.Parsing
import StackLanguage.Proofs.Token.Cuts
import StackLanguage.Token.Highlight

namespace StackLanguage

/-! Highlighting a text that can be read. The highlighter looks for all kinds of tokens
everywhere, the reader for those that may follow; the tokens of both are the same if and
only if the reader cuts none. -/

namespace Scan

theorem skipTrivia_place (inComment : Bool) (position position' : Position)
    (characters : List Char) :
    (skipTrivia inComment position characters).2 =
      (skipTrivia inComment position' characters).2 := by
  fun_induction skipTrivia inComment position characters generalizing position' with
  | case1 => rfl
  | case2 position character rest induction => exact induction _
  | case3 position character rest isLayout induction =>
      rw [skipTrivia, if_pos isLayout]
      exact induction _
  | case4 position rest noLayout induction =>
      rw [skipTrivia, if_neg noLayout, if_pos rfl]
      exact induction _
  | case5 position character rest noLayout noComment =>
      rw [skipTrivia, if_neg noLayout, if_neg noComment]

theorem skipTrivia_run (position : Position) (characters : List Char) :
    skipTrivia false position characters =
      skipTrivia false (position.after (characters.takeWhile isLayout))
        (characters.drop (characters.takeWhile isLayout).length) := by
  induction characters generalizing position with
  | nil => rfl
  | cons character rest induction =>
      cases layout : isLayout character with
      | true =>
          rw [List.takeWhile_cons_of_pos layout, skipTrivia, if_pos layout]
          exact induction _
      | false => rw [List.takeWhile_cons_of_neg (by simp [layout])]; rfl

theorem skipTrivia_line (position : Position) (characters : List Char) :
    skipTrivia true position characters =
      skipTrivia false (position.after (characters.takeWhile (· ≠ '\n')))
        (characters.drop (characters.takeWhile (· ≠ '\n')).length) := by
  induction characters generalizing position with
  | nil => rfl
  | cons character rest induction =>
      by_cases ends : character = '\n'
      · subst ends
        rw [List.takeWhile_cons_of_neg (by simp)]
        simp [skipTrivia, isLayout]
      · rw [List.takeWhile_cons_of_pos (by simp [ends]), skipTrivia, decide_eq_true ends]
        exact induction _

end Scan

namespace HighlightGroup

theorem ofNumber_ne_comment (characters : List Char) : ofNumber characters ≠ comment := by
  unfold ofNumber
  split
  · nofun
  · split <;> nofun

theorem ofWord_ne_comment (word : String) : ofWord word ≠ comment := by
  unfold ofWord
  split
  · nofun
  · split
    · nofun
    · split <;> nofun

theorem ofToken_ne_comment (terminal : Terminal) (characters : List Char) :
    ofToken terminal characters ≠ comment := by
  cases terminal with
  | number => exact ofNumber_ne_comment characters
  | name | keyword => exact ofWord_ne_comment _
  | string | operator | punctuation | endOfText => nofun

end HighlightGroup

namespace HighlightedPiece

def isToken (piece : HighlightedPiece) : Bool :=
  piece.group ≠ none && piece.group ≠ some .comment

def tokenTexts (pieces : List HighlightedPiece) : List String :=
  (pieces.filter isToken).map (·.text)

theorem tokenTexts_append (front back : List HighlightedPiece) :
    tokenTexts (front ++ back) = tokenTexts front ++ tokenTexts back := by
  simp [tokenTexts]

theorem ofText_piece {characters : List Char} {length : Nat}
    {group : Option HighlightGroup} (found : lengthAt? characters = some (length, group))
    (positive : 0 < length) (notEmpty : characters ≠ []) (position : Position) :
    ofText position characters =
      (ofText (position.after (characters.take length)) (characters.drop length)).map
        ({ text := String.ofList (characters.take length), group } :: ·) := by
  obtain ⟨character, rest, rfl⟩ := List.exists_cons_of_ne_nil notEmpty
  obtain ⟨less, rfl⟩ := Nat.exists_eq_add_of_lt positive
  rw [ofText, found]
  simp

theorem lengthAt?_trivia {character : Char}
    (isTrivia : Scan.isLayout character = true ∨ character = '#') (rest : List Char)
    (position : Position) :
    ∃ length group, lengthAt? (character :: rest) = some (length, group) ∧ 0 < length ∧
      (group = none ∨ group = some .comment) ∧
      Scan.skipTrivia false position (character :: rest) =
        Scan.skipTrivia false (position.after ((character :: rest).take length))
          ((character :: rest).drop length) := by
  cases layout : Scan.isLayout character with
  | true =>
      refine ⟨((character :: rest).takeWhile Scan.isLayout).length, none, ?_, ?_,
        .inl rfl, ?_⟩
      · simp [lengthAt?, layout]
      · rw [List.takeWhile_cons_of_pos layout]
        exact Nat.succ_pos _
      · rw [Scan.take_length_takeWhile]
        exact Scan.skipTrivia_run position _
  | false =>
      rcases isTrivia with isLayout | rfl
      · rw [layout] at isLayout
        cases isLayout
      · refine ⟨(('#' :: rest).takeWhile (· ≠ '\n')).length, some .comment, ?_, ?_,
          .inr rfl, ?_⟩
        · simp [lengthAt?, layout]
        · rw [List.takeWhile_cons_of_pos (by decide)]
          exact Nat.succ_pos _
        · rw [Scan.take_length_takeWhile, List.takeWhile_cons_of_pos (by decide)]
          exact Scan.skipTrivia_line _ rest

theorem ofText_trivia (position : Position) (characters : List Char) :
    ∃ trivia, tokenTexts trivia = [] ∧
      ofText position characters =
        (ofText (Scan.skipTrivia false position characters).1
          (Scan.skipTrivia false position characters).2).map (trivia ++ ·) := by
  induction lengthIs : characters.length using Nat.strong_induction_on
    generalizing position characters with
  | _ total induction =>
      cases characters with
      | nil => exact ⟨[], rfl, by simp [ofText, Scan.skipTrivia, Except.map]⟩
      | cons character rest =>
          by_cases isTrivia : Scan.isLayout character = true ∨ character = '#'
          · rcases lengthAt?_trivia isTrivia rest position with
              ⟨length, group, found, positive, noToken, skips⟩
            have shorter : ((character :: rest).drop length).length < total := by
              rw [List.length_cons] at lengthIs
              rw [List.length_drop, List.length_cons]
              omega
            rcases induction _ shorter (position.after ((character :: rest).take length))
              _ rfl with
              ⟨trivia, noTokens, same⟩
            refine ⟨⟨String.ofList ((character :: rest).take length), group⟩ :: trivia,
              ?_, ?_⟩
            · refine (tokenTexts_append [_] trivia).trans ?_
              rw [noTokens]
              rcases noToken with rfl | rfl <;> rfl
            · rw [ofText_piece found positive (by simp), skips, same]
              cases ofText _ _ <;> rfl
          · rw [not_or] at isTrivia
            refine ⟨[], rfl, ?_⟩
            rw [Scan.skipTrivia, if_neg isTrivia.1, if_neg isTrivia.2]
            cases ofText _ _ <;> rfl

theorem lengthAt?_lexeme {lexeme : Lexeme} (proper : lexeme.IsProper) {after : List Char}
    {terminal : Terminal} {length : Nat}
    (found : Scan.tokenAt? Scan.anywhere (lexeme.text.toList ++ after) =
      some (terminal, length)) :
    lengthAt? (lexeme.text.toList ++ after) =
      some (length,
        some (.ofToken terminal ((lexeme.text.toList ++ after).take length))) := by
  rcases Scan.isProper_starts proper with ⟨first, others, textIs, noGap⟩
  have noLayout : Scan.isLayout first = false := by
    rw [Bool.eq_false_iff]
    intro isLayout
    exact noGap (List.mem_append_left ['#'] (List.contains_iff_mem.mp isLayout))
  have noComment : first ≠ '#' := by
    rintro rfl
    exact noGap (by decide)
  rw [textIs, List.cons_append] at found ⊢
  simp [lengthAt?, noLayout, noComment, found]

theorem ofText_lexeme {lexeme : Lexeme} (proper : lexeme.IsProper) {after : List Char}
    {terminal : Terminal} {length : Nat}
    (found : Scan.tokenAt? Scan.anywhere (lexeme.text.toList ++ after) =
      some (terminal, length))
    (position : Position) :
    ∃ piece : HighlightedPiece, piece.isToken = true ∧
      piece.text = String.ofList ((lexeme.text.toList ++ after).take length) ∧
      ofText position (lexeme.text.toList ++ after) =
        (ofText (position.after ((lexeme.text.toList ++ after).take length))
          ((lexeme.text.toList ++ after).drop length)).map (piece :: ·) := by
  have notEmpty : lexeme.text.toList ++ after ≠ [] := by
    rcases Scan.isProper_starts proper with ⟨first, others, textIs, -⟩
    simp [textIs]
  refine ⟨⟨_, _⟩, ?_, rfl, ofText_piece (lengthAt?_lexeme proper found)
    (Scan.tokenAt?_positive found) notEmpty position⟩
  simp [isToken, HighlightGroup.ofToken_ne_comment]

theorem tokenTexts_cons_iff {position here : Position} {characters after : List Char}
    {lexeme : Lexeme} (proper : lexeme.IsProper)
    (skipped : Scan.skipTrivia false position characters =
      (here, lexeme.text.toList ++ after))
    {terminal : Terminal} {length : Nat}
    (found : Scan.tokenAt? Scan.anywhere (lexeme.text.toList ++ after) =
      some (terminal, length))
    (texts : List String) :
    (∃ pieces, ofText position characters = .ok pieces ∧
        tokenTexts pieces = lexeme.text :: texts) ↔
      length = lexeme.text.toList.length ∧
        ∃ pieces, ofText (here.after lexeme.text.toList) after = .ok pieces ∧
          tokenTexts pieces = texts := by
  rcases ofText_trivia position characters with ⟨trivia, noTokens, skips⟩
  rcases ofText_lexeme proper found here with ⟨piece, isToken, textIs, same⟩
  rw [skipped, same] at skips
  have textsAre (more : List HighlightedPiece) :
      tokenTexts (trivia ++ piece :: more) = piece.text :: tokenTexts more := by
    rw [tokenTexts_append, noTokens]
    simp [tokenTexts, isToken]
  have atEnd (isLength : length = lexeme.text.toList.length) :
      (lexeme.text.toList ++ after).take length = lexeme.text.toList ∧
        (lexeme.text.toList ++ after).drop length = after := by
    rw [isLength, List.take_left, List.drop_left]
    exact ⟨rfl, rfl⟩
  constructor
  · rintro ⟨pieces, classified, areTexts⟩
    rw [skips] at classified
    cases moreIs : ofText (here.after ((lexeme.text.toList ++ after).take length))
        ((lexeme.text.toList ++ after).drop length) with
    | error error =>
        rw [moreIs] at classified
        cases classified
    | ok more =>
        rw [moreIs] at classified
        cases classified
        rw [textsAre] at areTexts
        injection areTexts with isText areTexts
        rw [textIs] at isText
        have taken := congrArg (List.length ∘ String.toList) isText
        have bound := Scan.tokenAt?_le found
        simp only [Function.comp_apply, String.toList_ofList, List.length_take] at taken
        have isLength : length = lexeme.text.toList.length := by omega
        rw [(atEnd isLength).1, (atEnd isLength).2] at moreIs
        exact ⟨isLength, more, moreIs, areTexts⟩
  · rintro ⟨isLength, more, classified, rfl⟩
    rw [(atEnd isLength).1] at textIs
    rw [(atEnd isLength).1, (atEnd isLength).2, classified] at skips
    refine ⟨trivia ++ piece :: more, skips, ?_⟩
    rw [textsAre, textIs, String.ofList_toList]

end HighlightedPiece

/-- No lexeme of a text is cut. -/
def Lexeme.standWhole : List Lexeme → List Char → Bool
  | [], _ => true
  | lexeme :: rest, characters =>
      let after := (Scan.skipTrivia false .start characters).2.drop lexeme.text.length
      !lexeme.isCut after && standWhole rest after

theorem Lexeme.standWhole_cons {position here : Position} {characters after : List Char}
    {lexeme : Lexeme}
    (skipped : Scan.skipTrivia false position characters =
      (here, lexeme.text.toList ++ after))
    (rest : List Lexeme) :
    standWhole (lexeme :: rest) characters = true ↔
      lexeme.isCut after = false ∧ standWhole rest after = true := by
  rw [standWhole, Scan.skipTrivia_place false .start position, skipped]
  simp [← String.length_toList]

open HighlightedPiece (tokenTexts)

namespace Reading

theorem allows_operator {beginning : Beginning}
    (allowsEqual : beginning.allows (.punctuation .equal) = true) :
    beginning.allows .operator = true := by
  cases beginning <;> first | rfl | cases allowsEqual

theorem Reads.tokenTexts_iff {reading : Reading} {last position : Position}
    {characters : List Char} {items : List Item}
    (reads : reading.Reads last position characters (.ok items)) :
    ∃ tokens final, reading.steps? tokens = some final ∧ final.finish? = some items ∧
      (∀ token ∈ tokens, token.lexeme.IsProper) ∧
      ((∃ pieces, HighlightedPiece.ofText position characters = .ok pieces ∧
          tokenTexts pieces = tokens.map (·.text)) ↔
        Lexeme.standWhole (tokens.map Token.lexeme) characters = true) := by
  generalize resultIs : Except.ok items = result at reads
  induction reads with
  | @finished reading _ position here characters _ skipped finished =>
      cases resultIs
      rcases HighlightedPiece.ofText_trivia position characters with
        ⟨trivia, noTokens, same⟩
      rw [skipped, HighlightedPiece.ofText] at same
      have classified : ∃ pieces,
          HighlightedPiece.ofText position characters = .ok pieces ∧
            tokenTexts pieces = [] :=
            ⟨trivia ++ [], same, by rw [List.append_nil, noTokens]⟩
      exact ⟨[], reading, rfl, finished, by simp, iff_of_true classified rfl⟩
  | unfinished => cases resultIs
  | @token reading next last position characters rest token result skipped scanned
      stepped _ induction =>
      rcases induction resultIs with ⟨tokens, final, steps, finished, allProper, same⟩
      have proper : token.lexeme.IsProper := Scan.tokenAt?_isProper scanned
      refine ⟨token :: tokens, final, ?_, finished,
        List.forall_mem_cons.mpr ⟨proper, allProper⟩, ?_⟩
      · rw [steps?, stepped]
        exact steps
      · have found := Scan.tokenAt?_anywhere allows_operator scanned
        rcases found with ⟨terminal, length, found, sameLength⟩
        exact (HighlightedPiece.tokenTexts_cons_iff proper skipped found _).trans
          ((and_congr sameLength same).trans (Lexeme.standWhole_cons skipped _).symm)
  | refused => cases resultIs

end Reading

namespace Item

theorem tokenTexts_iff {source : String} {items : List Item}
    (read : ofText source = .ok items) :
    (∃ pieces, HighlightedPiece.ofText .start source.toList = .ok pieces ∧
        tokenTexts pieces = (listLexemes items).map (·.text)) ↔
      Lexeme.standWhole (listLexemes items) source.toList = true := by
  have reads := Reading.reads_readText .start .start .start source.toList
  rw [← ofText, read] at reads
  rcases reads.tokenTexts_iff with ⟨tokens, final, steps, finished, proper, same⟩
  have valid : Reading.start.beginning.IsValid := trivial
  have areLexemes := Reading.steps?_lexemes valid proper steps
  rw [Reading.lexemes_start, ← Reading.finish?_lexemes finished,
    List.nil_append] at areLexemes
  rw [areLexemes, List.map_map]
  exact same

end Item

namespace HighlightedPiece

theorem classify_ok_iff {file source : String} {pieces : List HighlightedPiece} :
    classify file source = .ok pieces ↔ ofText .start source.toList = .ok pieces := by
  unfold classify
  cases ofText .start source.toList with
  | error error => simp [Except.mapError]
  | ok pieces => simp [Except.mapError]

/-- The highlighter succeeds on a text that can be read and shows the tokens that the
reader went through, if and only if the reader cuts no token: no keyword that directly
goes on as a longer word, and no minus that directly goes on as an arrow. -/
theorem classify_iff {source : String} {items : List Item}
    (read : Item.ofText source = .ok items) (file : String) :
    (∃ pieces, classify file source = .ok pieces ∧
        tokenTexts pieces = (Item.listLexemes items).map (·.text)) ↔
      Lexeme.standWhole (Item.listLexemes items) source.toList = true := by
  simp only [classify_ok_iff]
  exact Item.tokenTexts_iff read

theorem classify_spaced :
    ∃ items pieces, Item.ofText "let x: bool = true y" = .ok items ∧
      classify "" "let x: bool = true y" = .ok pieces ∧
      tokenTexts pieces = (Item.listLexemes items).map (·.text) := by
  have read : Item.ofText "let x: bool = true y" =
      .ok [.letBinding .start ⟨"x", ⟨1, 5⟩⟩ ⟨"bool", ⟨1, 8⟩⟩
        (some (.literal (.truth true ⟨1, 15⟩))), .word ⟨"y", ⟨1, 20⟩⟩] := by cbv
  rcases (classify_iff read "").mpr (by cbv) with ⟨pieces, classified, texts⟩
  exact ⟨_, pieces, read, classified, texts⟩

theorem classify_cutLiteral :
    (∃ items, Item.ofText "let x: bool = true1.5" = .ok items) ∧
      classify "" "let x: bool = true1.5" =
        .error ⟨.unexpectedSymbol '.', ⟨"", ⟨1, 20⟩⟩⟩ := by
  have read : Item.ofText "let x: bool = true1.5" =
      .ok [.letBinding .start ⟨"x", ⟨1, 5⟩⟩ ⟨"bool", ⟨1, 8⟩⟩
        (some (.literal (.truth true ⟨1, 15⟩))),
        .literal (.number ⟨"1.5", ⟨1, 19⟩⟩)] := by cbv
  have classified : classify "" "let x: bool = true1.5" =
      .error ⟨.unexpectedSymbol '.', ⟨"", ⟨1, 20⟩⟩⟩ := by cbv
  exact ⟨⟨_, read⟩, classified⟩

end HighlightedPiece

end StackLanguage
