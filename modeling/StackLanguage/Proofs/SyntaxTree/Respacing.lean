import StackLanguage.Proofs.SyntaxTree.Highlighting

namespace StackLanguage

/-! What the pieces of a text say about the text: together they are the text, and its
tokens alone, with single spaces between them, have the same pieces again. -/

/-- A lexeme as it is found where all kinds of tokens are looked for, so that no name is
spelled like a keyword. -/
structure Lexeme.IsRecognized (lexeme : Lexeme) : Prop where
  proper : lexeme.IsProper
  noKeyword : lexeme.terminal = .name → ∀ keyword : Keyword, lexeme.text ≠ keyword.text

namespace Scan

theorem wordAt?_noKeyword {text after : List Char}
    (found : wordAt? anywhere (text ++ after) = some (.name, text.length))
    (keyword : Keyword) : text ≠ keyword.text.toList := by
  rintro rfl
  rw [wordAt?, if_pos (by rfl)] at found
  rcases Option.map_eq_some_iff.mp found with ⟨length, -, same⟩
  dsimp only at same
  split at same
  · cases same
  · next notFound =>
      injection same with _ isLength
      rw [isLength, List.take_left, String.ofList_toList, List.find?_eq_none] at notFound
      exact absurd (notFound keyword (by cases keyword <;> decide)) (by simp [anywhere])

theorem tokenAt?_isRecognized {lexeme : Lexeme} {after : List Char}
    (found : tokenAt? anywhere (lexeme.text.toList ++ after) =
      some (lexeme.terminal, lexeme.text.toList.length)) : lexeme.IsRecognized := by
  refine ⟨tokenAt?_isProper found, fun isName keyword same => ?_⟩
  rcases tokenAt?_cases found with ⟨-, kind⟩
  have word : wordAt? anywhere (lexeme.text.toList ++ after) =
      some (.name, lexeme.text.toList.length) := by simpa [isName] using kind
  exact wordAt?_noKeyword word keyword (congrArg String.toList same)

theorem tokenAt?_of_isRecognized {lexeme : Lexeme} (recognized : lexeme.IsRecognized)
    {after : List Char} (ends : after = [] ∨ StartsGap after) :
    tokenAt? anywhere (lexeme.text.toList ++ after) =
      some (lexeme.terminal, lexeme.text.toList.length) := by
  rcases ends with rfl | starts
  · have lineFeed : StartsGap ['\n'] := ⟨'\n', [], rfl, by decide⟩
    have found := tokenAt?_complete recognized.proper (rfl : anywhere _ = true)
      recognized.noKeyword lineFeed
    have noQuote : ¬ OpensString lexeme.text.toList := by
      rintro ⟨quote, others, textIs, isQuote, noString⟩
      rw [textIs, List.cons_append,
        tokenAt?_quote isQuote, ← List.cons_append, ← textIs] at found
      rcases Option.map_eq_some_iff.mp (Option.filter_eq_some_iff.mp found).1 with
        ⟨length, string, same⟩
      have isString := Scan.stringLength?_sound string
      injection same with _ isLength
      rw [isLength, List.take_left] at isString
      have again := stringLength?_complete isString []
      rw [List.append_nil, noString] at again
      cases again
    rw [List.append_nil, ← tokenAt?_lineFeed noQuote anywhere []]
    exact found
  · exact tokenAt?_complete recognized.proper rfl recognized.noKeyword starts

end Scan

def Lexeme.piece (lexeme : Lexeme) : HighlightedPiece :=
  ⟨lexeme.text, some (.ofToken lexeme.terminal lexeme.text.toList)⟩

namespace HighlightedPiece

theorem ofText_recognized {lexeme : Lexeme} (recognized : lexeme.IsRecognized)
    {after : List Char} (ends : after = [] ∨ Scan.StartsGap after) (position : Position) :
    ofText position (lexeme.text.toList ++ after) =
      (ofText (position.after lexeme.text.toList) after).map (lexeme.piece :: ·) := by
  have found := Scan.tokenAt?_of_isRecognized recognized ends
  have lengthIs := lengthAt?_lexeme recognized.proper found
  have notEmpty : lexeme.text.toList ++ after ≠ [] := by
    rcases Scan.isProper_starts recognized.proper with ⟨first, others, textIs, -⟩
    simp [textIs]
  rw [ofText_piece lengthIs (Scan.tokenAt?_positive found) notEmpty, List.take_left,
    List.drop_left, String.ofList_toList]
  rfl

theorem ofText_space {lexeme : Lexeme} (proper : lexeme.IsProper) (after : List Char)
    (position : Position) :
    ofText position (' ' :: (lexeme.text.toList ++ after)) =
      (ofText (position.next ' ') (lexeme.text.toList ++ after)).map
        (⟨" ", none⟩ :: ·) := by
  rcases Scan.isProper_starts proper with ⟨first, others, textIs, noGap⟩
  have noLayout : Scan.isLayout first = false := by
    rw [Bool.eq_false_iff]
    intro isLayout
    exact noGap (List.mem_append_left ['#'] (List.contains_iff_mem.mp isLayout))
  have lengthIs : lengthAt? (' ' :: (lexeme.text.toList ++ after)) = some (1, none) := by
    have isLayout : Scan.isLayout ' ' = true := rfl
    simp [lengthAt?, textIs, isLayout, noLayout]
  exact ofText_piece lengthIs Nat.one_pos (by simp) position

theorem ofText_spaced {lexemes : List Lexeme}
    (recognized : ∀ lexeme ∈ lexemes, lexeme.IsRecognized) (position : Position) :
    ofText position ([' '].intercalate (lexemes.map (·.text.toList))) =
      .ok ((lexemes.map Lexeme.piece).intersperse ⟨" ", none⟩) := by
  induction lexemes generalizing position with
  | nil => rw [List.map_nil, List.intercalate_nil, ofText]; rfl
  | cons first rest induction =>
      rw [List.forall_mem_cons] at recognized
      cases rest with
      | nil =>
          rw [List.map_singleton,
            List.intercalate_singleton, ← List.append_nil first.text.toList,
            ofText_recognized recognized.1 (.inl rfl), ofText]
          rfl
      | cons second rest =>
          have starts (after : List Char) : Scan.StartsGap (' ' :: after) :=
            ⟨' ', after, rfl, by decide⟩
          have isSecond : ∃ after,
              [' '].intercalate (second.text.toList :: rest.map (·.text.toList)) =
                second.text.toList ++ after := by
            cases rest with
            | nil => exact ⟨[], by simp⟩
            | cons third rest =>
                exact ⟨_, by rw [List.map_cons, List.intercalate_cons_cons,
                  List.append_assoc]⟩
          rcases isSecond with ⟨after, isSecond⟩
          have others := induction recognized.2
          rw [List.map_cons, isSecond] at others
          rw [List.map_cons, List.map_cons, List.intercalate_cons_cons, isSecond,
            List.append_assoc, List.singleton_append,
            ofText_recognized recognized.1 (.inr (starts _)),
            ofText_space (recognized.2 second (.head _)).proper, others]
          rfl

inductive Splits : List Char → List HighlightedPiece → Prop
  | nil : Splits [] []
  | piece {front back : List Char} {group : Option HighlightGroup}
      {pieces : List HighlightedPiece}
      (found : lengthAt? (front ++ back) = some (front.length, group))
      (notEmpty : front ≠ []) (splits : Splits back pieces) :
      Splits (front ++ back) (⟨String.ofList front, group⟩ :: pieces)

theorem lengthAt?_bounds {characters : List Char} {length : Nat}
    {group : Option HighlightGroup}
    (found : lengthAt? characters = some (length, group)) :
    0 < length ∧ length ≤ characters.length := by
  unfold lengthAt? at found
  cases characters with
  | nil => cases found
  | cons first rest =>
      split at found
      · next isLayout =>
          have isLayout : Scan.isLayout first = true := isLayout
          cases found
          rw [List.takeWhile_cons_of_pos isLayout]
          exact ⟨Nat.succ_pos _, Nat.succ_le_succ (Scan.length_takeWhile_le _ rest)⟩
      · split at found
        · next isComment =>
            cases found
            cases isComment
            rw [List.takeWhile_cons_of_pos (by decide)]
            exact ⟨Nat.succ_pos _, Nat.succ_le_succ (Scan.length_takeWhile_le _ rest)⟩
        · rcases Option.map_eq_some_iff.mp found with ⟨⟨terminal, other⟩, scanned, same⟩
          cases same
          exact ⟨Scan.tokenAt?_positive scanned, Scan.tokenAt?_le scanned⟩

theorem lengthAt?_cases {front back : List Char} {group : Option HighlightGroup}
    (found : lengthAt? (front ++ back) = some (front.length, group)) :
    (group = none ∨ group = some .comment) ∨
      ∃ lexeme : Lexeme,
        lexeme.IsRecognized ∧ ⟨String.ofList front, group⟩ = lexeme.piece := by
  unfold lengthAt? at found
  split at found
  · injection found with found
    exact .inl (.inl (congrArg Prod.snd found).symm)
  · split at found
    · injection found with found
      exact .inl (.inr (congrArg Prod.snd found).symm)
    · rcases Option.map_eq_some_iff.mp found with ⟨⟨terminal, length⟩, scanned, same⟩
      injection same with isLength isGroup
      rw [isLength] at scanned
      rw [isLength, List.take_left] at isGroup
      have recognized : (⟨terminal, String.ofList front⟩ : Lexeme).IsRecognized :=
        Scan.tokenAt?_isRecognized (by simpa using scanned)
      refine .inr ⟨_, recognized, ?_⟩
      simp [Lexeme.piece, ← isGroup]

theorem splits_ofText (position : Position) (characters : List Char) :
    ∀ pieces, ofText position characters = .ok pieces → Splits characters pieces := by
  fun_induction ofText position characters with
  | case1 =>
      rintro _ ⟨⟩
      exact .nil
  | case2 => rintro _ ⟨⟩
  | case3 position character rest length group found piece induction =>
      intro pieces split
      have bounds := lengthAt?_bounds found
      rw [List.length_cons] at bounds
      have whole : character :: rest = piece ++ rest.drop (length - 1) := by simp [piece]
      have isLength : length = piece.length := by
        rw [List.length_cons, List.length_take]
        omega
      cases moreSplit : ofText (position.after piece) (rest.drop (length - 1)) with
      | error failure =>
          rw [moreSplit] at split
          cases split
      | ok more =>
          rw [moreSplit] at split
          cases split
          have splits := induction more moreSplit
          rw [isLength, whole] at found
          rw [whole]
          exact .piece found (List.cons_ne_nil _ _) splits

namespace Splits

variable {characters : List Char} {pieces : List HighlightedPiece}

theorem text_ne_empty (splits : Splits characters pieces) :
    ∀ piece ∈ pieces, piece.text ≠ "" := by
  induction splits with
  | nil => simp
  | piece found notEmpty splits induction =>
      exact List.forall_mem_cons.mpr ⟨by simpa using notEmpty, induction⟩

theorem flatMap_text (splits : Splits characters pieces) :
    pieces.flatMap (·.text.toList) = characters := by
  induction splits with
  | nil => rfl
  | piece found notEmpty splits induction => simp [induction]

theorem exists_lexemes (splits : Splits characters pieces) :
    ∃ lexemes : List Lexeme, (∀ lexeme ∈ lexemes, lexeme.IsRecognized) ∧
      pieces.filter isToken = lexemes.map Lexeme.piece := by
  induction splits with
  | nil => exact ⟨[], by simp, rfl⟩
  | piece found notEmpty splits induction =>
      rcases induction with ⟨lexemes, recognized, same⟩
      rcases lengthAt?_cases found with (rfl | rfl) | ⟨lexeme, isRecognized, isPiece⟩
      · exact ⟨lexemes, recognized, same⟩
      · exact ⟨lexemes, recognized, same⟩
      · refine ⟨lexeme :: lexemes, List.forall_mem_cons.mpr ⟨isRecognized, recognized⟩,
          ?_⟩
        have isToken : lexeme.piece.isToken = true := by
          simp [HighlightedPiece.isToken, Lexeme.piece, HighlightGroup.ofToken_ne_comment]
        rw [isPiece, List.filter_cons_of_pos isToken, same, List.map_cons]

end Splits

/-- The pieces of a text are not empty and make up the text, and its tokens with single
spaces between them have the same pieces again, with the spaces between them. -/
theorem classify_respaced {file source : String} {pieces : List HighlightedPiece}
    (classified : classify file source = .ok pieces) :
    (∀ piece ∈ pieces, piece.text ≠ "") ∧ String.join (pieces.map (·.text)) = source ∧
      ∀ otherFile,
        classify otherFile (" ".intercalate ((pieces.filter isToken).map (·.text))) =
          .ok ((pieces.filter isToken).intersperse ⟨" ", none⟩) := by
  have splits := splits_ofText _ _ _ (classify_ok_iff.mp classified)
  refine ⟨splits.text_ne_empty, ?_, fun otherFile => classify_ok_iff.mpr ?_⟩
  · rw [← String.toList_inj, String.toList_join, List.flatMap_map]
    exact splits.flatMap_text
  · rcases splits.exists_lexemes with ⟨lexemes, recognized, same⟩
    rw [same, String.toList_intercalate, List.map_map, List.map_map]
    exact ofText_spaced recognized .start

theorem classify_respaced_touching :
    ∃ pieces, classify "" "iffy->-1.e#!\n'# b'" = .ok pieces ∧
      classify "" "iffy -> - 1. e '# b'" =
        .ok ((pieces.filter isToken).intersperse ⟨" ", none⟩) := by
  have classified : classify "" "iffy->-1.e#!\n'# b'" =
      .ok [⟨"iffy", some .identifier⟩, ⟨"->", some .delimiter⟩, ⟨"-", some .operator⟩,
        ⟨"1.", some .float⟩, ⟨"e", some .identifier⟩, ⟨"#!", some .comment⟩, ⟨"\n", none⟩,
        ⟨"'# b'", some .string⟩] := by cbv
  have respaced := (classify_respaced classified).2.2 ""
  exact ⟨_, classified, respaced⟩

end HighlightedPiece

end StackLanguage
