import StackLanguage.Proofs.Token.ScanStability

namespace StackLanguage

/-! Where only some kinds of tokens are looked for, a token may end sooner than where all
kinds are: a keyword is then taken from the front of a longer word, and a minus from the
front of an arrow. Nothing else depends on the kinds that are looked for. -/

def Lexeme.isCut (lexeme : Lexeme) (after : List Char) : Bool :=
  match lexeme.terminal with
  | .keyword _ => after.head?.any Scan.isNamePart
  | .operator => lexeme.text = "-" && after.head? = some '>'
  | _ => false

namespace Scan

theorem length_takeWhile_append {isPart : Char → Bool} {front : List Char}
    (parts : ∀ character ∈ front, isPart character = true) (after : List Char) :
    ((front ++ after).takeWhile isPart).length = front.length ↔
      after.head?.any isPart = false := by
  rw [List.takeWhile_append_of_pos parts, List.length_append]
  cases after with
  | nil => simp
  | cons first rest => cases isFirst : isPart first <;> simp [isFirst]

theorem isName_parts {text : List Char} (isName : Terminal.IsName text) :
    ∀ character ∈ text, isNamePart character = true := by
  rcases isName with ⟨first, rest, rfl, isStart, parts⟩
  have isPart : isNamePart first = true := by
    simp only [isNameStart, isNamePart, Char.isAlphanum, Bool.or_eq_true] at isStart ⊢
    exact isStart.imp_left .inl
  exact List.forall_mem_cons.mpr ⟨isPart, parts⟩

theorem tokenAt?_anywhere_of_isName {text : List Char} (isName : Terminal.IsName text)
    (after : List Char) :
    ∃ terminal, tokenAt? anywhere (text ++ after) =
      some (terminal, ((text ++ after).takeWhile isNamePart).length) := by
  rcases isName with ⟨first, rest, rfl, isStart, -⟩
  have found : nameLength? (first :: rest ++ after) =
      some ((first :: rest ++ after).takeWhile isNamePart).length := if_pos isStart
  have word : ∃ terminal, wordAt? anywhere (first :: rest ++ after) =
      some (terminal, ((first :: rest ++ after).takeWhile isNamePart).length) := by
    unfold wordAt?
    rw [found, if_pos (by rfl), Option.map_some]
    dsimp only
    split
    · exact ⟨_, rfl⟩
    · exact ⟨_, rfl⟩
  rcases word with ⟨terminal, word⟩
  exact ⟨terminal, tokenAt?_of_word isStart rfl word⟩

theorem wordAt?_longest {allowed : Terminal → Bool} (allowsName : allowed .name = true)
    {text after : List Char} {terminal : Terminal}
    (found : wordAt? allowed (text ++ after) = some (terminal, text.length)) :
    Terminal.IsName text ∧ after.head?.any isNamePart = false := by
  rw [wordAt?, if_pos allowsName] at found
  rcases Option.map_eq_some_iff.mp found with ⟨length, nameFound, same⟩
  have isLength : length = text.length := by
    dsimp only at same
    split at same <;> cases same <;> rfl
  subst isLength
  have isName := nameLength?_sound nameFound
  rw [List.take_left] at isName
  refine ⟨isName, (length_takeWhile_append (isName_parts isName) after).mp ?_⟩
  unfold nameLength? at nameFound
  split at nameFound
  · exact Option.some.inj nameFound
  · cases nameFound

theorem wordAt?_cases {allowed : Terminal → Bool} {text : String} {after : List Char}
    {terminal : Terminal}
    (found : wordAt? allowed (text.toList ++ after) =
      some (terminal, text.toList.length)) :
    Terminal.IsName text.toList ∧
      (⟨terminal, text⟩ : Lexeme).isCut after = after.head?.any isNamePart := by
  by_cases allowsName : allowed .name = true
  · rcases wordAt?_longest allowsName found with ⟨isName, longest⟩
    refine ⟨isName, ?_⟩
    rw [longest]
    rw [wordAt?, if_pos allowsName] at found
    rcases Option.map_eq_some_iff.mp found with ⟨length, -, same⟩
    dsimp only at same
    split at same <;> cases same <;> simp [Lexeme.isCut, longest]
  · rw [wordAt?, if_neg allowsName] at found
    rcases Option.map_eq_some_iff.mp found with ⟨keyword, keywordFound, same⟩
    have textIs := keywordAt?_sound keywordFound
    injection same with isKeyword isLength
    rw [isLength, List.take_left, String.ofList_toList] at textIs
    subst isKeyword textIs
    exact ⟨keyword_isName keyword, rfl⟩

theorem operator_isCut {text : String} {after : List Char}
    (found : operatorLength? (text.toList ++ after) = some text.toList.length) :
    (⟨.operator, text⟩ : Lexeme).isCut after = true ↔
      arrowLength? (text.toList ++ after) = some 2 := by
  constructor
  · intro isCut
    simp only [Lexeme.isCut, Bool.and_eq_true, decide_eq_true_eq] at isCut
    rcases List.head?_eq_some_iff.mp isCut.2 with ⟨rest, rfl⟩
    rw [isCut.1]
    rfl
  · intro arrow
    cases textIs : text.toList with
    | nil =>
        rw [textIs] at found
        exact absurd (operatorLength?_sound found) (by simp [Terminal.operatorTexts])
    | cons first others =>
        rw [textIs] at arrow found
        unfold arrowLength? at arrow
        split at arrow
        · next rest same =>
            rw [same] at found
            have single : 1 = (first :: others).length := Option.some.inj found
            obtain rfl : others = [] := by simpa using single.symm
            cases same
            have isMinus : text = "-" := by
              rw [← String.ofList_toList (s := text), textIs]
            subst isMinus
            rfl
        · cases arrow

theorem noOperator_of_punctuation {allowed : Terminal → Bool}
    (withEqual : allowed (.punctuation .equal) = true → allowed .operator = true)
    {characters : List Char} {mark : Punctuation} {length : Nat}
    (found : tokenAt? allowed characters = some (.punctuation mark, length))
    (isMark : punctuationAt? characters = some mark) :
    operatorLength? characters = none := by
  cases characters with
  | nil => rfl
  | cons first rest =>
      cases operator : operatorLength? (first :: rest) with
      | none => rfl
      | some length =>
          have starts := operatorLength?_starts operator
          rcases punctuationAt?_starts isMark with ⟨notArrow, textIs⟩
          have isEqual : mark = .equal := by
            cases mark <;> cases textIs <;> first | rfl | exact absurd starts (by decide)
          subst isEqual
          cases textIs
          have isAllowed := withEqual (tokenAt?_cases found).1
          have noArrow := arrowLength?_none (show '=' ≠ '-' by decide) rest
          cases found.symm.trans (tokenAt?_of_operator isAllowed noArrow operator)

/-- A token that is found among some kinds is found with the same length among all kinds
if and only if it is not cut. -/
theorem tokenAt?_anywhere {allowed : Terminal → Bool}
    (withEqual : allowed (.punctuation .equal) = true → allowed .operator = true)
    {terminal : Terminal} {text : String} {after : List Char}
    (found : tokenAt? allowed (text.toList ++ after) =
      some (terminal, text.toList.length)) :
    ∃ terminal' length,
      tokenAt? anywhere (text.toList ++ after) = some (terminal', length) ∧
      (length = text.toList.length ↔
        (⟨terminal, text⟩ : Lexeme).isCut after = false) := by
  rcases tokenAt?_cases found with
    ⟨isAllowed, arrow | number | string | word | operator | punctuation⟩
  · rcases arrow with ⟨rfl, arrow⟩
    refine ⟨.punctuation .arrow, text.toList.length, ?_, by simp [Lexeme.isCut]⟩
    simp [tokenAt?, arrow, anywhere]
  · rcases number with ⟨rfl, number⟩
    exact ⟨.number, _, tokenAt?_of_number rfl number, by simp [Lexeme.isCut]⟩
  · rcases string with ⟨rfl, string⟩
    exact ⟨.string, _, tokenAt?_of_string rfl string, by simp [Lexeme.isCut]⟩
  · rcases wordAt?_cases word with ⟨isName, isCut⟩
    rcases tokenAt?_anywhere_of_isName isName after with ⟨terminal', isFound⟩
    refine ⟨terminal', _, isFound, ?_⟩
    rw [isCut]
    exact length_takeWhile_append (isName_parts isName) after
  · rcases operator with ⟨rfl, operator⟩
    have isCut := operator_isCut operator
    cases arrow : arrowLength? (text.toList ++ after) with
    | none =>
        refine ⟨.operator, _, tokenAt?_of_operator rfl arrow operator, ?_⟩
        simpa [arrow] using isCut
    | some length =>
        obtain rfl : length = 2 := by
          unfold arrowLength? at arrow
          split at arrow <;> cases arrow
          rfl
        refine ⟨.punctuation .arrow, 2, by simp [tokenAt?, arrow, anywhere], ?_⟩
        have cut := isCut.mpr arrow
        have minus := cut
        simp only [Lexeme.isCut, Bool.and_eq_true, decide_eq_true_eq] at minus
        rw [cut, minus.1]
        simp
  · rcases punctuation with ⟨mark, rfl, punctuation, single⟩
    have noOperator := noOperator_of_punctuation withEqual found punctuation
    exact ⟨_, _, tokenAt?_of_punctuation rfl noOperator punctuation, by
      simp [Lexeme.isCut, single]⟩

end Scan

end StackLanguage
