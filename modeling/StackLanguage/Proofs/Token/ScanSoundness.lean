import Mathlib.Data.List.TakeWhile
import StackLanguage.Proofs.Token.Terminals

namespace StackLanguage

/-! What the scanner finds at the front of a text is allowed and matches the terminal that
it names. -/

namespace Scan

open Terminal

theorem take_length_takeWhile (isPart : Char → Bool) (characters : List Char) :
    characters.take (characters.takeWhile isPart).length = characters.takeWhile isPart :=
  (List.prefix_iff_eq_take.mp (List.takeWhile_prefix isPart)).symm

theorem nameLength?_sound {characters : List Char} {length : Nat}
    (found : nameLength? characters = some length) : IsName (characters.take length) := by
  unfold nameLength? at found
  split at found
  · next starts =>
      cases found
      cases characters with
      | nil => cases starts
      | cons first rest =>
          have isStart : isNameStart first = true := starts
          have isPart : isNamePart first = true := by
            simp only [isNameStart, isNamePart, Char.isAlphanum,
              Bool.or_eq_true] at isStart ⊢
            exact isStart.imp_left .inl
          rw [take_length_takeWhile, List.takeWhile_cons_of_pos isPart]
          exact ⟨first, _, rfl, isStart,
            fun character member => List.mem_takeWhile_imp member⟩
  · cases found

theorem closingLength?_sound {delimiter : Char} {length total : Nat}
    {characters : List Char}
    (found : closingLength? delimiter length characters = some total) :
    ∃ body, total = length + body.length + 1 ∧
      characters.take (body.length + 1) = body ++ [delimiter] ∧
      IsStringBody delimiter body := by
  fun_induction closingLength? delimiter length characters with
  | case1 => cases found
  | case2 => cases found
  | case3 length character rest sameLine induction =>
      rcases induction found with ⟨body, rfl, taken, isBody⟩
      refine ⟨'\\' :: character :: body, ?_, ?_, .escape sameLine isBody⟩
      · simp only [List.length_cons]; omega
      · simp [List.take_succ_cons, taken]
  | case4 length rest notEscaping =>
      cases found
      exact ⟨[], rfl, rfl, .nil⟩
  | case5 => cases found
  | case6 length character rest _ different noEscape induction =>
      rcases induction found with ⟨body, rfl, taken, isBody⟩
      refine ⟨character :: body, ?_, ?_, .plain different noEscape isBody⟩
      · simp only [List.length_cons]; omega
      · simp [List.take_succ_cons, taken]

theorem stringLength?_sound {characters : List Char} {length : Nat}
    (found : stringLength? characters = some length) :
    IsString (characters.take length) := by
  unfold stringLength? at found
  split at found
  · cases found
  · next delimiter rest =>
      split at found
      · next isDelimiter =>
          rcases closingLength?_sound found with ⟨body, rfl, taken, isBody⟩
          refine ⟨delimiter, body, isDelimiter, isBody, ?_⟩
          rw [show 1 + body.length + 1 = (body.length + 1) + 1 by omega,
            List.take_succ_cons, taken]
      · cases found

theorem markedLength?_sound {mark : Char} {isPart : Char → Bool} {characters : List Char}
    {length : Nat} (found : markedLength? mark isPart characters = some length) :
    IsMarked mark isPart (characters.take length) := by
  unfold markedLength? at found
  split at found
  · next letter rest =>
      simp only at found
      split at found
      · next holds =>
          cases found
          rcases holds with ⟨rfl, positive⟩
          refine ⟨rest.takeWhile isPart, ?_, List.length_pos_iff.mp positive,
            fun character member => List.mem_takeWhile_imp member⟩
          rw [Nat.add_comm, List.take_succ_cons, List.take_succ_cons,
            take_length_takeWhile]
      · cases found
  · cases found

theorem fractionLength_sound (characters : List Char) :
    IsFraction (characters.take (fractionLength characters)) := by
  unfold fractionLength
  split
  · next rest =>
      rw [Nat.add_comm, List.take_succ_cons, take_length_takeWhile]
      exact .inr ⟨_, rfl, fun character member => List.mem_takeWhile_imp member⟩
  · exact .inl (List.take_zero ..)

theorem isExponent_of_sign {letter : Char} {sign rest : List Char}
    (isLetter : letter = 'e' ∨ letter = 'E')
    (isSign : sign = [] ∨ sign = ['+'] ∨ sign = ['-'])
    (taken : rest.take sign.length = sign) :
    let digits := ((rest.drop sign.length).takeWhile Char.isDigit).length
    IsExponent
      ((letter :: rest).take (if digits = 0 then 0 else 1 + sign.length + digits)) := by
  intro digits
  split
  · exact .inl List.take_zero
  · next someDigits =>
      refine .inr ⟨letter, sign, (rest.drop sign.length).takeWhile Char.isDigit, ?_,
        isLetter, isSign, ?_, fun character member => List.mem_takeWhile_imp member⟩
      · rw [Nat.add_assoc, Nat.add_comm, List.take_succ_cons, List.take_add, taken,
          take_length_takeWhile]
      · exact fun isEmpty => someDigits (List.length_eq_zero_iff.mpr isEmpty)

theorem exponentLength_sound (characters : List Char) :
    IsExponent (characters.take (exponentLength characters)) := by
  unfold exponentLength
  split
  · next letter rest =>
      split
      · next isLetter =>
          dsimp only
          split
          · exact isExponent_of_sign isLetter (.inr (.inl rfl)) rfl
          · exact isExponent_of_sign isLetter (.inr (.inr rfl)) rfl
          · exact isExponent_of_sign isLetter (.inl rfl) rfl
      · exact .inl List.take_zero
  · exact .inl List.take_zero

theorem decimalLength?_sound {characters : List Char} {length : Nat}
    (found : decimalLength? characters = some length) :
    IsDecimal (characters.take length) := by
  unfold decimalLength? at found
  split at found
  · next starts =>
      cases found
      cases characters with
      | nil => cases starts
      | cons first rest =>
          have isDigit : first.isDigit = true := starts
          have isPart : isDigitPart first = true := by simp [isDigitPart, isDigit]
          generalize wholeIs : (first :: rest).takeWhile isDigitPart = whole
          rw [List.take_add, List.take_add, ← wholeIs, take_length_takeWhile,
            List.takeWhile_cons_of_pos isPart]
          refine ⟨first, _, _, _, rfl, isDigit,
            fun character member => List.mem_takeWhile_imp member,
            fractionLength_sound _, ?_⟩
          exact exponentLength_sound _
  · cases found

theorem numberLength?_sound {characters : List Char} {length : Nat}
    (found : numberLength? characters = some length) :
    IsNumber (characters.take length) := by
  unfold numberLength? at found
  simp only [Option.orElse_eq_orElse, Option.orElse_eq_or, Option.or_eq_some_iff] at found
  rcases found with found | ⟨_, found | ⟨_, found⟩⟩
  · exact .inl (markedLength?_sound found)
  · exact .inr (.inl (markedLength?_sound found))
  · exact .inr (.inr (decimalLength?_sound found))

theorem operatorLength?_sound {characters : List Char} {length : Nat}
    (found : operatorLength? characters = some length) :
    String.ofList (characters.take length) ∈ operatorTexts := by
  unfold operatorLength? at found
  split at found
  · cases found; simp [operatorTexts]
  · cases found; simp [operatorTexts]
  · cases found; simp [operatorTexts]
  · cases found; simp [operatorTexts]
  · cases found; simp [operatorTexts]
  · next character rest _ _ _ _ _ =>
      split at found
      · next isOperator =>
          cases found
          simp only [List.contains_iff_mem, List.mem_cons, List.not_mem_nil,
            or_false] at isOperator
          rcases isOperator with rfl | rfl | rfl | rfl | rfl | rfl | rfl <;>
            simp [operatorTexts]
      · cases found
  · cases found

theorem keywordAt?_sound {allowed : Terminal → Bool} {characters : List Char}
    {keyword : Keyword} (found : keywordAt? allowed characters = some keyword) :
    String.ofList (characters.take keyword.text.length) = keyword.text := by
  have holds := List.find?_some found
  simp only [Bool.and_eq_true, List.isPrefixOf_iff_prefix] at holds
  rw [← String.length_toList, ← List.prefix_iff_eq_take.mp holds.2, String.ofList_toList]

theorem wordAt?_sound {allowed : Terminal → Bool} {characters : List Char}
    {terminal : Terminal} {length : Nat}
    (found : wordAt? allowed characters = some (terminal, length)) :
    terminal.Matches (String.ofList (characters.take length)) := by
  unfold wordAt? at found
  split at found
  · simp only [Option.map_eq_some_iff] at found
    rcases found with ⟨_, nameFound, found⟩
    split at found
    · next keyword isKeyword =>
        cases found
        have holds := List.find?_some isKeyword
        simp only [Bool.and_eq_true, decide_eq_true_eq] at holds
        exact holds.2.symm
    · cases found
      change IsName _
      rw [String.toList_ofList]
      exact nameLength?_sound nameFound
  · simp only [Option.map_eq_some_iff] at found
    rcases found with ⟨keyword, isKeyword, found⟩
    cases found
    exact keywordAt?_sound isKeyword

theorem punctuationAt?_sound {characters : List Char} {punctuation : Punctuation}
    (found : punctuationAt? characters = some punctuation) :
    String.ofList (characters.take 1) = punctuation.text := by
  have holds := List.find?_some found
  simp only [Bool.and_eq_true, List.isPrefixOf_iff_prefix, decide_eq_true_eq] at holds
  have single : punctuation.text.toList.length = 1 := by
    cases punctuation <;> first | rfl | exact absurd rfl holds.1
  rw [← single, ← List.prefix_iff_eq_take.mp holds.2, String.ofList_toList]

theorem arrowLength?_sound {characters : List Char} {length : Nat}
    (found : arrowLength? characters = some length) :
    String.ofList (characters.take length) = Punctuation.arrow.text := by
  unfold arrowLength? at found
  split at found <;> cases found
  simp [Punctuation.text]

theorem tokenAt?_cases {allowed : Terminal → Bool} {characters : List Char}
    {terminal : Terminal} {length : Nat}
    (found : tokenAt? allowed characters = some (terminal, length)) :
    allowed terminal = true ∧
      ((terminal = .punctuation .arrow ∧ arrowLength? characters = some length) ∨
        (terminal = .number ∧ numberLength? characters = some length) ∨
        (terminal = .string ∧ stringLength? characters = some length) ∨
        wordAt? allowed characters = some (terminal, length) ∨
        (terminal = .operator ∧ operatorLength? characters = some length) ∨
        ∃ mark, terminal = .punctuation mark ∧ punctuationAt? characters = some mark ∧
          length = 1) := by
  unfold tokenAt? at found
  rcases List.exists_of_findSome?_eq_some found with ⟨candidate, member, kept⟩
  rcases Option.filter_eq_some_iff.mp kept with ⟨rfl, isAllowed⟩
  refine ⟨isAllowed, ?_⟩
  simp only [List.mem_cons, List.not_mem_nil, or_false] at member
  rcases member with isArrow | isNumber | isString | isWord | isOperator | isPunctuation
  · rcases Option.map_eq_some_iff.mp isArrow.symm with ⟨_, arrow, same⟩
    cases same
    exact .inl ⟨rfl, arrow⟩
  · rcases Option.map_eq_some_iff.mp isNumber.symm with ⟨_, number, same⟩
    cases same
    exact .inr (.inl ⟨rfl, number⟩)
  · rcases Option.map_eq_some_iff.mp isString.symm with ⟨_, string, same⟩
    cases same
    exact .inr (.inr (.inl ⟨rfl, string⟩))
  · exact .inr (.inr (.inr (.inl isWord.symm)))
  · rcases Option.map_eq_some_iff.mp isOperator.symm with ⟨_, operator, same⟩
    cases same
    exact .inr (.inr (.inr (.inr (.inl ⟨rfl, operator⟩))))
  · rcases Option.map_eq_some_iff.mp isPunctuation.symm with ⟨mark, punctuation, same⟩
    cases same
    exact .inr (.inr (.inr (.inr (.inr ⟨mark, rfl, punctuation, rfl⟩))))

/-- A token that is found is allowed and matches its terminal. -/
theorem tokenAt?_sound {allowed : Terminal → Bool} {characters : List Char}
    {terminal : Terminal} {length : Nat}
    (found : tokenAt? allowed characters = some (terminal, length)) :
    allowed terminal = true ∧
      terminal.Matches (String.ofList (characters.take length)) := by
  rcases tokenAt?_cases found with ⟨isAllowed, kind⟩
  refine ⟨isAllowed, ?_⟩
  rcases kind with ⟨rfl, arrow⟩ | ⟨rfl, number⟩ | ⟨rfl, string⟩ | word | ⟨rfl, operator⟩ |
    ⟨mark, rfl, punctuation, rfl⟩
  · exact arrowLength?_sound arrow
  · change IsNumber _
    rw [String.toList_ofList]
    exact numberLength?_sound number
  · change IsString _
    rw [String.toList_ofList]
    exact stringLength?_sound string
  · exact wordAt?_sound word
  · exact operatorLength?_sound operator
  · exact punctuationAt?_sound punctuation

theorem tokenAt?_isProper {allowed : Terminal → Bool} {lexeme : Lexeme}
    {after : List Char} (found : tokenAt? allowed (lexeme.text.toList ++ after) =
      some (lexeme.terminal, lexeme.text.toList.length)) : lexeme.IsProper := by
  have matched := (tokenAt?_sound found).2
  rwa [List.take_left, String.ofList_toList] at matched

end Scan

end StackLanguage
