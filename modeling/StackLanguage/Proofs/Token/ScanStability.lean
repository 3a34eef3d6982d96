import StackLanguage.Proofs.Token.ScanSoundness
import StackLanguage.Proofs.Token.ScanCompleteness

namespace StackLanguage

/-! A token ends within its text, and where the text is followed by a line feed the same
token is found. Only a string that is not closed could be closed by what follows. -/

namespace Scan

/-! ## Lengths -/

theorem length_takeWhile_le (isPart : Char → Bool) (characters : List Char) :
    (characters.takeWhile isPart).length ≤ characters.length :=
  (List.takeWhile_prefix isPart).length_le

theorem nameLength?_le {characters : List Char} {length : Nat}
    (found : nameLength? characters = some length) : length ≤ characters.length := by
  unfold nameLength? at found
  split at found <;> cases found
  exact length_takeWhile_le ..

theorem closingLength?_le {delimiter : Char} {length total : Nat} {characters : List Char}
    (found : closingLength? delimiter length characters = some total) :
    total ≤ length + characters.length := by
  rcases closingLength?_sound found with ⟨body, rfl, taken, _⟩
  have counted := congrArg List.length taken
  simp only [List.length_take, List.length_append, List.length_singleton] at counted
  omega

theorem stringLength?_le {characters : List Char} {length : Nat}
    (found : stringLength? characters = some length) : length ≤ characters.length := by
  unfold stringLength? at found
  split at found
  · cases found
  · split at found
    · have bound := closingLength?_le found
      rw [List.length_cons]
      omega
    · cases found

theorem markedLength?_le {mark : Char} {isPart : Char → Bool} {characters : List Char}
    {length : Nat} (found : markedLength? mark isPart characters = some length) :
    length ≤ characters.length := by
  unfold markedLength? at found
  split at found
  · next letter rest =>
      have bound := length_takeWhile_le isPart rest
      dsimp only at found
      split at found <;> cases found
      simp only [List.length_cons]
      omega
  · cases found

theorem fractionLength_le (characters : List Char) :
    fractionLength characters ≤ characters.length := by
  unfold fractionLength
  split
  · next rest =>
      have bound := length_takeWhile_le isDigitPart rest
      rw [List.length_cons]
      omega
  · exact Nat.zero_le _

theorem exponentLength_le (characters : List Char) :
    exponentLength characters ≤ characters.length := by
  have digits_le (sign : Nat) (rest : List Char) :
      let digits := ((rest.drop sign).takeWhile Char.isDigit).length
      (if digits = 0 then 0 else 1 + sign + digits) ≤ rest.length + 1 := by
    have bound := length_takeWhile_le Char.isDigit (rest.drop sign)
    rw [List.length_drop] at bound
    dsimp only
    split <;> omega
  unfold exponentLength
  split
  · next letter rest =>
      split
      · exact digits_le _ rest
      · exact Nat.zero_le _
  · exact Nat.zero_le _

theorem decimalLength?_le {characters : List Char} {length : Nat}
    (found : decimalLength? characters = some length) : length ≤ characters.length := by
  unfold decimalLength? at found
  split at found <;> cases found
  have whole := length_takeWhile_le isDigitPart characters
  have fraction := fractionLength_le
    (characters.drop (characters.takeWhile isDigitPart).length)
  have exponent :=
    exponentLength_le (characters.drop ((characters.takeWhile isDigitPart).length +
      fractionLength (characters.drop (characters.takeWhile isDigitPart).length)))
  simp only [List.length_drop] at fraction exponent
  omega

theorem numberLength?_le {characters : List Char} {length : Nat}
    (found : numberLength? characters = some length) : length ≤ characters.length := by
  unfold numberLength? at found
  simp only [Option.orElse_eq_orElse, Option.orElse_eq_or, Option.or_eq_some_iff] at found
  rcases found with found | ⟨_, found | ⟨_, found⟩⟩
  · exact markedLength?_le found
  · exact markedLength?_le found
  · exact decimalLength?_le found

theorem operatorLength?_le {characters : List Char} {length : Nat}
    (found : operatorLength? characters = some length) : length ≤ characters.length := by
  unfold operatorLength? at found
  split at found
  case h_6 =>
    split at found <;> cases found
    simp
  all_goals
    cases found
    try simp

theorem keywordAt?_le {allowed : Terminal → Bool} {characters : List Char}
    {keyword : Keyword} (found : keywordAt? allowed characters = some keyword) :
    keyword.text.length ≤ characters.length := by
  have holds := List.find?_some found
  simp only [Bool.and_eq_true, List.isPrefixOf_iff_prefix] at holds
  exact String.length_toList ▸ holds.2.length_le

theorem wordAt?_le {allowed : Terminal → Bool} {characters : List Char}
    {terminal : Terminal} {length : Nat}
    (found : wordAt? allowed characters = some (terminal, length)) :
    length ≤ characters.length := by
  unfold wordAt? at found
  split at found
  · rcases Option.map_eq_some_iff.mp found with ⟨_, isName, same⟩
    dsimp only at same
    split at same <;> cases same <;> exact nameLength?_le isName
  · rcases Option.map_eq_some_iff.mp found with ⟨_, isKeyword, same⟩
    cases same
    exact keywordAt?_le isKeyword

theorem tokenAt?_le {allowed : Terminal → Bool} {characters : List Char}
    {terminal : Terminal} {length : Nat}
    (found : tokenAt? allowed characters = some (terminal, length)) :
    length ≤ characters.length := by
  rcases (tokenAt?_cases found).2 with ⟨-, arrow⟩ | ⟨-, number⟩ | ⟨-, string⟩ | word |
    ⟨-, operator⟩ | ⟨mark, -, punctuation, rfl⟩
  · unfold arrowLength? at arrow
    split at arrow <;> cases arrow
    simp
  · exact numberLength?_le number
  · exact stringLength?_le string
  · exact wordAt?_le word
  · exact operatorLength?_le operator
  · cases characters with
    | nil => cases mark <;> cases punctuation
    | cons first rest => simp

theorem tokenAt?_positive {allowed : Terminal → Bool} {characters : List Char}
    {terminal : Terminal} {length : Nat}
    (found : tokenAt? allowed characters = some (terminal, length)) : 0 < length := by
  have matched : Lexeme.IsProper ⟨terminal, String.ofList (characters.take length)⟩ :=
    (tokenAt?_sound found).2
  rcases isProper_starts matched with ⟨first, others, textIs, _⟩
  rw [String.toList_ofList] at textIs
  rcases length with _ | length
  · cases textIs
  · exact Nat.succ_pos _

/-! ## A line feed after a text -/

section LineFeed

variable (characters more : List Char)

theorem takeWhile_lineFeed {isPart : Char → Bool} (stops : isPart '\n' = false) :
    (characters ++ '\n' :: more).takeWhile isPart = characters.takeWhile isPart := by
  induction characters with
  | nil => exact List.takeWhile_cons_of_neg (by simp [stops])
  | cons character rest induction =>
      simp only [List.cons_append, List.takeWhile_cons, induction]

theorem isPrefixOf_lineFeed {word : List Char} (sameLine : '\n' ∉ word) :
    word.isPrefixOf (characters ++ '\n' :: more) = word.isPrefixOf characters := by
  induction word generalizing characters with
  | nil => rfl
  | cons first word induction =>
      rw [List.mem_cons, not_or] at sameLine
      cases characters with
      | nil => simp [List.isPrefixOf, Ne.symm sameLine.1]
      | cons character rest => simp [List.isPrefixOf, induction rest sameLine.2]

theorem head?_lineFeed {isPart : Char → Bool} (stops : isPart '\n' = false) :
    (characters ++ '\n' :: more).head?.any isPart = characters.head?.any isPart := by
  cases characters with
  | nil => simp [stops]
  | cons => rfl

theorem nameLength?_lineFeed :
    nameLength? (characters ++ '\n' :: more) = nameLength? characters := by
  unfold nameLength?
  rw [head?_lineFeed _ _ (by decide), takeWhile_lineFeed _ _ (by decide)]

theorem markedLength?_lineFeed {mark : Char} (noLineFeed : mark ≠ '\n')
    {isPart : Char → Bool} (stops : isPart '\n' = false) :
    markedLength? mark isPart (characters ++ '\n' :: more) =
      markedLength? mark isPart characters := by
  rcases characters with _ | ⟨first, _ | ⟨second, rest⟩⟩
  · rfl
  · by_cases zero : first = '0'
    · subst zero
      simp [markedLength?, Ne.symm noLineFeed]
    · simp [markedLength?, zero]
  · by_cases zero : first = '0'
    · subst zero
      simp [markedLength?, takeWhile_lineFeed _ _ stops]
    · simp [markedLength?, zero]

theorem fractionLength_lineFeed :
    fractionLength (characters ++ '\n' :: more) = fractionLength characters := by
  cases characters with
  | nil => rfl
  | cons first rest =>
      by_cases point : first = '.'
      · subst point
        have digits : (rest ++ '\n' :: more).takeWhile isDigitPart =
            rest.takeWhile isDigitPart :=
          takeWhile_lineFeed rest more (by decide)
        simp only [fractionLength, List.cons_append, digits]
      · simp [fractionLength, point]

theorem exponentLength_lineFeed :
    exponentLength (characters ++ '\n' :: more) = exponentLength characters := by
  have digits (sign : Nat) (rest : List Char) (within : sign ≤ rest.length) :
      ((rest ++ '\n' :: more).drop sign).takeWhile Char.isDigit =
        (rest.drop sign).takeWhile Char.isDigit := by
    rw [List.drop_append_of_le_length within, takeWhile_lineFeed _ _ (by decide)]
  rcases characters with _ | ⟨letter, _ | ⟨sign, rest⟩⟩
  · rfl
  · simp [exponentLength]
  · have none := digits 0 (sign :: rest) (Nat.zero_le _)
    have one := digits 1 (sign :: rest) (by simp)
    simp only [List.cons_append] at none one ⊢
    by_cases plus : sign = '+'
    · simp only [exponentLength, plus] at one ⊢
      rw [one]
    · by_cases minus : sign = '-'
      · simp only [exponentLength, minus] at one ⊢
        rw [one]
      · rw [List.drop_zero, List.drop_zero] at none
        simp [exponentLength, plus, minus, none]

theorem decimalLength?_lineFeed :
    decimalLength? (characters ++ '\n' :: more) = decimalLength? characters := by
  have whole := length_takeWhile_le isDigitPart characters
  have fraction := fractionLength_le
    (characters.drop (characters.takeWhile isDigitPart).length)
  rw [List.length_drop] at fraction
  unfold decimalLength?
  rw [head?_lineFeed _ _ (by decide), takeWhile_lineFeed _ _ (by decide)]
  dsimp only
  rw [List.drop_append_of_le_length whole, fractionLength_lineFeed,
    List.drop_append_of_le_length (by omega), exponentLength_lineFeed]

theorem numberLength?_lineFeed :
    numberLength? (characters ++ '\n' :: more) = numberLength? characters := by
  unfold numberLength?
  rw [markedLength?_lineFeed _ _ (by decide) (by decide),
    markedLength?_lineFeed _ _ (by decide) (by decide), decimalLength?_lineFeed]

theorem operatorLength?_lineFeed :
    operatorLength? (characters ++ '\n' :: more) = operatorLength? characters := by
  rcases characters with _ | ⟨first, _ | ⟨second, rest⟩⟩
  · rfl
  · simp [operatorLength?]
  · simp only [List.cons_append]
    by_cases double : (first = '*' ∧ second = '*') ∨
      (second = '=' ∧ first ∈ ['=', '!', '<', '>'])
    · simp only [List.mem_cons, List.not_mem_nil, or_false] at double
      rcases double with ⟨rfl, rfl⟩ | ⟨rfl, rfl | rfl | rfl | rfl⟩ <;> rfl
    · rw [operatorLength?.eq_6, operatorLength?.eq_6] <;>
        (rintro tail rfl same; cases same; simp at double)

theorem arrowLength?_lineFeed :
    arrowLength? (characters ++ '\n' :: more) = arrowLength? characters := by
  rcases characters with _ | ⟨first, _ | ⟨second, rest⟩⟩
  · rfl
  · simp [arrowLength?]
  · unfold arrowLength?
    split <;> split <;> simp_all

theorem keywordAt?_lineFeed (allowed : Terminal → Bool) :
    keywordAt? allowed (characters ++ '\n' :: more) = keywordAt? allowed characters := by
  have sameLine (keyword : Keyword) : '\n' ∉ keyword.text.toList := by
    cases keyword <;> decide
  simp only [keywordAt?, isPrefixOf_lineFeed _ _ (sameLine _)]

theorem wordAt?_lineFeed (allowed : Terminal → Bool) :
    wordAt? allowed (characters ++ '\n' :: more) = wordAt? allowed characters := by
  unfold wordAt?
  rw [keywordAt?_lineFeed, nameLength?_lineFeed]
  split
  · refine Option.map_congr fun length found => ?_
    rw [List.take_append_of_le_length (nameLength?_le found)]
  · rfl

theorem punctuationAt?_lineFeed :
    punctuationAt? (characters ++ '\n' :: more) = punctuationAt? characters := by
  have sameLine (mark : Punctuation) : '\n' ∉ mark.text.toList := by
    cases mark <;> decide
  simp only [punctuationAt?, isPrefixOf_lineFeed _ _ (sameLine _)]

theorem closingLength?_lineFeed {delimiter : Char} (notEscape : delimiter ≠ '\\')
    {length total : Nat}
    (found : closingLength? delimiter length characters = some total) :
    closingLength? delimiter length (characters ++ '\n' :: more) = some total := by
  fun_induction closingLength? delimiter length characters with
  | case1 => cases found
  | case2 => cases found
  | case3 length character rest sameLine induction =>
      simpa [closingLength?, sameLine] using induction found
  | case4 length rest notEscaping =>
      rw [List.cons_append,
        closingLength?.eq_3 _ _ _ _ fun _ _ escapes => absurd escapes notEscape]
      simpa using found
  | case5 => cases found
  | case6 length character rest _ different noEscape induction =>
      simpa [closingLength?, different, noEscape] using induction found

end LineFeed

def OpensString (characters : List Char) : Prop :=
  ∃ quote rest, characters = quote :: rest ∧ (quote = '"' ∨ quote = '\'') ∧
    stringLength? characters = none

theorem tokenAt?_quote {quote : Char} (isQuote : quote = '"' ∨ quote = '\'')
    (rest : List Char) (allowed : Terminal → Bool) :
    tokenAt? allowed (quote :: rest) =
      ((stringLength? (quote :: rest)).map fun length => (Terminal.string, length)).filter
        fun token => allowed token.1 := by
  have noDigit : quote.isDigit = false := by rcases isQuote with rfl | rfl <;> rfl
  have noName : isNameStart quote = false := by rcases isQuote with rfl | rfl <;> rfl
  have noArrow : quote ≠ '-' := by rcases isQuote with rfl | rfl <;> decide
  have noOperator : operatorLength? (quote :: rest) = none := by
    rcases isQuote with rfl | rfl <;> rfl
  have noPunctuation : punctuationAt? (quote :: rest) = none := by
    rcases isQuote with rfl | rfl <;> rfl
  rw [tokenAt?, arrowLength?_none noArrow, numberLength?_none noDigit,
    wordAt?_none allowed noName, noOperator, noPunctuation]
  cases stringLength? (quote :: rest) with
  | none => rfl
  | some length => cases isAllowed : allowed .string <;> simp [Option.filter, isAllowed]

theorem tokenAt?_none_of_opensString {characters : List Char}
    (opens : OpensString characters) (allowed : Terminal → Bool) :
    tokenAt? allowed characters = none := by
  rcases opens with ⟨quote, rest, rfl, isQuote, noString⟩
  rw [tokenAt?_quote isQuote, noString]
  rfl

theorem tokenAt?_lineFeed {characters : List Char} (noQuote : ¬ OpensString characters)
    (allowed : Terminal → Bool) (more : List Char) :
    tokenAt? allowed (characters ++ '\n' :: more) = tokenAt? allowed characters := by
  have sameString :
      stringLength? (characters ++ '\n' :: more) = stringLength? characters := by
    cases characters with
    | nil => rfl
    | cons quote rest =>
        by_cases isQuote : quote = '"' ∨ quote = '\''
        · cases found : stringLength? (quote :: rest) with
          | none => exact absurd ⟨quote, rest, rfl, isQuote, found⟩ noQuote
          | some length =>
              simp only [stringLength?, if_pos isQuote, List.cons_append] at found ⊢
              have notEscape : quote ≠ '\\' := by rcases isQuote with rfl | rfl <;> decide
              exact closingLength?_lineFeed _ _ notEscape found
        · simp only [stringLength?, if_neg isQuote, List.cons_append]
  simp only [tokenAt?, arrowLength?_lineFeed, numberLength?_lineFeed, sameString,
    wordAt?_lineFeed, operatorLength?_lineFeed, punctuationAt?_lineFeed]

end Scan

end StackLanguage
