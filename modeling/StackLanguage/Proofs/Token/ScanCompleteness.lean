import Mathlib.Data.List.TakeWhile
import StackLanguage.Proofs.Token.Terminals

namespace StackLanguage

/-! A token that is allowed is found whole by the scanner where white space or a comment
follows, as no longer token is there then. -/

namespace Scan

open Terminal

def gapStarts : List Char := [' ', '\t', '\x0c', '\r', '\n', '#']

theorem noneOf {isPart : Char → Bool} {characters : List Char}
    (noPart : characters.any isPart = false) :
    ∀ character ∈ characters, isPart character = false := by
  simpa using noPart

def StartsGap (characters : List Char) : Prop :=
  ∃ first rest, characters = first :: rest ∧ first ∈ gapStarts

theorem startsGap_of_trivia {gap : List Char} (trivia : IsTrivia gap)
    (notEmpty : gap ≠ []) (rest : List Char) : StartsGap (gap ++ rest) := by
  cases trivia with
  | nil => exact absurd rfl notEmpty
  | @layout character others isLayout trivia =>
      refine ⟨character, others ++ rest, rfl, ?_⟩
      simp only [Scan.isLayout, List.contains_iff_mem, List.mem_cons, List.not_mem_nil,
        or_false]
        at isLayout
      simp only [gapStarts, List.mem_cons, List.not_mem_nil, or_false]
      exact isLayout.imp_right fun other => other.imp_right fun other => other.imp_right
        fun other => other.imp_right .inl
  | comment sameLine trivia => exact ⟨'#', _, rfl, by decide⟩

theorem takeWhile_stop {isPart : Char → Bool} {text : List Char} {stop : Char}
    {rest : List Char} (parts : ∀ character ∈ text, isPart character = true)
    (stops : isPart stop = false) : (text ++ stop :: rest).takeWhile isPart = text := by
  rw [List.takeWhile_append_of_pos parts, List.takeWhile_cons_of_neg (by simp [stops]),
    List.append_nil]

theorem nameLength?_complete {text rest : List Char} (isName : IsName text)
    (starts : StartsGap rest) : nameLength? (text ++ rest) = some text.length := by
  rcases isName with ⟨first, others, rfl, isStart, parts⟩
  rcases starts with ⟨stop, after, rfl, isGap⟩
  have stops : isNamePart stop = false := noneOf (by decide) stop isGap
  have isPart : isNamePart first = true := by
    simp only [isNameStart, isNamePart, Char.isAlphanum, Bool.or_eq_true] at isStart ⊢
    exact isStart.imp_left .inl
  have allParts : ∀ character ∈ first :: others, isNamePart character = true :=
    List.forall_mem_cons.mpr ⟨isPart, parts⟩
  unfold nameLength?
  rw [takeWhile_stop allParts stops]
  exact if_pos isStart

theorem closingLength?_complete {delimiter : Char} (notEscape : delimiter ≠ '\\')
    {body : List Char} (isBody : IsStringBody delimiter body) (length : Nat)
    (rest : List Char) :
    closingLength? delimiter length (body ++ delimiter :: rest) =
      some (length + body.length + 1) := by
  induction isBody generalizing length with
  | nil =>
      rw [List.nil_append,
        closingLength?.eq_3 _ _ _ _ fun _ _ escapes => absurd escapes notEscape]
      simp
  | plain other noEscape body induction =>
      simp [closingLength?, other, noEscape, induction]
      omega
  | escape sameLine body induction =>
      simp [closingLength?, sameLine, induction]
      omega

theorem stringLength?_complete {text : List Char} (isString : IsString text)
    (rest : List Char) : stringLength? (text ++ rest) = some text.length := by
  rcases isString with ⟨delimiter, body, isDelimiter, isBody, rfl⟩
  have notEscape : delimiter ≠ '\\' := by
    rcases isDelimiter with rfl | rfl <;> decide
  have found := closingLength?_complete notEscape isBody 1 rest
  simp only [stringLength?, List.cons_append, List.append_assoc, List.nil_append,
    isDelimiter, if_true, found, List.length_cons, List.length_append, List.length_nil]
  congr 1
  omega

theorem markedLength?_complete {mark : Char} {isPart : Char → Bool}
    {text rest : List Char} (isMarked : IsMarked mark isPart text)
    (stops : ∀ stop ∈ gapStarts, isPart stop = false) (starts : StartsGap rest) :
    markedLength? mark isPart (text ++ rest) = some text.length := by
  rcases isMarked with ⟨digits, rfl, someDigits, parts⟩
  rcases starts with ⟨stop, after, rfl, isGap⟩
  have positive : 0 < digits.length := List.length_pos_iff.mpr someDigits
  simp only [markedLength?, List.cons_append, takeWhile_stop parts (stops stop isGap),
    positive, and_self, if_true, List.length_cons]
  congr 1
  omega

def StartsWith (starts : List Char) (characters : List Char) : Prop :=
  ∃ first rest, characters = first :: rest ∧ first ∈ starts ++ gapStarts

theorem exponent_startsWith {exponent rest : List Char} (isExponent : IsExponent exponent)
    (starts : StartsGap rest) : StartsWith ['e', 'E'] (exponent ++ rest) := by
  rcases isExponent with rfl | ⟨letter, sign, digits, rfl, isLetter, _⟩
  · rcases starts with ⟨stop, after, rfl, isGap⟩
    exact ⟨stop, after, rfl, List.mem_append_right _ isGap⟩
  · refine ⟨letter, _, rfl, List.mem_append_left _ ?_⟩
    simpa using isLetter

theorem fraction_startsWith {fraction exponent rest : List Char}
    (isFraction : IsFraction fraction) (isExponent : IsExponent exponent)
    (starts : StartsGap rest) :
    StartsWith ['.', 'e', 'E'] (fraction ++ (exponent ++ rest)) := by
  rcases isFraction with rfl | ⟨digits, rfl, _⟩
  · rcases exponent_startsWith isExponent starts with ⟨first, after, same, member⟩
    exact ⟨first, after, same, List.mem_cons_of_mem _ member⟩
  · exact ⟨'.', _, rfl, by decide⟩

theorem exponentLength_complete {exponent rest : List Char}
    (isExponent : IsExponent exponent) (starts : StartsGap rest) :
    exponentLength (exponent ++ rest) = exponent.length := by
  rcases starts with ⟨stop, after, rfl, isGap⟩
  rcases isExponent with
    rfl | ⟨letter, sign, digits, rfl, isLetter, isSign, someDigits, parts⟩
  · have noLetter : ¬ (stop = 'e' ∨ stop = 'E') := by
      rintro (rfl | rfl) <;> exact absurd isGap (by decide)
    simp only [List.nil_append, exponentLength, noLetter, if_false, List.length_nil]
  · have stops : stop.isDigit = false := noneOf (by decide) stop isGap
    have counted : digits.length ≠ 0 := by simpa using someDigits
    rcases isSign with rfl | rfl | rfl
    · rcases List.exists_cons_of_ne_nil someDigits with ⟨digit, others, rfl⟩
      have isDigit : digit.isDigit = true := parts digit List.mem_cons_self
      have noPlus : digit ≠ '+' := by rintro rfl; cases isDigit
      have noMinus : digit ≠ '-' := by rintro rfl; cases isDigit
      have whole : (digit :: (others ++ stop :: after)).takeWhile Char.isDigit =
          digit :: others :=
        takeWhile_stop parts stops
      simp [exponentLength, isLetter, noPlus, noMinus, whole]
      omega
    · simp [exponentLength, isLetter, takeWhile_stop parts stops, counted]
      omega
    · simp [exponentLength, isLetter, takeWhile_stop parts stops, counted]
      omega

theorem fractionLength_complete {fraction rest : List Char}
    (isFraction : IsFraction fraction) (starts : StartsWith ['e', 'E'] rest) :
    fractionLength (fraction ++ rest) = fraction.length := by
  rcases starts with ⟨stop, after, rfl, boundary⟩
  rcases isFraction with rfl | ⟨digits, rfl, parts⟩
  · have noPoint : stop ≠ '.' := by
      rintro rfl
      exact absurd boundary (by decide)
    simp [fractionLength, noPoint]
  · have stops : isDigitPart stop = false := noneOf (by decide) stop boundary
    simp only [fractionLength, List.cons_append, takeWhile_stop parts stops,
      List.length_cons]
    omega

theorem decimalLength?_complete {text rest : List Char} (isDecimal : IsDecimal text)
    (starts : StartsGap rest) : decimalLength? (text ++ rest) = some text.length := by
  rcases isDecimal with
    ⟨first, whole, fraction, exponent, rfl, isDigit, parts, isFraction, isExponent⟩
  rcases fraction_startsWith isFraction isExponent starts with
    ⟨stop, after, startsAt, boundary⟩
  have stops : isDigitPart stop = false := noneOf (by decide) stop boundary
  have allParts : ∀ character ∈ first :: whole, isDigitPart character = true :=
    List.forall_mem_cons.mpr ⟨by simp [isDigitPart, isDigit], parts⟩
  have together : first :: whole ++ fraction ++ exponent ++ rest =
      (first :: whole) ++ (fraction ++ (exponent ++ rest)) := by simp
  have wholeIs :
      (first :: whole ++ (fraction ++ (exponent ++ rest))).takeWhile isDigitPart =
        first :: whole := by
    rw [startsAt, takeWhile_stop allParts stops]
  have dropped (front back : List Char) : (front ++ back).drop front.length = back :=
    List.drop_left
  have exponentDropped : (first :: whole ++ (fraction ++ (exponent ++ rest))).drop
      ((first :: whole).length + fraction.length) = exponent ++ rest := by
    rw [← List.drop_drop, dropped, dropped]
  have fractionIs :=
    fractionLength_complete isFraction (exponent_startsWith isExponent starts)
  rw [together]
  unfold decimalLength?
  rw [wholeIs]
  refine (if_pos isDigit).trans ?_
  simp only [dropped, fractionIs, exponentDropped,
    exponentLength_complete isExponent starts]
  simp only [List.length_append, List.length_cons]

theorem not_starts_with_mark {mark : Char} (notPart : mark ∉ ['.', 'e', 'E'] ++ gapStarts)
    (notDigit : isDigitPart mark = false) {text rest : List Char}
    (isDecimal : IsDecimal text) (starts : StartsGap rest) (after : List Char) :
    text ++ rest ≠ '0' :: mark :: after := by
  rcases isDecimal with
    ⟨first, whole, fraction, exponent, rfl, isDigit, parts, isFraction, isExponent⟩
  intro same
  simp only [List.cons_append, List.append_assoc, List.cons.injEq] at same
  cases whole with
  | nil =>
      rcases fraction_startsWith isFraction isExponent starts with
        ⟨stop, _, startsAt, boundary⟩
      rw [List.nil_append, startsAt] at same
      cases same.2
      exact notPart boundary
  | cons second others =>
      cases same.2
      rw [parts mark List.mem_cons_self] at notDigit
      cases notDigit

theorem markedLength?_none {mark : Char} {isPart : Char → Bool} {characters : List Char}
    (noMark : ∀ after, characters ≠ '0' :: mark :: after) :
    markedLength? mark isPart characters = none := by
  unfold markedLength?
  split
  · next letter rest =>
      have different : letter ≠ mark := by
        rintro rfl
        exact noMark rest rfl
      simp [different]
  · rfl

theorem numberLength?_complete {text rest : List Char} (isNumber : IsNumber text)
    (starts : StartsGap rest) : numberLength? (text ++ rest) = some text.length := by
  unfold numberLength?
  rcases isNumber with isHex | isBinary | isDecimal
  · rw [markedLength?_complete isHex (noneOf (by decide)) starts]
    rfl
  · have noHex : ∀ after, text ++ rest ≠ '0' :: 'x' :: after := by
      rcases isBinary with ⟨digits, rfl, _⟩
      intro after same
      simp at same
    rw [markedLength?_none noHex,
      markedLength?_complete isBinary (noneOf (by decide)) starts]
    rfl
  · rw [markedLength?_none
        (not_starts_with_mark (by decide) (by decide) isDecimal starts),
      markedLength?_none
        (not_starts_with_mark (by decide) (by decide) isDecimal starts),
      decimalLength?_complete isDecimal starts]
    rfl

theorem operatorLength?_complete {text : String} (isOperator : text ∈ operatorTexts)
    {rest : List Char} (starts : StartsGap rest) :
    operatorLength? (text.toList ++ rest) = some text.toList.length := by
  rcases starts with ⟨stop, after, rfl, isGap⟩
  simp only [operatorTexts, List.mem_cons, List.not_mem_nil, or_false] at isOperator
  simp only [gapStarts, List.mem_cons, List.not_mem_nil, or_false] at isGap
  rcases isOperator with
    rfl | rfl | rfl | rfl | rfl | rfl | rfl | rfl | rfl | rfl | rfl | rfl <;>
      rcases isGap with rfl | rfl | rfl | rfl | rfl | rfl <;> rfl

theorem keywordAt?_complete {allowed : Terminal → Bool} {keyword : Keyword}
    (isAllowed : allowed (.keyword keyword) = true) (rest : List Char) :
    keywordAt? allowed (keyword.text.toList ++ rest) = some keyword := by
  cases keyword <;> simp [keywordAt?, Keyword.all, Keyword.text, isAllowed]

theorem keyword_isName (keyword : Keyword) : IsName keyword.text.toList := by
  cases keyword <;> exact ⟨_, _, rfl, by decide, List.all_eq_true.mp (by decide)⟩

theorem wordAt?_keyword {allowed : Terminal → Bool} {keyword : Keyword}
    (isAllowed : allowed (.keyword keyword) = true) {rest : List Char}
    (starts : StartsGap rest) :
    wordAt? allowed (keyword.text.toList ++ rest) =
      some (.keyword keyword, keyword.text.toList.length) := by
  unfold wordAt?
  split
  · rw [nameLength?_complete (keyword_isName keyword) starts, Option.map_some,
      List.take_left, String.ofList_toList]
    have found : Keyword.all.find? (fun other =>
        allowed (.keyword other) && other.text = keyword.text) = some keyword := by
      cases keyword <;> simp [Keyword.all, Keyword.text, isAllowed]
    simp only [found]
  · rw [keywordAt?_complete isAllowed rest]
    rfl

theorem wordAt?_name {allowed : Terminal → Bool} (isAllowed : allowed .name = true)
    {text : String} (isName : IsName text.toList)
    (noKeyword : ∀ keyword : Keyword, text ≠ keyword.text) {rest : List Char}
    (starts : StartsGap rest) :
    wordAt? allowed (text.toList ++ rest) = some (.name, text.toList.length) := by
  have notFound : Keyword.all.find? (fun keyword =>
      allowed (.keyword keyword) && keyword.text = text) = none := by
    rw [List.find?_eq_none]
    intro keyword _ same
    simp only [Bool.and_eq_true, decide_eq_true_eq] at same
    exact noKeyword keyword same.2.symm
  unfold wordAt?
  rw [if_pos isAllowed, nameLength?_complete isName starts, Option.map_some,
    List.take_left, String.ofList_toList]
  simp only [notFound]

/-! The first character of a text tells which kinds of tokens may be there. -/

theorem arrowLength?_none {first : Char} (other : first ≠ '-') (rest : List Char) :
    arrowLength? (first :: rest) = none := by
  unfold arrowLength?
  split
  · next same => cases same; exact absurd rfl other
  · rfl

theorem numberLength?_none {first : Char} (other : first.isDigit = false)
    (rest : List Char) : numberLength? (first :: rest) = none := by
  have notZero : first ≠ '0' := by rintro rfl; cases other
  have noMark (mark : Char) : ∀ after, first :: rest ≠ '0' :: mark :: after := by
    intro after same
    exact notZero (List.cons.inj same).1
  unfold numberLength?
  rw [markedLength?_none (noMark _), markedLength?_none (noMark _)]
  simp [decimalLength?, other]

theorem stringLength?_none {first : Char} (other : first ≠ '"' ∧ first ≠ '\'')
    (rest : List Char) : stringLength? (first :: rest) = none := by
  simp [stringLength?, other.1, other.2]

theorem wordAt?_none (allowed : Terminal → Bool) {first : Char}
    (other : isNameStart first = false) (rest : List Char) :
    wordAt? allowed (first :: rest) = none := by
  unfold wordAt?
  split
  · simp [nameLength?, other]
  · rw [Option.map_eq_none_iff, keywordAt?, List.find?_eq_none]
    intro keyword _ starts
    simp only [Bool.and_eq_true, List.isPrefixOf_iff_prefix] at starts
    rcases keyword_isName keyword with ⟨letter, others, textIs, isStart, _⟩
    rw [textIs, List.cons_prefix_cons] at starts
    rw [starts.2.1, other] at isStart
    cases isStart

theorem punctuationAt?_complete {mark : Punctuation} (notArrow : mark ≠ .arrow)
    (rest : List Char) : punctuationAt? (mark.text.toList ++ rest) = some mark := by
  cases mark <;> first | exact absurd rfl notArrow | rfl

theorem isDigit_of_isNameStart {first : Char} (isStart : isNameStart first = true) :
    first.isDigit = false := by
  by_contra isDigit
  rw [Bool.not_eq_false, Char.isDigit_iff_toNat] at isDigit
  simp only [isNameStart, Bool.or_eq_true, decide_eq_true_eq] at isStart
  rcases isStart with isAlpha | rfl
  · have letters : (decide ('A'.val ≤ first.val ∧ first.val ≤ 'Z'.val) ||
        ('a'.val ≤ first.val && first.val ≤ 'z'.val)) = true := isAlpha
    simp [UInt32.le_iff_toNat_le] at letters isDigit
    omega
  · simp at isDigit

theorem isNumber_starts {text : List Char} (isNumber : IsNumber text) :
    ∃ first others, text = first :: others ∧ first.isDigit = true := by
  rcases isNumber with ⟨digits, rfl, _⟩ | ⟨digits, rfl, _⟩ |
    ⟨first, whole, fraction, exponent, rfl, isDigit, _⟩
  · exact ⟨'0', _, rfl, rfl⟩
  · exact ⟨'0', _, rfl, rfl⟩
  · exact ⟨first, _, rfl, isDigit⟩

theorem isProper_starts {lexeme : Lexeme} (proper : lexeme.IsProper) :
    ∃ first others, lexeme.text.toList = first :: others ∧ first ∉ gapStarts := by
  have gapNoName : ∀ first ∈ gapStarts, isNameStart first = false := noneOf (by decide)
  have gapNoDigit : ∀ first ∈ gapStarts, first.isDigit = false := noneOf (by decide)
  have ofName {first : Char} (isStart : isNameStart first = true) : first ∉ gapStarts :=
    fun isGap => by rw [gapNoName first isGap] at isStart; cases isStart
  rcases lexeme with ⟨terminal, text⟩
  cases terminal with
  | endOfText => exact proper.elim
  | name =>
      rcases (show IsName text.toList from proper) with
        ⟨first, others, textIs, isStart, _⟩
      exact ⟨first, others, textIs, ofName isStart⟩
  | number =>
      rcases isNumber_starts proper with ⟨first, others, textIs, isDigit⟩
      refine ⟨first, others, textIs, fun isGap => ?_⟩
      rw [gapNoDigit first isGap] at isDigit
      cases isDigit
  | string =>
      rcases (show IsString text.toList from proper) with
        ⟨delimiter, body, isDelimiter, _, textIs⟩
      exact ⟨delimiter, _, textIs, by rcases isDelimiter with rfl | rfl <;> decide⟩
  | operator =>
      have isOperator : text ∈ operatorTexts := proper
      simp only [operatorTexts, List.mem_cons, List.not_mem_nil, or_false] at isOperator
      rcases isOperator with
        rfl | rfl | rfl | rfl | rfl | rfl | rfl | rfl | rfl | rfl | rfl | rfl <;>
        exact ⟨_, _, rfl, by decide⟩
  | keyword keyword =>
      obtain rfl : text = keyword.text := proper
      rcases keyword_isName keyword with ⟨first, others, textIs, isStart, _⟩
      exact ⟨first, others, textIs, ofName isStart⟩
  | punctuation mark =>
      obtain rfl : text = mark.text := proper
      cases mark <;> exact ⟨_, _, rfl, by decide⟩

theorem operatorLength?_starts {first : Char} {rest : List Char} {length : Nat}
    (found : operatorLength? (first :: rest) = some length) :
    first ∈ ['-', '+', '*', '/', '%', '<', '>', '=', '!'] := by
  unfold operatorLength? at found
  split at found
  case h_6 =>
    next same =>
    cases same
    split at found
    · next isOperator =>
        exact List.mem_append_left ['=', '!'] (List.contains_iff_mem.mp isOperator)
    · cases found
  case h_7 => cases found
  all_goals
    next same =>
    cases same
    decide

theorem punctuationAt?_starts {first : Char} {rest : List Char} {mark : Punctuation}
    (found : punctuationAt? (first :: rest) = some mark) :
    mark ≠ .arrow ∧ mark.text.toList = [first] := by
  have holds := List.find?_some found
  simp only [Bool.and_eq_true, List.isPrefixOf_iff_prefix, decide_eq_true_eq] at holds
  refine ⟨holds.1, ?_⟩
  cases mark <;> first
    | exact absurd rfl holds.1
    | (obtain ⟨_, same⟩ := holds.2; cases same; rfl)

/-! ## The first kind that is found and allowed -/

section Found

variable {allowed : Terminal → Bool} {characters : List Char} {length : Nat}

theorem tokenAt?_of_number (isAllowed : allowed .number = true)
    (found : numberLength? characters = some length) :
    tokenAt? allowed characters = some (.number, length) := by
  cases characters with
  | nil => cases found
  | cons first rest =>
      have isDigit : first.isDigit = true := by
        by_contra noDigit
        rw [numberLength?_none (eq_false_of_ne_true noDigit)] at found
        cases found
      have noArrow : first ≠ '-' := by rintro rfl; cases isDigit
      simp [tokenAt?, arrowLength?_none noArrow, found, isAllowed]

theorem tokenAt?_of_string (isAllowed : allowed .string = true)
    (found : stringLength? characters = some length) :
    tokenAt? allowed characters = some (.string, length) := by
  cases characters with
  | nil => cases found
  | cons first rest =>
      have isQuote : first = '"' ∨ first = '\'' := by
        by_contra noQuote
        rw [stringLength?_none (not_or.mp noQuote)] at found
        cases found
      have noArrow : first ≠ '-' := by rcases isQuote with rfl | rfl <;> decide
      have noDigit : first.isDigit = false := by rcases isQuote with rfl | rfl <;> rfl
      simp [tokenAt?, arrowLength?_none noArrow, numberLength?_none noDigit, found,
        isAllowed]

theorem tokenAt?_of_word {first : Char} {others : List Char}
    (isStart : isNameStart first = true) {terminal : Terminal}
    (isAllowed : allowed terminal = true)
    (found : wordAt? allowed (first :: others) = some (terminal, length)) :
    tokenAt? allowed (first :: others) = some (terminal, length) := by
  have noArrow : first ≠ '-' := by rintro rfl; cases isStart
  have noQuote : first ≠ '"' ∧ first ≠ '\'' := by constructor <;>
    (rintro rfl; cases isStart)
  simp [tokenAt?, arrowLength?_none noArrow,
    numberLength?_none (isDigit_of_isNameStart isStart), stringLength?_none noQuote,
    found, isAllowed]

theorem tokenAt?_of_operator (isAllowed : allowed .operator = true)
    (noArrow : arrowLength? characters = none)
    (found : operatorLength? characters = some length) :
    tokenAt? allowed characters = some (.operator, length) := by
  cases characters with
  | nil => cases found
  | cons first rest =>
      have starts := operatorLength?_starts found
      have noDigit : first.isDigit = false := noneOf (by decide) first starts
      have noName : isNameStart first = false := noneOf (by decide) first starts
      have noQuote : first ≠ '"' ∧ first ≠ '\'' := by
        constructor <;> (rintro rfl; exact absurd starts (by decide))
      simp [tokenAt?, noArrow, numberLength?_none noDigit, stringLength?_none noQuote,
        wordAt?_none allowed noName, found, isAllowed]

theorem tokenAt?_of_punctuation {mark : Punctuation}
    (isAllowed : allowed (.punctuation mark) = true)
    (noOperator : operatorLength? characters = none)
    (found : punctuationAt? characters = some mark) :
    tokenAt? allowed characters = some (.punctuation mark, 1) := by
  cases characters with
  | nil => cases mark <;> cases found
  | cons first rest =>
      rcases punctuationAt?_starts found with ⟨notArrow, textIs⟩
      have firstIs : first ≠ '-' ∧ first.isDigit = false ∧ (first ≠ '"' ∧ first ≠ '\'') ∧
          isNameStart first = false := by
        cases mark <;> first
          | exact absurd rfl notArrow
          | (cases textIs; exact ⟨by decide, rfl, by decide, rfl⟩)
      rcases firstIs with ⟨noArrow, noDigit, noQuote, noName⟩
      simp [tokenAt?, arrowLength?_none noArrow, numberLength?_none noDigit,
        stringLength?_none noQuote, wordAt?_none allowed noName, noOperator, found,
        isAllowed]

theorem tokenAt?_operator (isAllowed : allowed .operator = true) {text : String}
    (isOperator : text ∈ operatorTexts) {rest : List Char} (starts : StartsGap rest) :
    tokenAt? allowed (text.toList ++ rest) = some (.operator, text.toList.length) := by
  have noArrow : arrowLength? (text.toList ++ rest) = none := by
    rcases starts with ⟨stop, after, rfl, isGap⟩
    have noAngle : stop ≠ '>' := by rintro rfl; exact absurd isGap (by decide)
    simp only [operatorTexts, List.mem_cons, List.not_mem_nil, or_false] at isOperator
    rcases isOperator with
      rfl | rfl | rfl | rfl | rfl | rfl | rfl | rfl | rfl | rfl | rfl | rfl <;>
        simp [arrowLength?, noAngle]
  exact tokenAt?_of_operator isAllowed noArrow
    (operatorLength?_complete isOperator starts)

theorem tokenAt?_punctuation {mark : Punctuation}
    (isAllowed : allowed (.punctuation mark) = true) {rest : List Char}
    (starts : StartsGap rest) :
    tokenAt? allowed (mark.text.toList ++ rest) =
      some (.punctuation mark, mark.text.toList.length) := by
  by_cases isArrow : mark = .arrow
  · subst isArrow
    simp [tokenAt?, Punctuation.text, arrowLength?, isAllowed]
  · have noOperator : operatorLength? (mark.text.toList ++ rest) = none := by
      rcases starts with ⟨stop, after, rfl, isGap⟩
      have noEqual : stop ≠ '=' := by rintro rfl; exact absurd isGap (by decide)
      cases mark <;> first
        | exact absurd rfl isArrow
        | simp [operatorLength?, Punctuation.text, noEqual]
    have single : mark.text.toList.length = 1 := by
      cases mark <;> first | exact absurd rfl isArrow | rfl
    rw [single]
    exact tokenAt?_of_punctuation isAllowed noOperator
      (punctuationAt?_complete isArrow rest)

/-- A lexeme is found whole where it is allowed and white space or a comment follows. -/
theorem tokenAt?_complete {lexeme : Lexeme} (isProper : lexeme.IsProper)
    (isAllowed : allowed lexeme.terminal = true)
    (noKeyword : lexeme.terminal = .name →
      ∀ keyword : Keyword, lexeme.text ≠ keyword.text)
    {rest : List Char} (starts : StartsGap rest) :
    tokenAt? allowed (lexeme.text.toList ++ rest) =
      some (lexeme.terminal, lexeme.text.toList.length) := by
  rcases lexeme with ⟨terminal, text⟩
  cases terminal with
  | endOfText => exact isProper.elim
  | name =>
      have found := wordAt?_name isAllowed isProper (noKeyword rfl) starts
      rcases (show IsName text.toList from isProper) with
        ⟨first, others, textIs, isStart, _⟩
      simp only [textIs, List.cons_append] at found ⊢
      exact tokenAt?_of_word isStart isAllowed found
  | number => exact tokenAt?_of_number isAllowed (numberLength?_complete isProper starts)
  | string => exact tokenAt?_of_string isAllowed (stringLength?_complete isProper rest)
  | operator => exact tokenAt?_operator isAllowed isProper starts
  | keyword keyword =>
      obtain rfl : text = keyword.text := isProper
      have found := wordAt?_keyword isAllowed starts
      rcases keyword_isName keyword with ⟨first, others, textIs, isStart, _⟩
      simp only [textIs, List.cons_append] at found ⊢
      exact tokenAt?_of_word isStart isAllowed found
  | punctuation mark =>
      obtain rfl : text = mark.text := isProper
      exact tokenAt?_punctuation isAllowed starts

end Found

end Scan

end StackLanguage
