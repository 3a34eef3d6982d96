import StackLanguage.Proofs.Number.Digits

namespace StackLanguage

/-! Numbers in their plain form: a minus sign or none, digits, and a point with more
digits or none. Nothing of a plain number is dropped or replaced before it is read, and
its digits are the decimal that it is read as. The same holds of numbers with an exponent
and of integers in other bases. -/

theorem trimEnds_eq_self {isDropped : Char → Bool} {characters : List Char}
    (kept : ∀ character ∈ characters, isDropped character = false) :
    trimEnds isDropped characters = characters := by
  have stays (rest : List Char) (kept : ∀ character ∈ rest, isDropped character = false) :
      rest.dropWhile isDropped = rest := by
    cases rest with
    | nil => rfl
    | cons first rest =>
        exact List.dropWhile_cons_of_neg (by simp [kept first List.mem_cons_self])
  unfold trimEnds
  rw [stays characters kept, stays, List.reverse_reverse]
  intro character isMember
  exact kept character (List.mem_reverse.mp isMember)

namespace Numeral

def plainCharacters : List Char := ['-', '+', '.'] ++ (smallDigits ++ largeDigits)

def signText (negative : Bool) : List Char := if negative then ['-'] else []

def IsPlainNumber (text : List Char) : Prop :=
  ∃ negative whole, IsDigits whole ∧
    (text = signText negative ++ whole ∨
      ∃ places, IsDigits places ∧ text = signText negative ++ (whole ++ '.' :: places))

/-! ## Characters -/

theorem mem_plainCharacters_of_digit_lt {character : Char}
    (isDigit : digit character < 16) : character ∈ plainCharacters :=
  List.mem_append_right _ (mem_digits_of_digit_lt isDigit)

def IsPlain (text : List Char) : Prop := ∀ character ∈ text, character ∈ plainCharacters

section IsPlain

variable {text : List Char} (isPlain : IsPlain text)

include isPlain

theorem forall_of_plain {property : Char → Bool}
    (known : plainCharacters.all property = true) :
    ∀ character ∈ text, property character = true := fun character isMember =>
  List.all_eq_true.mp known character (isPlain character isMember)

theorem trimBlanks_eq_self : trimBlanks text = text := by
  have noBlank := @forall_of_plain text isPlain (!isBlank ·) (by decide)
  exact trimEnds_eq_self fun character isMember => by
    simpa using noBlank character isMember

theorem core_eq_self : core text = text := by
  have same :=
    @forall_of_plain text isPlain (fun character => plain character = character)
      (by decide)
  have noSpace := @forall_of_plain text isPlain (!isSpace ·) (by decide)
  have mapped : text.map plain = text :=
    (List.map_congr_left fun character isMember => by
      simpa using same character isMember).trans
        (List.map_id' text)
  unfold core
  rw [mapped]
  exact trimEnds_eq_self fun character isMember => by
    simpa using noSpace character isMember

theorem noUnderscore : ∀ character ∈ text, character ≠ '_' := by
  have noUnderscore := @forall_of_plain text isPlain (· ≠ '_') (by decide)
  exact fun character isMember => by simpa using noUnderscore character isMember

theorem underscoresBetweenDigits_of_plain {previous : Char} (notAfter : previous ≠ '_') :
    underscoresBetweenDigits previous text = true := by
  induction text generalizing previous with
  | nil => simpa [underscoresBetweenDigits] using notAfter
  | cons first rest further =>
      have notFirst := noUnderscore isPlain first List.mem_cons_self
      have others : IsPlain rest := fun character isMember =>
        isPlain character (List.mem_cons_of_mem first isMember)
      simp [underscoresBetweenDigits, notFirst, notAfter, further others notFirst]

end IsPlain

theorem IsDigitsIn.isPlain {base : Nat} {characters : List Char}
    (isDigits : IsDigitsIn base characters) (small : base ≤ 16) : IsPlain characters :=
  fun character isMember =>
    mem_plainCharacters_of_digit_lt (isDigits.digit_lt small character isMember)

theorem IsDigits.isPlain {characters : List Char} (isDigits : IsDigits characters) :
    IsPlain characters := isDigits.inTen.isPlain (by decide)

theorem isPlain_signText_append {text : List Char} (isPlain : IsPlain text)
    (negative : Bool) : IsPlain (signText negative ++ text) := by
  cases negative with
  | false => exact isPlain
  | true => exact List.forall_mem_cons.mpr ⟨by decide, isPlain⟩

theorem splitSign_eq_self {text : List Char}
    (noSign : ∀ first ∈ text.head?, digit first < 16) :
    splitSign text = (false, text) := by
  unfold splitSign
  split
  · exact absurd (noSign '-' rfl) (by decide)
  · exact absurd (noSign '+' rfl) (by decide)
  · rfl

theorem splitSign_signText_append {text : List Char}
    (noSign : ∀ first ∈ text.head?, digit first < 16) (negative : Bool) :
    splitSign (signText negative ++ text) = (negative, text) := by
  cases negative with
  | true => rfl
  | false => exact splitSign_eq_self noSign

theorem IsDigitsIn.noSign {base : Nat} {characters : List Char}
    (isDigits : IsDigitsIn base characters) (small : base ≤ 16) :
    ∀ first ∈ characters.head?, digit first < 16 := fun first isFirst =>
  isDigits.digit_lt small first (List.mem_of_mem_head? isFirst)

/-! ## Decimals -/

inductive HasPlaces : (text places : List Char) → Prop
  | none : HasPlaces [] []
  | point {places} (digits : ∀ character ∈ places, character.isDigit = true) :
      HasPlaces ('.' :: places) places

inductive HasPower : (text : List Char) → (power : ℤ) → Prop
  | none : HasPower [] 0
  | unsigned {letter digits} (isLetter : letter = 'e' ∨ letter = 'E')
      (isDigits : IsDigits digits) : HasPower (letter :: digits) (denoted 10 digits)
  | plus {letter digits} (isLetter : letter = 'e' ∨ letter = 'E')
      (isDigits : IsDigits digits) :
      HasPower (letter :: '+' :: digits) (denoted 10 digits)
  | minus {letter digits} (isLetter : letter = 'e' ∨ letter = 'E')
      (isDigits : IsDigits digits) :
      HasPower (letter :: '-' :: digits) (-(denoted 10 digits : ℤ))

section Digits

variable {whole places fraction exponent : List Char} {power : ℤ}

theorem HasPlaces.digit_lt (hasPlaces : HasPlaces fraction places) :
    ∀ character ∈ places, digit character < 16 := by
  cases hasPlaces with
  | none => exact List.forall_mem_nil _
  | point digits =>
      exact fun character isMember =>
        (digit_lt_of_isDigit (digits character isMember)).trans_le (by decide)

theorem HasPlaces.isPlain (hasPlaces : HasPlaces fraction places) : IsPlain fraction := by
  cases hasPlaces with
  | none => exact List.forall_mem_nil _
  | point digits =>
      exact List.forall_mem_cons.mpr ⟨by decide, fun character isMember =>
        mem_plainCharacters_of_digit_lt
          ((HasPlaces.point digits).digit_lt character isMember)⟩

theorem HasPower.isPlain (hasPower : HasPower exponent power) : IsPlain exponent := by
  have isLetter (letter : Char) (isLetter : letter = 'e' ∨ letter = 'E') :
      letter ∈ plainCharacters := by
    rcases isLetter with rfl | rfl <;> decide
  cases hasPower with
  | none => exact List.forall_mem_nil _
  | unsigned isE isDigits =>
      exact List.forall_mem_cons.mpr ⟨isLetter _ isE, isDigits.isPlain⟩
  | plus isE isDigits | minus isE isDigits =>
      exact List.forall_mem_cons.mpr
        ⟨isLetter _ isE, List.forall_mem_cons.mpr ⟨by decide, isDigits.isPlain⟩⟩

theorem isPlain_parts (isWhole : IsDigits whole) (hasPlaces : HasPlaces fraction places)
    (hasPower : HasPower exponent power) : IsPlain (whole ++ (fraction ++ exponent)) :=
  List.forall_mem_append.mpr
    ⟨isWhole.isPlain, List.forall_mem_append.mpr ⟨hasPlaces.isPlain, hasPower.isPlain⟩⟩

theorem isPlain_point (isWhole : IsDigits whole) (isPlaces : IsDigits places) :
    IsPlain (whole ++ '.' :: places) := by
  simpa using isPlain_parts isWhole (.point isPlaces.digits) .none

theorem IsDigits.value_eq (isDigits : IsDigits whole) :
    value 10 whole = Nat.ofDigitChars 10 whole 0 := by
  rw [value, Nat.ofDigitChars_eq_foldl]
  apply List.foldl_ext
  intro total character isMember
  rw [digitValue?_of_isDigit (isDigits.digits character isMember)]
  rfl

theorem IsDigits.append (isWhole : IsDigits whole) (isPlaces : IsDigits places) :
    IsDigits (whole ++ places) where
  notEmpty := List.append_ne_nil_of_left_ne_nil isWhole.notEmpty places
  digits := List.forall_mem_append.mpr ⟨isWhole.digits, isPlaces.digits⟩

theorem isDigits_toDigits (number : Nat) : IsDigits (Nat.toDigits 10 number) where
  notEmpty := Nat.toDigits_ne_nil
  digits _ isMember := Nat.isDigit_of_mem_toDigits (by decide) le_rfl isMember

@[simp] theorem value_toDigits (number : Nat) :
    value 10 (Nat.toDigits 10 number) = number := by
  rw [(isDigits_toDigits number).value_eq, Nat.ofDigitChars_ten_toDigits]

theorem exponent?_of_splitSign {characters : List Char} {negative : Bool}
    (isSplit : splitSign characters = (negative, whole)) (isDigits : IsDigits whole) :
    exponent? characters = some (Double.signed negative (denoted 10 whole)) := by
  have small := isDigits.inTen.digit_lt (by decide)
  unfold exponent?
  rw [isSplit]
  simp only [isDigits.notEmpty, ne_eq, not_false_eq_true, true_and,
    List.all_eq_true.mpr isDigits.digits, if_true, value_eq_denoted small]

theorem HasPower.ends (hasPower : HasPower exponent power) :
    exponent.takeWhile Char.isDigit = [] ∧ exponent.dropWhile Char.isDigit = exponent ∧
      ∀ tail, exponent ≠ '.' :: tail := by
  cases hasPower with
  | none => exact ⟨rfl, rfl, fun _ same => by cases same⟩
  | unsigned isE | plus isE | minus isE =>
      rcases isE with rfl | rfl
      · exact ⟨rfl, rfl, fun _ same => by cases same⟩
      · exact ⟨rfl, rfl, fun _ same => by cases same⟩

theorem HasPower.isRead : HasPower exponent power →
    (match exponent with
      | [] => some 0
      | letter :: tail => if letter = 'e' ∨ letter = 'E' then exponent? tail
      else Option.none) =
      some power := by
  intro hasPower
  cases hasPower with
  | none => rfl
  | unsigned isE isDigits =>
      have isSplit := splitSign_eq_self (isDigits.inTen.noSign (by decide))
      exact (if_pos isE).trans (exponent?_of_splitSign isSplit isDigits)
  | plus isE isDigits | minus isE isDigits =>
      exact (if_pos isE).trans (exponent?_of_splitSign rfl isDigits)

theorem decimal?_parts (isWhole : IsDigits whole) (hasPlaces : HasPlaces fraction places)
    (hasPower : HasPower exponent power) :
    decimal? (whole ++ (fraction ++ exponent)) =
      some ⟨value 10 (whole ++ places), power - places.length⟩ := by
  obtain ⟨taken, dropped, noPoint⟩ := hasPower.ends
  unfold decimal?
  rw [List.takeWhile_append_of_pos isWhole.digits,
    List.dropWhile_append_of_pos isWhole.digits]
  cases hasPlaces with
  | none =>
      simp only [List.nil_append, taken, dropped, List.append_nil, isWhole.notEmpty,
        if_false]
      exact congrArg (Option.map _) hasPower.isRead
  | point digits =>
      have noDigit : ¬ Char.isDigit '.' = true := by decide
      have someDigits : whole ++ places ≠ [] :=
        List.append_ne_nil_of_left_ne_nil isWhole.notEmpty places
      rw [List.cons_append, List.takeWhile_cons_of_neg noDigit,
        List.dropWhile_cons_of_neg noDigit]
      simp only [List.takeWhile_append_of_pos digits, List.dropWhile_append_of_pos digits,
        taken, dropped, List.append_nil, someDigits, if_false]
      exact congrArg (Option.map _) hasPower.isRead

end Digits

/-! ## Reading -/

theorem double?_of_decimal? {first : Char} {rest : List Char} {decimal : Decimal}
    (isDigit : first.isDigit = true) (isPlain : IsPlain (first :: rest))
    (isDecimal : decimal? (first :: rest) = some decimal) (negative : Bool) :
    double? (signText negative ++ first :: rest) = some (decimal.toDouble negative) := by
  have isSigned := isPlain_signText_append isPlain negative
  have isSmall : digit first < 16 := (digit_lt_of_isDigit isDigit).trans_le (by decide)
  have noSign : ∀ character ∈ (first :: rest).head?, digit character < 16 := by
    rintro _ ⟨⟩
    exact isSmall
  have filtered : (signText negative ++ first :: rest).filter (· ≠ '_') =
      signText negative ++ first :: rest :=
    List.filter_eq_self.mpr fun character isMember => by
      simpa using noUnderscore isSigned character isMember
  have same : first.toLower.isDigit = true := by
    have known :=
      @of_digit_lt (fun character => character.isDigit → character.toLower.isDigit)
        (by decide) first isSmall
    simpa [isDigit] using known
  have noWord (word : String) (starts : word.toList.head?.any Char.isDigit = false) :
      String.ofList ((first :: rest).map Char.toLower) ≠ word := by
    rintro rfl
    simp [same] at starts
  unfold double?
  dsimp only
  rw [core_eq_self isSigned, underscoresBetweenDigits_of_plain isSigned (by decide),
    if_pos rfl, filtered, splitSign_signText_append noSign]
  dsimp only
  rw [if_neg (noWord "nan" (by decide)), if_neg, isDecimal]
  · rfl
  · exact not_or.mpr ⟨noWord "inf" (by decide), noWord "infinity" (by decide)⟩

theorem double?_parts {whole fraction places exponent : List Char} {power : ℤ}
    (isWhole : IsDigits whole) (hasPlaces : HasPlaces fraction places)
    (hasPower : HasPower exponent power) (negative : Bool) :
    double? (signText negative ++ (whole ++ (fraction ++ exponent))) =
      some (Decimal.toDouble negative
        ⟨value 10 (whole ++ places), power - places.length⟩) := by
  have isPlain := isPlain_parts isWhole hasPlaces hasPower
  have isDecimal := decimal?_parts isWhole hasPlaces hasPower
  cases whole with
  | nil => exact absurd rfl isWhole.notEmpty
  | cons first rest =>
      exact double?_of_decimal? (isWhole.digits first List.mem_cons_self) isPlain
        isDecimal negative

theorem value_parts {whole fraction places : List Char} (isWhole : IsDigits whole)
    (hasPlaces : HasPlaces fraction places) :
    value 10 (whole ++ places) = denoted 10 (whole ++ places) :=
  value_eq_denoted (List.forall_mem_append.mpr
    ⟨isWhole.inTen.digit_lt (by decide), hasPlaces.digit_lt⟩)

theorem double?_whole {whole : List Char} (isWhole : IsDigits whole) (negative : Bool) :
    double? (signText negative ++ whole) =
      some (Decimal.toDouble negative ⟨value 10 whole, 0⟩) := by
  simpa using double?_parts isWhole .none .none negative

theorem double?_point {whole places : List Char} (isWhole : IsDigits whole)
    (isPlaces : IsDigits places) (negative : Bool) :
    double? (signText negative ++ (whole ++ '.' :: places)) =
      some (Decimal.toDouble negative
        ⟨value 10 (whole ++ places), -(places.length : ℤ)⟩) := by
  simpa using double?_parts isWhole (.point isPlaces.digits) .none negative

/-! ## Integers -/

theorem separated_of_noUnderscore {characters : List Char}
    (noUnderscore : ∀ character ∈ characters, character ≠ '_') :
    separated true characters = true := by
  induction characters with
  | nil => rfl
  | cons first rest further =>
      rw [separated, if_neg (noUnderscore first List.mem_cons_self)]
      exact further fun character isMember =>
        noUnderscore character (List.mem_cons_of_mem first isMember)

theorem markedBase?_ne_of_digit_lt {base : Nat} {letter : Char}
    (isDigit : digit letter < base) : markedBase? letter ≠ some base := by
  rintro isMark
  unfold markedBase? at isMark
  split at isMark
  · next isX =>
      cases isMark
      rcases isX with rfl | rfl <;> exact absurd isDigit (by decide)
  · split at isMark
    · next isO =>
        cases isMark
        rcases isO with rfl | rfl <;> exact absurd isDigit (by decide)
    · split at isMark
      · next isB =>
          cases isMark
          rcases isB with rfl | rfl <;> exact absurd isDigit (by decide)
      · cases isMark

section Integer

variable {base : Nat} {whole : List Char}

theorem unsigned_eq (small : base ≤ 16) (isDigits : IsDigitsIn base whole) :
    unsigned base whole =
      if base = 10 ∧ digitLimit < whole.length then .error (.tooManyDigits whole.length)
      else .ok (denoted base whole) := by
  have isPlain := isDigits.isPlain small
  have others := noUnderscore isPlain
  have taken :
      whole.takeWhile (fun character => character = '_' || isDigitIn base character) =
        whole :=
    List.takeWhile_eq_self_iff.mpr fun character isMember => by
      simp [isDigitIn_of_digit_lt small (isDigits.digits character isMember)]
  have filtered : whole.filter (· ≠ '_') = whole :=
    List.filter_eq_self.mpr fun character isMember => by
      simpa using others character isMember
  have isSeparated : separated false whole = true := by
    cases whole with
    | nil => exact absurd rfl isDigits.notEmpty
    | cons first rest =>
        rw [separated, if_neg (others first List.mem_cons_self)]
        exact separated_of_noUnderscore fun character isMember =>
          others character (List.mem_cons_of_mem first isMember)
  have isValue := @value_eq_denoted base whole (isDigits.digit_lt small)
  unfold unsigned
  dsimp only
  rw [taken, filtered, isSeparated, if_neg (by decide), if_neg (absurd rfl), isValue]

theorem magnitude_eq (isDigits : IsDigitsIn base whole) :
    magnitude (.fixed base) whole = unsigned base whole := by
  unfold magnitude
  split
  · next isBase =>
      cases isBase
      have isDigit := isDigits.digits _ (List.mem_cons_of_mem _ List.mem_cons_self)
      rw [if_neg (markedBase?_ne_of_digit_lt isDigit)]
  · next isMarked => cases isMarked
  · next isBase _ =>
      cases isBase
      rfl
  · next isMarked _ => cases isMarked

theorem integer_eq (small : base ≤ 16) (isDigits : IsDigitsIn base whole)
    (negative : Bool) :
    integer (.fixed base) (signText negative ++ whole) =
      if base = 10 ∧ digitLimit < whole.length then .error (.tooManyDigits whole.length)
      else .ok (Double.signed negative (denoted base whole)) := by
  unfold integer
  rw [core_eq_self (isPlain_signText_append (isDigits.isPlain small) negative),
    splitSign_signText_append (isDigits.noSign small)]
  simp only [magnitude_eq isDigits, unsigned_eq small isDigits]
  split <;> rfl

theorem integer_whole (isWhole : IsDigits whole) (short : whole.length ≤ digitLimit)
    (negative : Bool) :
    integer (.fixed 10) (signText negative ++ whole) =
      .ok (Double.signed negative (value 10 whole)) := by
  have isValue := @value_eq_denoted 10 whole (isWhole.inTen.digit_lt (by decide))
  rw [integer_eq (by decide) isWhole.inTen,
    if_neg fun long => Nat.not_lt.mpr short long.2, isValue]

end Integer

end Numeral

end StackLanguage
