import StackLanguage.Program.Elaboration
import StackLanguage.Proofs.Number.DecimalRounding
import StackLanguage.Proofs.Number.PlainForm
import StackLanguage.Proofs.Token.ScanCompleteness
import StackLanguage.Proofs.Token.ScanSoundness
import StackLanguage.Token.Highlight

namespace StackLanguage

/-! Number literals. With its underscores left out, a literal stands for the number that
its digits denote in the base that it is marked with, for the double closest to its
decimal value if it has a point or an exponent, or for nothing. It is shown as a float
exactly when it is read as one. -/

open Numeral (IsDigits IsDigitsIn HasPlaces HasPower denoted digit)
open Terminal (IsNumber IsMarked IsDecimal)

namespace NumberLiteral

inductive Marks : (mark : Char) → (base : Nat) → Prop
  | hexadecimal : Marks 'x' 16
  | binary : Marks 'b' 2

/-- The value that a number literal without underscores stands for. -/
inductive Denotes : (text : List Char) → Value → Prop
  | marked {mark base digits} (marks : Marks mark base)
      (isDigits : IsDigitsIn base digits) :
      Denotes ('0' :: mark :: digits) (.int (denoted base digits))
  | decimal {digits} (isDigits : IsDigits digits) (short : digits.length ≤ 4300) :
      Denotes digits (.int (denoted 10 digits))
  | float {whole fraction places exponent power double} (isWhole : IsDigits whole)
      (hasPlaces : HasPlaces fraction places) (hasPower : HasPower exponent power)
      (isFloat : fraction ≠ [] ∨ exponent ≠ [])
      (isNearest : Double.IsNearest
        ((denoted 10 whole + denoted 10 places / 10 ^ places.length) * 10 ^ power) double)
      (noMinus : double ≠ Double.zero true) :
      Denotes (whole ++ (fraction ++ exponent)) (.float double)

inductive IsMalformed : (text : List Char) → Prop
  | marked {mark base} (marks : Marks mark base) : IsMalformed ['0', mark]
  | decimal {digits} (isDigits : IsDigits digits) (long : 4300 < digits.length) :
      IsMalformed digits

def withoutUnderscores (text : List Char) : List Char := text.filter (· ≠ '_')

/-! ## The parts of a literal -/

theorem digit_lt_of_isHexPart {character : Char}
    (isPart : Scan.isHexPart character = true) (notUnderscore : character ≠ '_') :
    digit character < 16 := by
  simp only [Scan.isHexPart, Scan.isDigitPart, Bool.or_eq_true, Bool.and_eq_true,
    decide_eq_true_eq, notUnderscore, or_false, Char.le_def,
    UInt32.le_iff_toNat_le] at isPart
  rcases isPart with (isDigit | ⟨atLeast, atMost⟩) | ⟨atLeast, atMost⟩
  · exact (Numeral.digit_lt_of_isDigit isDigit).trans_le (by decide)
  · refine @Numeral.of_code (digit · < 16) 97 102 (fun code atLeast atMost => ?_) _
      atLeast atMost
    interval_cases code <;> decide
  · refine @Numeral.of_code (digit · < 16) 65 70 (fun code atLeast atMost => ?_) _
      atLeast atMost
    interval_cases code <;> decide

theorem digit_lt_of_isBinaryPart {character : Char}
    (isPart : Scan.isBinaryPart character = true) (notUnderscore : character ≠ '_') :
    digit character < 2 := by
  simp only [Scan.isBinaryPart, Bool.or_eq_true, decide_eq_true_eq, notUnderscore,
    or_false] at isPart
  rcases isPart with rfl | rfl <;> decide

theorem isDigit_of_isDigitPart {character : Char}
    (isPart : Scan.isDigitPart character = true) (notUnderscore : character ≠ '_') :
    character.isDigit = true := by
  simpa [Scan.isDigitPart, notUnderscore] using isPart

section Parts

variable {raw text : List Char}

theorem withoutUnderscores_append (front back : List Char) :
    withoutUnderscores (front ++ back) =
      withoutUnderscores front ++ withoutUnderscores back :=
  List.filter_append ..

theorem withoutUnderscores_eq_self (noUnderscore : ∀ character ∈ text, character ≠ '_') :
    withoutUnderscores text = text :=
  List.filter_eq_self.mpr fun character isMember => by
    simpa using noUnderscore character isMember

theorem forall_withoutUnderscores {isPart : Char → Bool} {property : Char → Prop}
    (parts : ∀ character ∈ text, isPart character = true)
    (known : ∀ character,
      isPart character = true → character ≠ '_' → property character) :
    ∀ character ∈ withoutUnderscores text, property character := by
  intro character isMember
  obtain ⟨isMember, notUnderscore⟩ := List.mem_filter.mp isMember
  exact known character (parts character isMember) (by simpa using notUnderscore)

theorem marked_parts {mark : Char} {isPart : Char → Bool} {base : Nat}
    (isMarked : IsMarked mark isPart raw) (marks : Marks mark base)
    (known : ∀ character,
      isPart character = true → character ≠ '_' → digit character < base) :
    ['0', mark] <+: raw ∧ ∃ digits, withoutUnderscores raw = '0' :: mark :: digits ∧
      (digits = [] ∨ IsDigitsIn base digits) := by
  obtain ⟨digits, rfl, -, parts⟩ := isMarked
  refine ⟨⟨digits, rfl⟩, withoutUnderscores digits, ?_,
    or_iff_not_imp_left.mpr fun notEmpty =>
      ⟨notEmpty, forall_withoutUnderscores parts known⟩⟩
  cases marks <;> rfl

theorem fraction_parts {fraction : List Char}
    (isFraction : Terminal.IsFraction fraction) :
    ∃ places, HasPlaces (withoutUnderscores fraction) places := by
  rcases isFraction with rfl | ⟨digits, rfl, parts⟩
  · exact ⟨[], .none⟩
  · have isPoint : withoutUnderscores ('.' :: digits) =
        '.' :: withoutUnderscores digits := rfl
    rw [isPoint]
    exact ⟨_, .point (forall_withoutUnderscores parts fun _ => isDigit_of_isDigitPart)⟩

theorem exponent_parts {exponent : List Char}
    (isExponent : Terminal.IsExponent exponent) :
    ∃ power, HasPower (withoutUnderscores exponent) power := by
  rcases isExponent with
    rfl | ⟨letter, sign, digits, rfl, isLetter, isSign, notEmpty, parts⟩
  · exact ⟨0, .none⟩
  · have isDigits : IsDigits digits := ⟨notEmpty, parts⟩
    have kept : withoutUnderscores (letter :: (sign ++ digits)) =
        letter :: (sign ++ digits) := by
      apply withoutUnderscores_eq_self
      refine List.forall_mem_cons.mpr ⟨?_, List.forall_mem_append.mpr
        ⟨?_, Numeral.noUnderscore isDigits.isPlain⟩⟩
      · rcases isLetter with rfl | rfl <;> decide
      · rcases isSign with rfl | rfl | rfl <;> simp
    rw [kept]
    rcases isSign with rfl | rfl | rfl
    · exact ⟨_, .unsigned isLetter isDigits⟩
    · exact ⟨_, .plus isLetter isDigits⟩
    · exact ⟨_, .minus isLetter isDigits⟩

theorem decimal_parts (isDecimal : IsDecimal raw) :
    ∃ whole fraction places exponent power, IsDigits whole ∧ HasPlaces fraction places ∧
      HasPower exponent power ∧
      withoutUnderscores raw = whole ++ (fraction ++ exponent) := by
  obtain ⟨first, whole, fraction, exponent, rfl, isDigit, parts, isFraction,
      isExponent⟩ :=
    isDecimal
  obtain ⟨places, hasPlaces⟩ := fraction_parts isFraction
  obtain ⟨power, hasPower⟩ := exponent_parts isExponent
  have isPart : Scan.isDigitPart first = true := by simp [Scan.isDigitPart, isDigit]
  have notUnderscore : first ≠ '_' := by
    rintro rfl
    cases isDigit
  refine ⟨withoutUnderscores (first :: whole), _, places, _, power, ⟨?_, ?_⟩, hasPlaces,
    hasPower, ?_⟩
  · exact List.ne_nil_of_mem
      (List.mem_filter.mpr ⟨List.mem_cons_self, by simpa using notUnderscore⟩)
  · exact forall_withoutUnderscores (List.forall_mem_cons.mpr ⟨isPart, parts⟩)
      fun _ => isDigit_of_isDigitPart
  · rw [withoutUnderscores_append, withoutUnderscores_append, List.append_assoc]

theorem isNumber_cases (isNumber : IsNumber raw) :
    (∃ mark base, Marks mark base ∧ ['0', mark] <+: raw ∧
      ∃ digits, withoutUnderscores raw = '0' :: mark :: digits ∧
        (digits = [] ∨ IsDigitsIn base digits)) ∨ IsDecimal raw := by
  rcases isNumber with isMarked | isMarked | isDecimal
  · have parts := marked_parts isMarked .hexadecimal fun _ => digit_lt_of_isHexPart
    exact .inl ⟨_, _, .hexadecimal, parts⟩
  · have parts := marked_parts isMarked .binary fun _ => digit_lt_of_isBinaryPart
    exact .inl ⟨_, _, .binary, parts⟩
  · exact .inr isDecimal

theorem Marks.ne_decimal {mark : Char} {base : Nat} (marks : Marks mark base)
    (isDecimal : IsDecimal text) (rest : List Char) : text ≠ '0' :: mark :: rest := by
  have other : mark ∉ ['.', 'e', 'E'] ++ Scan.gapStarts ∧
      Scan.isDigitPart mark = false := by
    cases marks <;> decide
  rintro rfl
  exact Scan.not_starts_with_mark other.1 other.2 isDecimal ⟨'\n', [], rfl, by decide⟩
    (rest ++ ['\n']) rfl

end Parts

/-! ## Reading -/

section Reading

variable {raw digits whole fraction places exponent : List Char} {power : ℤ}

theorem integer_digits {base : Nat} (small : base ≤ 16)
    (isDigits : IsDigitsIn base digits) :
    (Numeral.integer (.fixed base) digits).toOption.map .int =
      if base = 10 ∧ 4300 < digits.length then none
      else some (Value.int (denoted base digits)) := by
  have isInteger : Numeral.integer (.fixed base) digits = _ :=
    Numeral.integer_eq small isDigits false
  rw [isInteger, show Numeral.digitLimit = 4300 from rfl]
  split <;> rfl

theorem numberValue?_marked {mark : Char} {base : Nat} (marks : Marks mark base)
    (isText : withoutUnderscores raw = '0' :: mark :: digits) :
    Elaboration.numberValue? raw =
      (Numeral.integer (.fixed base) digits).toOption.map .int := by
  unfold withoutUnderscores at isText
  cases marks <;> simp only [Elaboration.numberValue?, isText]

theorem numberValue?_decimal (isDecimal : IsDecimal (withoutUnderscores raw)) :
    Elaboration.numberValue? raw =
      if (withoutUnderscores raw).any ['.', 'e', 'E'].contains then
        (Numeral.double? (withoutUnderscores raw)).map .float
      else (Numeral.integer (.fixed 10) (withoutUnderscores raw)).toOption.map .int := by
  unfold withoutUnderscores at isDecimal ⊢
  unfold Elaboration.numberValue?
  dsimp only
  split
  · next isMarked => exact absurd isMarked (Marks.hexadecimal.ne_decimal isDecimal _)
  · next isMarked => exact absurd isMarked (Marks.binary.ne_decimal isDecimal _)
  · rfl

section Parts

variable (isWhole : IsDigits whole) (hasPlaces : HasPlaces fraction places)
  (hasPower : HasPower exponent power)

include isWhole hasPlaces hasPower

theorem isDecimal_parts : IsDecimal (whole ++ (fraction ++ exponent)) := by
  have isPart {character : Char} (isDigit : character.isDigit = true) :
      Scan.isDigitPart character = true := by simp [Scan.isDigitPart, isDigit]
  obtain ⟨first, rest, rfl⟩ := List.exists_cons_of_ne_nil isWhole.notEmpty
  obtain ⟨isDigit, others⟩ := List.forall_mem_cons.mp isWhole.digits
  refine ⟨first, rest, fraction, exponent, (List.append_assoc ..).symm, isDigit,
    fun character isMember => isPart (others character isMember), ?_, ?_⟩
  · cases hasPlaces with
    | none => exact .inl rfl
    | point digits =>
        exact .inr ⟨_, rfl, fun character isMember => isPart (digits character isMember)⟩
  · cases hasPower with
    | none => exact .inl rfl
    | unsigned isLetter isDigits =>
        exact .inr ⟨_, [], _, rfl, isLetter, .inl rfl, isDigits.notEmpty, isDigits.digits⟩
    | plus isLetter isDigits =>
        exact .inr ⟨_, ['+'], _, rfl, isLetter, .inr (.inl rfl), isDigits.notEmpty,
          isDigits.digits⟩
    | minus isLetter isDigits =>
        exact .inr ⟨_, ['-'], _, rfl, isLetter, .inr (.inr rfl), isDigits.notEmpty,
          isDigits.digits⟩

theorem any_parts :
    (whole ++ (fraction ++ exponent)).any ['.', 'e', 'E'].contains = true ↔
      fraction ≠ [] ∨ exponent ≠ [] := by
  have noMark : whole.any ['.', 'e', 'E'].contains = false := by
    rw [List.any_eq_false]
    intro character isMember isMark
    have isDigit := isWhole.digits character isMember
    simp only [List.contains_iff_mem, List.mem_cons, List.not_mem_nil, or_false] at isMark
    rcases isMark with rfl | rfl | rfl <;> cases isDigit
  rw [List.any_append, noMark, Bool.false_or, List.any_append, Bool.or_eq_true]
  refine or_congr ?_ ?_
  · cases hasPlaces <;> simp
  · cases hasPower with
    | none => simp
    | unsigned isLetter | plus isLetter | minus isLetter =>
        rcases isLetter with rfl | rfl <;> simp

theorem numberValue?_float
    (isText : withoutUnderscores raw = whole ++ (fraction ++ exponent))
    (isFloat : fraction ≠ [] ∨ exponent ≠ []) :
    Elaboration.numberValue? raw =
      some (.float (Decimal.toDouble false
        ⟨denoted 10 (whole ++ places), power - places.length⟩)) := by
  have isDecimal := isDecimal_parts isWhole hasPlaces hasPower
  have isMarked := (any_parts isWhole hasPlaces hasPower).mpr isFloat
  have isRead : Numeral.double? (whole ++ (fraction ++ exponent)) = _ :=
    Numeral.double?_parts isWhole hasPlaces hasPower false
  rw [← isText] at isDecimal
  rw [numberValue?_decimal isDecimal, isText, if_pos isMarked, isRead,
    Numeral.value_parts isWhole hasPlaces, Option.map_some]

end Parts

theorem numberValue?_digits (isText : withoutUnderscores raw = digits)
    (isDigits : IsDigits digits) :
    Elaboration.numberValue? raw =
      if 4300 < digits.length then none else some (.int (denoted 10 digits)) := by
  have isDecimal : IsDecimal digits := by simpa using isDecimal_parts isDigits .none .none
  have noMark : ¬ digits.any ['.', 'e', 'E'].contains = true := by
    simpa using (any_parts isDigits .none .none).not
  rw [← isText] at isDecimal
  rw [numberValue?_decimal isDecimal, isText, if_neg noMark,
    integer_digits (by decide) isDigits.inTen]
  simp only [true_and]

theorem number_parts (whole places : List Char) (power : ℤ) :
    Decimal.number ⟨denoted 10 (whole ++ places), power - places.length⟩ =
      (denoted 10 whole + denoted 10 places / 10 ^ places.length) * 10 ^ power := by
  have ten : (10 : ℚ) ≠ 0 := by norm_num
  rw [Decimal.number, Numeral.denoted_append, zpow_sub₀ ten, zpow_natCast]
  push_cast
  field_simp

theorem toDouble_parts (whole places : List Char) (power : ℤ) :
    Double.IsNearest
      ((denoted 10 whole + denoted 10 places / 10 ^ places.length) * 10 ^ power)
      (Decimal.toDouble false ⟨denoted 10 (whole ++ places), power - places.length⟩) := by
  have isNearest := Decimal.toDouble_isNearest false
    ⟨denoted 10 (whole ++ places), power - places.length⟩
  rwa [number_parts, Double.signFactor, if_neg Bool.false_ne_true, one_mul] at isNearest

theorem Denotes.isRead {value : Value}
    (denotes : Denotes (withoutUnderscores raw) value) :
    Elaboration.numberValue? raw = some value := by
  generalize isText : withoutUnderscores raw = text at denotes
  cases denotes with
  | marked marks isDigits =>
      rw [numberValue?_marked marks isText]
      cases marks with
      | hexadecimal =>
          rw [integer_digits (by decide) isDigits,
            if_neg fun both => absurd both.1 (by decide)]
      | binary =>
          rw [integer_digits (by decide) isDigits,
            if_neg fun both => absurd both.1 (by decide)]
  | decimal isDigits short =>
      rw [numberValue?_digits isText isDigits, if_neg (Nat.not_lt.mpr short)]
  | @float whole _ places _ power _ isWhole hasPlaces hasPower isFloat isNearest
    noMinus =>
      have isRead := numberValue?_float isWhole hasPlaces hasPower isText isFloat
      have same := (toDouble_parts whole places power).eq_of_ne_zero isNearest
        (Decimal.isSigned_toDouble _).ne_zero noMinus
      rw [isRead, same]

theorem IsMalformed.isRefused (isMalformed : IsMalformed (withoutUnderscores raw)) :
    Elaboration.numberValue? raw = none := by
  generalize isText : withoutUnderscores raw = text at isMalformed
  cases isMalformed with
  | marked marks =>
      rw [numberValue?_marked marks isText]
      cases marks <;> rfl
  | decimal isDigits long => rw [numberValue?_digits isText isDigits, if_pos long]

theorem denotes_or_isMalformed (isNumber : IsNumber raw) :
    (∃ value, Denotes (withoutUnderscores raw) value) ∨
      IsMalformed (withoutUnderscores raw) := by
  rcases isNumber_cases isNumber with
    ⟨mark, base, marks, -, digits, isText, rfl | isDigits⟩ | isDecimal
  · rw [isText]
    exact .inr (.marked marks)
  · rw [isText]
    exact .inl ⟨_, .marked marks isDigits⟩
  · obtain ⟨whole, fraction, places, exponent, power, isWhole, hasPlaces, hasPower,
        isText⟩ :=
      decimal_parts isDecimal
    rw [isText]
    by_cases isFloat : fraction ≠ [] ∨ exponent ≠ []
    · exact .inl ⟨_, .float isWhole hasPlaces hasPower isFloat
        (toDouble_parts whole places power) (Decimal.isSigned_toDouble _).ne_zero⟩
    · obtain ⟨rfl, rfl⟩ : fraction = [] ∧ exponent = [] := by simpa using isFloat
      rw [List.append_nil, List.append_nil]
      rcases Nat.lt_or_ge 4300 whole.length with long | short
      · exact .inr (.decimal isWhole long)
      · exact .inl ⟨_, .decimal isWhole short⟩

theorem numberValue?_eq_some_iff (isNumber : IsNumber raw) {value : Value} :
    Elaboration.numberValue? raw = some value ↔
      Denotes (withoutUnderscores raw) value := by
  refine ⟨fun isRead => ?_, Denotes.isRead⟩
  rcases denotes_or_isMalformed isNumber with ⟨other, denotes⟩ | isMalformed
  · cases denotes.isRead.symm.trans isRead
    exact denotes
  · cases isMalformed.isRefused.symm.trans isRead

theorem numberValue?_eq_none_iff (isNumber : IsNumber raw) :
    Elaboration.numberValue? raw = none ↔ IsMalformed (withoutUnderscores raw) := by
  refine ⟨fun isRefused => ?_, IsMalformed.isRefused⟩
  rcases denotes_or_isMalformed isNumber with ⟨value, denotes⟩ | isMalformed
  · cases denotes.isRead.symm.trans isRefused
  · exact isMalformed

/-! ## Highlighting -/

theorem Marks.ofNumber {mark : Char} {base : Nat} (marks : Marks mark base)
    (isMarked : ['0', mark] <+: raw) : HighlightGroup.ofNumber raw = .number := by
  obtain ⟨digits, rfl⟩ := isMarked
  cases marks <;> simp [HighlightGroup.ofNumber]

theorem Marks.isPrefixOf_decimal {mark : Char} {base : Nat} (marks : Marks mark base)
    (isDecimal : IsDecimal raw) : ['0', mark].isPrefixOf raw = false := by
  rw [Bool.eq_false_iff, ne_eq, List.isPrefixOf_iff_prefix]
  rintro ⟨rest, isMarked⟩
  exact marks.ne_decimal isDecimal rest isMarked.symm

theorem ofNumber_decimal (isDecimal : IsDecimal raw) :
    HighlightGroup.ofNumber raw =
      if (withoutUnderscores raw).any ['.', 'e', 'E'].contains then .float
      else .number := by
  have same : (withoutUnderscores raw).any ['.', 'e', 'E'].contains =
      raw.any ['.', 'e', 'E'].contains := by
    rw [withoutUnderscores, List.any_filter]
    congr 1
    funext character
    rcases eq_or_ne character '_' with rfl | notUnderscore
    · rfl
    · simp [notUnderscore]
  rw [same, HighlightGroup.ofNumber, Marks.hexadecimal.isPrefixOf_decimal isDecimal,
    Marks.binary.isPrefixOf_decimal isDecimal]
  rfl

theorem ofNumber_eq_float_iff (isNumber : IsNumber raw) :
    HighlightGroup.ofNumber raw = .float ↔
      ∃ double, Elaboration.numberValue? raw = some (.float double) := by
  have noDouble (read : Option Int) : ¬ ∃ double,
      read.map Value.int = some (.float double) := by
    rintro ⟨double, same⟩
    cases read <;> cases same
  rcases isNumber_cases isNumber with
    ⟨mark, base, marks, isMarked, digits, isText, -⟩ | isDecimal
  · rw [marks.ofNumber isMarked, numberValue?_marked marks isText]
    exact iff_of_false (by decide) (noDouble _)
  · obtain ⟨whole, fraction, places, exponent, power, isWhole, hasPlaces, hasPower,
        isText⟩ :=
      decimal_parts isDecimal
    have isDecimalText := isDecimal_parts isWhole hasPlaces hasPower
    rw [← isText] at isDecimalText
    rw [ofNumber_decimal isDecimal]
    by_cases isMarked : (withoutUnderscores raw).any ['.', 'e', 'E'].contains = true
    · have isFloat := isMarked
      rw [isText, any_parts isWhole hasPlaces hasPower] at isFloat
      rw [if_pos isMarked]
      exact iff_of_true rfl
        ⟨_, numberValue?_float isWhole hasPlaces hasPower isText isFloat⟩
    · rw [if_neg isMarked, numberValue?_decimal isDecimalText, if_neg isMarked]
      exact iff_of_false (by decide) (noDouble _)

end Reading

/-! ## Literals of a program -/

section Spelling

variable {file : String} {spelling : Spelling}

theorem literalValue_eq_ok_iff {value : Value} :
    Elaboration.literalValue file (.number spelling) = .ok value ↔
      Elaboration.numberValue? spelling.text.toList = some value := by
  cases isRead : Elaboration.numberValue? spelling.text.toList <;>
    simp [Elaboration.literalValue, Elaboration.locate, Elaboration.numberValue, isRead]

theorem literalValue_eq_error_iff {failure : SourceFailure} :
    Elaboration.literalValue file (.number spelling) = .error failure ↔
      failure = .error ⟨.malformedNumber spelling.text, ⟨file, spelling.position⟩⟩ ∧
        Elaboration.numberValue? spelling.text.toList = none := by
  cases isRead : Elaboration.numberValue? spelling.text.toList <;>
    simp [Elaboration.literalValue, Elaboration.locate, Elaboration.numberValue, isRead,
      Literal.position, eq_comm]

end Spelling

/-- A number literal is read as what it stands for. It is refused, at its place, exactly
when it stands for nothing: where no digit follows the mark of its base, or where it has
too many decimal digits for an integer. It is shown as a float exactly when it is read as
one. -/
theorem literalValue_denoted (file : String) {spelling : Spelling}
    (isNumber : IsNumber spelling.text.toList) :
    (∀ value, Elaboration.literalValue file (.number spelling) = .ok value ↔
        Denotes (withoutUnderscores spelling.text.toList) value) ∧
      (∀ failure, Elaboration.literalValue file (.number spelling) = .error failure ↔
        failure = .error ⟨.malformedNumber spelling.text, ⟨file, spelling.position⟩⟩ ∧
          IsMalformed (withoutUnderscores spelling.text.toList)) ∧
      (HighlightGroup.ofToken .number spelling.text.toList = .float ↔
        ∃ double,
          Elaboration.literalValue file (.number spelling) = .ok (.float double)) := by
  refine ⟨fun value => ?_, fun failure => ?_, ?_⟩
  · rw [literalValue_eq_ok_iff, numberValue?_eq_some_iff isNumber]
  · rw [literalValue_eq_error_iff, numberValue?_eq_none_iff isNumber]
  · simp only [literalValue_eq_ok_iff]
    exact ofNumber_eq_float_iff isNumber

theorem literalValue_denoted_kinds :
    IsNumber "0x_1E".toList ∧
      Elaboration.literalValue "a" (.number ⟨"0x_1E", .start⟩) = .ok (.int 30) ∧
      IsNumber "1_2.5e1".toList ∧
      Elaboration.literalValue "a" (.number ⟨"1_2.5e1", .start⟩) = .ok (.float 125) ∧
      HighlightGroup.ofToken .number "1_2.5e1".toList = .float ∧
      IsNumber "0b_".toList ∧
      Elaboration.literalValue "a" (.number ⟨"0b_", .start⟩) =
        .error (.error ⟨.malformedNumber "0b_", ⟨"a", .start⟩⟩) := by
  have isHexadecimal : IsNumber "0x_1E".toList :=
    @Scan.numberLength?_sound "0x_1E".toList 5 (by decide)
  have isFloat : IsNumber "1_2.5e1".toList :=
    @Scan.numberLength?_sound "1_2.5e1".toList 7 (by decide)
  have isBinary : IsNumber "0b_".toList :=
    @Scan.numberLength?_sound "0b_".toList 3 (by decide)
  have hexadecimal := @literalValue_denoted "a" ⟨"0x_1E", .start⟩ isHexadecimal
  have float := @literalValue_denoted "a" ⟨"1_2.5e1", .start⟩ isFloat
  have binary := @literalValue_denoted "a" ⟨"0b_", .start⟩ isBinary
  have someDigits : IsDigitsIn 16 ['1', 'E'] := ⟨List.cons_ne_nil _ _,
    List.forall_mem_cons.mpr ⟨by decide, List.forall_mem_singleton.mpr (by decide)⟩⟩
  have isDigits (first : Char) (rest : List Char)
      (digits : (first :: rest).all Char.isDigit = true) : IsDigits (first :: rest) :=
    ⟨List.cons_ne_nil _ _, List.all_eq_true.mp digits⟩
  have isDouble : Decimal.toDouble false
      ⟨denoted 10 (['1', '2'] ++ ['5']), denoted 10 ['1'] - (['5'].length : Nat)⟩ =
      125 := by
    decide +kernel
  have isNearest := toDouble_parts ['1', '2'] ['5'] (denoted 10 ['1'])
  have noMinus := (Decimal.isSigned_toDouble
    ⟨denoted 10 (['1', '2'] ++ ['5']), denoted 10 ['1'] - (['5'].length : Nat)⟩).ne_zero
  rw [isDouble] at isNearest noMinus
  have isRead := (float.1 _).mpr (.float (isDigits '1' ['2'] (by decide))
    (.point (isDigits '5' [] (by decide)).digits)
    (.unsigned (.inl rfl) (isDigits '1' [] (by decide))) (.inl (List.cons_ne_nil _ _))
    isNearest noMinus)
  exact ⟨isHexadecimal, (hexadecimal.1 _).mpr (.marked .hexadecimal someDigits), isFloat,
    isRead, float.2.2.mpr ⟨_, isRead⟩, isBinary,
    (binary.2.1 _).mpr ⟨rfl, .marked .binary⟩⟩

end NumberLiteral

end StackLanguage
