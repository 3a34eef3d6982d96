import StackLanguage.Conversion
import StackLanguage.Proofs.Number.DecimalRounding
import StackLanguage.Proofs.Number.PlainForm
import StackLanguage.Proofs.Operator.Typed

namespace StackLanguage

/-! Printed numbers. What a number is printed as is in plain form, unless it is no finite
number, and is read as that number again, a double bit by bit. -/

namespace Decimal

def placesText (digits places : Nat) : List Char :=
  List.replicate (places - (Nat.toDigits 10 (digits % 10 ^ places)).length) '0' ++
    Nat.toDigits 10 (digits % 10 ^ places)

section Places

variable {digits places : Nat}

theorem isDigits_placesText : Numeral.IsDigits (placesText digits places) where
  notEmpty := List.append_ne_nil_of_right_ne_nil _ Nat.toDigits_ne_nil
  digits := List.forall_mem_append.mpr
    ⟨fun _ isZero => (List.eq_of_mem_replicate isZero) ▸ rfl,
      (Numeral.isDigits_toDigits _).digits⟩

theorem length_placesText (isPlace : 0 < places) :
    (placesText digits places).length = places := by
  have bounded : (Nat.toDigits 10 (digits % 10 ^ places)).length ≤ places :=
    (Nat.length_toDigits_le_iff (by decide) isPlace).mpr (Nat.mod_lt _ (by positivity))
  rw [placesText, List.length_append, List.length_replicate]
  omega

theorem value_placesText (isPlace : 0 < places) :
    Numeral.value 10
      (Nat.toDigits 10 (digits / 10 ^ places) ++ placesText digits places) =
      digits := by
  have whole := Numeral.isDigits_toDigits (digits / 10 ^ places)
  have fraction : Nat.ofDigitChars 10 (placesText digits places) 0 =
      digits % 10 ^ places := by
    rw [placesText, Nat.ofDigitChars_append, Nat.ofDigitChars_replicate_zero, mul_zero,
      Nat.ofDigitChars_ten_toDigits]
  rw [(whole.append isDigits_placesText).value_eq, Nat.ofDigitChars_append,
    Nat.ofDigitChars_eq_ofDigitChars_zero, Nat.ofDigitChars_ten_toDigits, fraction,
    length_placesText isPlace, Nat.div_add_mod]

end Places

theorem toList_pointText (decimal : Decimal) :
    decimal.pointText.toList =
      Nat.toDigits 10 (decimal.digits / 10 ^ (-decimal.exponent).toNat) ++ '.' ::
        placesText decimal.digits (-decimal.exponent).toNat := by
  simp only [pointText, Nat.pow_eq, String.toList_ofList, placesText]

theorem double?_pointText {decimal : Decimal} (isNegative : decimal.exponent < 0)
    (negative : Bool) :
    Numeral.double? (Numeral.signText negative ++ decimal.pointText.toList) =
      some (decimal.toDouble negative) := by
  obtain ⟨digits, exponent⟩ := decimal
  obtain ⟨places, isPlace, rfl⟩ : ∃ places : Nat, 0 < places ∧ exponent = -(places : ℤ) :=
    ⟨exponent.natAbs, Int.natAbs_pos.mpr isNegative.ne,
      (Int.eq_neg_natAbs_of_nonpos isNegative.le)⟩
  rw [toList_pointText,
    Numeral.double?_point (Numeral.isDigits_toDigits _) isDigits_placesText, neg_neg,
    Int.toNat_natCast, value_placesText isPlace, length_placesText isPlace]

end Decimal

namespace Double

theorem toList_signText (negative : Bool) :
    (if negative then "-" else "").toList = Numeral.signText negative := by
  cases negative <;> rfl

section Finite

variable {number : Float} {negative : Bool} {significand : Nat} {exponent : Int}
  (isShape : shape number = .finite negative significand exponent)

include isShape

theorem eq_pack : number = pack negative significand exponent := by
  have same := ofShape_shape number
  rw [isShape] at same
  exact same.symm

theorem toList_text_whole (isWhole : significand % 2 ^ (-exponent).toNat = 0) :
    ∃ whole : Nat, (whole : ℚ) = significand * 2 ^ exponent ∧
      (text number).toList = Numeral.signText negative ++ Nat.toDigits 10 whole := by
  refine ⟨significand * 2 ^ exponent.toNat / 2 ^ (-exponent).toNat, ?_, ?_⟩
  · have divides : 2 ^ (-exponent).toNat ∣ significand * 2 ^ exponent.toNat :=
      (Nat.dvd_of_mod_eq_zero isWhole).mul_right _
    rw [Nat.cast_div divides (by positivity), zpow_eq_div, mul_div_assoc']
    push_cast
    rfl
  · simp only [text, isShape, Nat.pow_eq, isWhole, if_true, String.toList_append,
      toList_signText, Nat.toString_eq_ofList_toDigits, String.toList_ofList]

theorem toList_text_fraction (isFraction : significand % 2 ^ (-exponent).toNat ≠ 0) :
    ∃ decimal : Decimal, decimal.exponent < 0 ∧ decimal.toDouble negative = number ∧
      (text number).toList = Numeral.signText negative ++ decimal.pointText.toList := by
  have isPositive : (-exponent).toNat ≠ 0 := by
    intro isZero
    rw [isZero, pow_zero, Nat.mod_one] at isFraction
    exact isFraction rfl
  obtain ⟨scale, isScale, rfl⟩ : ∃ scale : Nat, 0 < scale ∧ exponent = -(scale : ℤ) :=
    ⟨(-exponent).toNat, Nat.pos_of_ne_zero isPositive, by omega⟩
  rw [neg_neg, Int.toNat_natCast] at isFraction
  have notZero : significand ≠ 0 := by
    rintro rfl
    exact isFraction (Nat.zero_mod _)
  refine ⟨Decimal.fewestDigits significand scale scale (-1),
    Decimal.fewestDigits_exponent_neg isScale scale (by decide), ?_, ?_⟩
  · rw [Decimal.fewestDigits_toDouble (isRegular_of_shape isShape) notZero,
      ← eq_pack isShape]
  · simp only [text, isShape, Nat.pow_eq, neg_neg, Int.toNat_natCast, isFraction,
      if_false, String.toList_append, toList_signText]

end Finite

theorem toDouble_whole {number : Float} {negative : Bool} {significand whole : Nat}
    {exponent : Int} (isShape : shape number = .finite negative significand exponent)
    (same : (whole : ℚ) = significand * 2 ^ exponent) :
    Decimal.toDouble negative ⟨whole, 0⟩ = number := by
  have regular := isRegular_of_shape isShape
  rcases eq_or_ne significand 0 with rfl | notZero
  -- Both zeros are the same number, so the sign has to be followed through the bits.
  · have isLeast : exponent = -1074 := regular.full.resolve_left (by decide)
    have isZero : whole = 0 := by
      rw [Nat.cast_zero, zero_mul] at same
      exact_mod_cast same
    rw [eq_pack isShape, isZero, isLeast]
    rfl
  · rw [Decimal.toDouble_eq_pack regular notZero _ negative, ← eq_pack isShape]
    rw [Decimal.number, zpow_zero, mul_one, same]

theorem double?_text (number : Float) :
    Numeral.double? (text number).toList = some number := by
  have again := ofShape_shape number
  rcases isShape : shape number with _ | negative | ⟨negative, significand, exponent⟩
  · rw [isShape] at again
    subst again
    rw [text, isShape]
    rfl
  · rw [isShape] at again
    subst again
    rw [text, isShape]
    cases negative <;> rfl
  · by_cases isWhole : significand % 2 ^ (-exponent).toNat = 0
    · obtain ⟨whole, same, isText⟩ := toList_text_whole isShape isWhole
      rw [isText, Numeral.double?_whole (Numeral.isDigits_toDigits whole),
        Numeral.value_toDigits, toDouble_whole isShape same]
    · obtain ⟨decimal, isPlace, same, isText⟩ := toList_text_fraction isShape isWhole
      rw [isText, Decimal.double?_pointText isPlace, same]

/-- What a double is printed as: a word where it is no finite number, or else a plain
number. -/
def IsPrinted (text : String) : Prop :=
  text = "NaN" ∨ text = "inf" ∨ text = "-inf" ∨ Numeral.IsPlainNumber text.toList

theorem isPrinted_text (number : Float) : IsPrinted (text number) := by
  unfold IsPrinted
  rcases isShape : shape number with _ | negative | ⟨negative, significand, exponent⟩
  · exact .inl (by rw [text, isShape])
  · rw [text, isShape]
    cases negative with
    | false => exact .inr (.inl rfl)
    | true => exact .inr (.inr (.inl rfl))
  · right; right; right
    by_cases isWhole : significand % 2 ^ (-exponent).toNat = 0
    · obtain ⟨whole, -, isText⟩ := toList_text_whole isShape isWhole
      exact ⟨negative, _, Numeral.isDigits_toDigits whole, .inl isText⟩
    · obtain ⟨decimal, -, -, isText⟩ := toList_text_fraction isShape isWhole
      rw [Decimal.toList_pointText] at isText
      exact ⟨negative, _, Numeral.isDigits_toDigits _,
        .inr ⟨_, Decimal.isDigits_placesText, isText⟩⟩

theorem trimBlanks_of_isPrinted {text : String} (isPrinted : IsPrinted text) :
    trimBlanks text.toList = text.toList := by
  rcases isPrinted with rfl | rfl | rfl | ⟨negative, whole, isWhole, isText⟩
  · rfl
  · rfl
  · rfl
  · apply Numeral.trimBlanks_eq_self
    rcases isText with isText | ⟨places, isPlaces, isText⟩
    · rw [isText]
      exact Numeral.isPlain_signText_append isWhole.isPlain negative
    · rw [isText]
      exact Numeral.isPlain_signText_append
        (Numeral.isPlain_point isWhole isPlaces) negative

end Double

/-! ## Integers -/

namespace Numeral

theorem toList_toString (number : Int) :
    (toString number).toList =
      signText (decide (number < 0)) ++ Nat.toDigits 10 number.natAbs := by
  cases number with
  | ofNat magnitude =>
      have notNegative : ¬ (Int.ofNat magnitude < 0) := by simp
      simp [signText, Int.toString_eq_repr, Int.repr]
  | negSucc magnitude =>
      simp [signText, Int.toString_eq_repr, Int.repr]

theorem integer_toString {number : Int}
    (short : (Nat.toDigits 10 number.natAbs).length ≤ digitLimit) :
    integer (.fixed 10) (toString number).toList = .ok number := by
  rw [toList_toString, integer_whole (isDigits_toDigits _) short, value_toDigits,
    Double.signed_natAbs]

theorem trimBlanks_toString (number : Int) :
    trimBlanks (toString number).toList = (toString number).toList := by
  apply trimBlanks_eq_self
  rw [toList_toString]
  exact isPlain_signText_append (isDigits_toDigits _).isPlain _

theorem isTooLong_iff (number : Int) :
    IsTooLong number ↔ digitLimit < (Nat.toDigits 10 number.natAbs).length := by
  rw [IsTooLong,
    Nat.pow_eq, ← not_lt, ← Nat.length_toDigits_le_iff (by decide) (by decide), not_le]

end Numeral

namespace Value

section Convert

variable {text : String}

theorem convert_toFloat {number : Float} (isRead : (string text).toFloat = .ok number) :
    (string text).convert .float = .ok (.float number) := by
  have converted : (string text).convert .float = (string text).toFloat.map .float := rfl
  rw [converted, isRead]
  rfl

theorem convert_toInt {number : Int} (isRead : (string text).toInt = .ok number) :
    (string text).convert .int = .ok (.int number) := by
  have converted : (string text).convert .int = (string text).toInt.map .int := rfl
  rw [converted, isRead]
  rfl

theorem convert_toText {number : Int}
    (isWritten : Numeral.integerText? number = some text) :
    (int number).convert .string = .ok (.string text) := by
  have writes : (int number).text? = some text := isWritten
  unfold convert
  rw [writes]
  rfl

end Convert

theorem toFloat_text (number : Float) :
    (string (Double.text number)).toFloat = .ok number := by
  unfold toFloat
  dsimp only
  rw [Double.trimBlanks_of_isPrinted (Double.isPrinted_text number), Double.double?_text]

theorem toInt_toString {number : Int}
    (short : (Nat.toDigits 10 number.natAbs).length ≤ Numeral.digitLimit) :
    (string (toString number)).toInt = .ok number := by
  unfold toInt Conversion.integerOfText
  dsimp only
  rw [Numeral.trimBlanks_toString, Numeral.integer_toString short]

/-- Numbers are printed and read as they were: a double as a word or a plain number, and
an integer with as many digits as may be written. -/
theorem convert_printed :
    (∀ number : Float, ∃ text, (float number).convert .string = .ok (.string text) ∧
        Double.IsPrinted text ∧ (string text).convert .float = .ok (.float number)) ∧
      ∀ number : Int, (Nat.toDigits 10 number.natAbs).length ≤ Numeral.digitLimit →
        (int number).convert .string = .ok (.string (toString number)) ∧
          (string (toString number)).convert .int = .ok (.int number) := by
  constructor
  · intro number
    exact ⟨Double.text number, rfl, Double.isPrinted_text number,
      convert_toFloat (toFloat_text number)⟩
  · intro number short
    have isShort := (Numeral.isTooLong_iff number).not.mpr (Nat.not_lt.mpr short)
    exact ⟨convert_toText (Numeral.integerText?_of_short isShort),
      convert_toInt (toInt_toString short)⟩

theorem convert_printed_negative :
    (Nat.toDigits 10 (-120 : Int).natAbs).length ≤ Numeral.digitLimit ∧
      (int (-120)).convert .string = .ok (.string "-120") ∧
        (string "-120").convert .int = .ok (.int (-120)) ∧
          (float (Double.zero true)).convert .string = .ok (.string "-0") ∧
            (string "-0").convert .float = .ok (.float (Double.zero true)) := by
  have short : (Nat.toDigits 10 (-120 : Int).natAbs).length ≤ Numeral.digitLimit := by
    decide
  have isInteger := convert_printed.2 (-120) short
  obtain ⟨text, isText, -, isRead⟩ := convert_printed.1 (Double.zero true)
  have known : text = "-0" := by
    have written : (float (Double.zero true)).convert .string = .ok (.string "-0") := by
      decide +kernel
    rw [written] at isText
    cases isText
    rfl
  subst known
  exact ⟨short, isInteger.1, isInteger.2, isText, isRead⟩

end Value

end StackLanguage
