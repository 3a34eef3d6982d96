import Mathlib
import StackLanguage.Number.Numeral

namespace StackLanguage

/-! Digits in the bases up to sixteen, and the number that a row of them denotes. Reading
a row of digits from the left leaves that number. -/

namespace Numeral

def smallDigits : List Char :=
  ['0', '1', '2', '3', '4', '5', '6', '7', '8', '9', 'a', 'b', 'c', 'd', 'e', 'f']

def largeDigits : List Char :=
  ['0', '1', '2', '3', '4', '5', '6', '7', '8', '9', 'A', 'B', 'C', 'D', 'E', 'F']

/-- The value of a digit; no base up to sixteen has a digit of the value of another
character. -/
def digit (character : Char) : Nat :=
  min (smallDigits.idxOf character) (largeDigits.idxOf character)

/-- The number that digits denote in a base, the last digit being the one of the ones. -/
def denoted (base : Nat) (digits : List Char) : Nat :=
  Nat.ofDigits base (digits.reverse.map digit)

structure IsDigitsIn (base : Nat) (characters : List Char) : Prop where
  notEmpty : characters ≠ []
  digits : ∀ character ∈ characters, digit character < base

structure IsDigits (characters : List Char) : Prop where
  notEmpty : characters ≠ []
  digits : ∀ character ∈ characters, character.isDigit = true

/-! ## Characters -/

theorem mem_digits_of_digit_lt {character : Char} (isDigit : digit character < 16) :
    character ∈ smallDigits ++ largeDigits := by
  rcases min_lt_iff.mp isDigit with isSmall | isLarge
  · exact List.mem_append_left _ (List.idxOf_lt_length_iff.mp isSmall)
  · exact List.mem_append_right _ (List.idxOf_lt_length_iff.mp isLarge)

theorem of_digit_lt {property : Char → Bool}
    (known : (smallDigits ++ largeDigits).all property = true) {character : Char}
    (isDigit : digit character < 16) : property character = true :=
  List.all_eq_true.mp known character (mem_digits_of_digit_lt isDigit)

theorem digitValue?_eq {character : Char} (isDigit : digit character < 16) :
    digitValue? character = some (digit character) := by
  have known :=
    @of_digit_lt (fun character => digitValue? character = some (digit character))
      (by decide) character isDigit
  simpa using known

theorem digitValue?_of_isDigit {character : Char} (isDigit : character.isDigit = true) :
    digitValue? character = some (character.toNat - 48) := if_pos isDigit

theorem isDigitIn_of_digit_lt {base : Nat} (small : base ≤ 16) {character : Char}
    (isDigit : digit character < base) : isDigitIn base character = true := by
  rw [isDigitIn, digitValue?_eq (isDigit.trans_le small), Option.any_some,
    decide_eq_true isDigit]

theorem of_code {property : Char → Prop} {least most : Nat}
    (known : ∀ code, least ≤ code → code ≤ most → property (Char.ofNat code))
    {character : Char} (atLeast : least ≤ character.toNat)
    (atMost : character.toNat ≤ most) : property character := by
  have holds := known character.toNat atLeast atMost
  rwa [Char.ofNat_toNat] at holds

theorem toNat_of_isDigit {character : Char} (isDigit : character.isDigit = true) :
    48 ≤ character.toNat ∧ character.toNat ≤ 57 := by
  simpa [Char.isDigit, UInt32.le_iff_toNat_le] using isDigit

theorem digit_lt_of_isDigit {character : Char} (isDigit : character.isDigit = true) :
    digit character < 10 := by
  obtain ⟨atLeast, atMost⟩ := toNat_of_isDigit isDigit
  refine @of_code (digit · < 10) 48 57 (fun code atLeast atMost => ?_) _ atLeast atMost
  interval_cases code <;> decide

theorem IsDigits.inTen {characters : List Char} (isDigits : IsDigits characters) :
    IsDigitsIn 10 characters where
  notEmpty := isDigits.notEmpty
  digits character isMember := digit_lt_of_isDigit (isDigits.digits character isMember)

theorem IsDigitsIn.digit_lt {base : Nat} {characters : List Char}
    (isDigits : IsDigitsIn base characters) (small : base ≤ 16) :
    ∀ character ∈ characters, digit character < 16 := fun character isMember =>
  (isDigits.digits character isMember).trans_le small

/-! ## Rows of digits -/

section Rows

variable {base : Nat} {characters whole places : List Char}

theorem denoted_append (base : Nat) (whole places : List Char) :
    denoted base (whole ++ places) =
      denoted base whole * base ^ places.length + denoted base places := by
  rw [denoted, List.reverse_append, List.map_append, Nat.ofDigits_append, List.length_map,
    List.length_reverse, add_comm, mul_comm]
  rfl

theorem value_eq_denoted (digits : ∀ character ∈ characters, digit character < 16) :
    value base characters = denoted base characters := by
  induction characters using List.reverseRecOn with
  | nil => rfl
  | append_singleton front last further =>
      obtain ⟨isFront, isLast⟩ := List.forall_mem_append.mp digits
      have ones : denoted base [last] = digit last := by simp [denoted]
      rw [denoted_append, ones, List.length_singleton, pow_one, ← further isFront, value,
        List.foldl_append, List.foldl_cons, List.foldl_nil,
        digitValue?_eq (isLast last (List.mem_singleton_self last)), Option.getD_some,
        mul_comm base]
      rfl

end Rows

end Numeral

end StackLanguage
