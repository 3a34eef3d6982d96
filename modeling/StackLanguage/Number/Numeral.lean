import StackLanguage.Number.Decimal
import StackLanguage.Text.Blank
import StackLanguage.Text.DecimalDigit

namespace StackLanguage

/-! Numbers written as text. Digits of every script count as decimal digits, spaces around
a number are dropped, and single underscores may stand between digits. -/

namespace Numeral

def digitLimit : Nat := 4300

/-- A character as far as numbers go: a digit of another script is the digit of its value,
a blank outside ASCII is a space, and any other character outside ASCII is part of no
number. -/
def plain (character : Char) : Char :=
  if character.toNat < 128 then character
  else
    match decimalDigit? character with
    | some value => Nat.digitChar value
    | none => if isBlank character then ' ' else '?'

def isSpace (character : Char) : Bool :=
  [' ', '\t', '\n', '\x0b', '\x0c', '\r'].contains character

def core (text : List Char) : List Char := trimEnds isSpace (text.map plain)

def splitSign : List Char → Bool × List Char
  | '-' :: rest => (true, rest)
  | '+' :: rest => (false, rest)
  | characters => (false, characters)

def digitValue? (character : Char) : Option Nat :=
  if character.isDigit then some (character.toNat - 48)
  else if 'a' ≤ character ∧ character ≤ 'f' then some (character.toNat - 87)
  else if 'A' ≤ character ∧ character ≤ 'F' then some (character.toNat - 55)
  else none

def isDigitIn (base : Nat) (character : Char) : Bool :=
  (digitValue? character).any (· < base)

def value (base : Nat) (digits : List Char) : Nat :=
  digits.foldl (fun total digit => base * total + (digitValue? digit).getD 0) 0

/-- Whether the characters are digits with at most one underscore between neighbours, at
least one digit in all; all that is not an underscore counts as a digit. -/
def separated : (afterDigit : Bool) → List Char → Bool
  | afterDigit, [] => afterDigit
  | afterDigit, character :: rest =>
      if character = '_' then afterDigit && separated false rest else separated true rest

inductive IntegerError where
  | malformed
  | tooManyDigits (count : Nat)
deriving DecidableEq, Repr

/-- The number that a whole text denotes in a base. Bases other than ten are powers of
two, and numbers in them may have any number of digits. -/
def unsigned (base : Nat) (characters : List Char) : Except IntegerError Nat :=
  let run :=
    characters.takeWhile fun character => character = '_' || isDigitIn base character
  let digits := run.filter (· ≠ '_')
  if !separated false run then .error .malformed
  else if base = 10 ∧
    digitLimit < digits.length then .error (.tooManyDigits digits.length)
  else if run.length ≠ characters.length then .error .malformed
  else .ok (value base digits)

inductive Radix where
  /-- Digits in this base; before hexadecimal ones `0x` and before binary ones `0b` may
  stand. -/
  | fixed (base : Nat)
  /-- Base sixteen, eight or two after `0x`, `0o` or `0b`, else ten; a decimal number that
  starts with a zero is zero. -/
  | marked
deriving DecidableEq, Repr

def markedBase? (letter : Char) : Option Nat :=
  if letter = 'x' ∨ letter = 'X' then some 16
  else if letter = 'o' ∨ letter = 'O' then some 8
  else if letter = 'b' ∨ letter = 'B' then some 2
  else none

def afterMark : List Char → List Char
  | '_' :: rest => rest
  | characters => characters

def magnitude (radix : Radix) (characters : List Char) : Except IntegerError Nat :=
  match radix, characters with
  | .fixed base, '0' :: letter :: rest =>
      if markedBase? letter = some base then unsigned base (afterMark rest)
      else unsigned base characters
  | .marked, '0' :: rest =>
      match rest.head?.bind markedBase? with
      | some base => unsigned base (afterMark rest.tail)
      | none => do
          let number ← unsigned 10 characters
          if number = 0 then pure 0 else .error .malformed
  | .fixed base, _ => unsigned base characters
  | .marked, _ => unsigned 10 characters

def integer (radix : Radix) (text : List Char) : Except IntegerError Int := do
  let (negative, characters) := splitSign (core text)
  let number ← magnitude radix characters
  pure (Double.signed negative number)

def underscoresBetweenDigits : (previous : Char) → List Char → Bool
  | previous, [] => previous ≠ '_'
  | previous, character :: rest =>
      (if character = '_' then previous.isDigit
        else previous ≠ '_' || character.isDigit) &&
      underscoresBetweenDigits character rest

def exponent? (characters : List Char) : Option Int :=
  let (negative, digits) := splitSign characters
  if digits ≠ [] ∧ digits.all Char.isDigit then
    some (Double.signed negative (value 10 digits))
  else none

def decimal? (characters : List Char) : Option Decimal :=
  let whole := characters.takeWhile Char.isDigit
  let afterWhole := characters.dropWhile Char.isDigit
  let (fraction, rest) :=
    match afterWhole with
    | '.' :: tail => (tail.takeWhile Char.isDigit, tail.dropWhile Char.isDigit)
    | _ => ([], afterWhole)
  let digits := whole ++ fraction
  if digits = [] then none
  else
    let exponent :=
      match rest with
      | [] => some 0
      | letter :: tail => if letter = 'e' ∨ letter = 'E' then exponent? tail else none
    exponent.map fun power => ⟨value 10 digits, power - fraction.length⟩

/-- The double that a text denotes: `nan`, `inf`, `infinity` in any case, or the double
closest to a decimal number. -/
def double? (text : List Char) : Option Float :=
  let characters := core text
  if underscoresBetweenDigits ' ' characters then
    let (negative, unsigned) := splitSign (characters.filter (· ≠ '_'))
    let word := String.ofList (unsigned.map Char.toLower)
    if word = "nan" then some Double.notANumber
    else if word = "inf" ∨ word = "infinity" then some (Double.infinity negative)
    else (decimal? unsigned).map (·.toDouble negative)
  else none

def integerText? (number : Int) : Option String :=
  if number.natAbs < Nat.pow 10 digitLimit then some (toString number) else none

end Numeral

end StackLanguage
