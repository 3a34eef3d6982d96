import StackLanguage.SyntaxTree
import StackLanguage.Token.Scan

namespace StackLanguage

/-! What the terminals of the grammar match, and what may stand between tokens. A text
either matches or it does not; where a token ends in a longer text is another question. -/

open Scan (isLayout isNameStart isNamePart isDigitPart isHexPart isBinaryPart)

namespace Terminal

def IsName (text : List Char) : Prop :=
  ∃ first rest, text = first :: rest ∧ isNameStart first = true ∧
    ∀ character ∈ rest, isNamePart character = true

inductive IsStringBody (delimiter : Char) : List Char → Prop
  | nil : IsStringBody delimiter []
  | plain {character rest} (other : character ≠ delimiter) (noEscape : character ≠ '\\')
      (body : IsStringBody delimiter rest) : IsStringBody delimiter (character :: rest)
  | escape {character rest} (sameLine : character ≠ '\n')
      (body : IsStringBody delimiter rest) :
      IsStringBody delimiter ('\\' :: character :: rest)

def IsString (text : List Char) : Prop :=
  ∃ delimiter body, (delimiter = '"' ∨ delimiter = '\'') ∧ IsStringBody delimiter body ∧
    text = delimiter :: (body ++ [delimiter])

def IsMarked (mark : Char) (isPart : Char → Bool) (text : List Char) : Prop :=
  ∃ digits, text = '0' :: mark :: digits ∧ digits ≠ [] ∧
    ∀ character ∈ digits, isPart character = true

def IsFraction (text : List Char) : Prop :=
  text = [] ∨
    ∃ digits, text = '.' :: digits ∧ ∀ character ∈ digits, isDigitPart character = true

def IsExponent (text : List Char) : Prop :=
  text = [] ∨ ∃ letter sign digits, text = letter :: (sign ++ digits) ∧
    (letter = 'e' ∨ letter = 'E') ∧ (sign = [] ∨ sign = ['+'] ∨ sign = ['-']) ∧
    digits ≠ [] ∧
    ∀ character ∈ digits, character.isDigit = true

def IsDecimal (text : List Char) : Prop :=
  ∃ first whole fraction exponent, text = first :: whole ++ fraction ++ exponent ∧
    first.isDigit = true ∧ (∀ character ∈ whole, isDigitPart character = true) ∧
    IsFraction fraction ∧ IsExponent exponent

def IsNumber (text : List Char) : Prop :=
  IsMarked 'x' isHexPart text ∨ IsMarked 'b' isBinaryPart text ∨ IsDecimal text

def operatorTexts : List String :=
  ["**", "==", "!=", "<=", ">=", "-", "+", "*", "/", "%", "<", ">"]

def Matches : Terminal → String → Prop
  | endOfText, _ => False
  | name, text => IsName text.toList
  | number, text => IsNumber text.toList
  | string, text => IsString text.toList
  | operator, text => text ∈ operatorTexts
  | keyword word, text => text = word.text
  | punctuation mark, text => text = mark.text

end Terminal

namespace Lexeme

def IsProper (lexeme : Lexeme) : Prop := lexeme.terminal.Matches lexeme.text

theorem IsProper.eq_keyword {lexeme : Lexeme} (proper : lexeme.IsProper) {word : Keyword}
    (isKeyword : lexeme.terminal = .keyword word) : lexeme = keyword word := by
  rcases lexeme with ⟨terminal, text⟩
  cases isKeyword
  obtain rfl : text = word.text := proper
  rfl

theorem IsProper.eq_punctuation {lexeme : Lexeme} (proper : lexeme.IsProper)
    {mark : Punctuation} (isPunctuation : lexeme.terminal = .punctuation mark) :
    lexeme = punctuation mark := by
  rcases lexeme with ⟨terminal, text⟩
  cases isPunctuation
  obtain rfl : text = mark.text := proper
  rfl

end Lexeme

theorem Token.lexeme_eq {token : Token} {terminal : Terminal}
    (same : token.terminal = terminal) : token.lexeme = ⟨terminal, token.text⟩ := by
  subst same
  rfl

/-! ## Between tokens -/

/-- White space and comments that end with their line. -/
inductive IsTrivia : List Char → Prop
  | nil : IsTrivia []
  | layout {character rest} (isLayout : isLayout character = true)
      (trivia : IsTrivia rest) :
      IsTrivia (character :: rest)
  | comment (body : List Char) {rest} (sameLine : '\n' ∉ body) (trivia : IsTrivia rest) :
      IsTrivia ('#' :: (body ++ '\n' :: rest))

def IsLastTrivia (text : List Char) : Prop :=
  ∃ closed last, text = closed ++ last ∧ IsTrivia closed ∧
    (last = [] ∨ ∃ body, last = '#' :: body ∧ '\n' ∉ body)

/-- A text that consists of lexemes with only white space and comments between and around
them. -/
inductive Interleaves : List Lexeme → List Char → Prop
  | last {text} (trivia : IsLastTrivia text) : Interleaves [] text
  | next {lexeme rest gap text} (trivia : IsTrivia gap)
      (interleaves : Interleaves rest text) :
      Interleaves (lexeme :: rest) (gap ++ (lexeme.text.toList ++ text))

inductive Spaces : List Lexeme → List Char → Prop
  | nil : Spaces [] []
  | next {lexeme rest gap text} (trivia : IsTrivia gap) (notEmpty : gap ≠ [])
      (spaces : Spaces rest text) :
      Spaces (lexeme :: rest) (lexeme.text.toList ++ (gap ++ text))

end StackLanguage
