import StackLanguage.Token

namespace StackLanguage

/-! Reading the token at the front of a text. What may be read depends on a set of allowed
kinds: `let if` reads a name after `let` because no keyword is allowed there, and the text
`->` is one token only where an arrow is allowed. Every function here answers how many
characters belong to a token, so that the token and the rest of the text make up the text
again. -/

namespace Scan

def isLayout (character : Char) : Bool :=
  [' ', '\t', '\x0c', '\r', '\n'].contains character

def isNameStart (character : Char) : Bool := character.isAlpha || character = '_'

def isNamePart (character : Char) : Bool := character.isAlphanum || character = '_'

def isDigitPart (character : Char) : Bool := character.isDigit || character = '_'

def isHexPart (character : Char) : Bool :=
  isDigitPart character || ('a' ≤ character && character ≤ 'f') ||
    ('A' ≤ character && character ≤ 'F')

def isBinaryPart (character : Char) : Bool :=
  character = '0' || character = '1' || character = '_'

def skipTrivia : (inComment : Bool) → Position → List Char → Position × List Char
  | _, position, [] => (position, [])
  | true, position, character :: rest =>
      skipTrivia (character ≠ '\n') (position.next character) rest
  | false, position, character :: rest =>
      if isLayout character then skipTrivia false (position.next character) rest
      else if character = '#' then skipTrivia true (position.next character) rest
      else (position, character :: rest)

/-- The length of a string from after its first delimiter to the closing one, added to
`length`. A backslash takes the next character with it, which must not be a line feed. -/
def closingLength? (delimiter : Char) : (length : Nat) → List Char → Option Nat
  | _, [] => none
  | length, '\\' :: character :: rest =>
      if character = '\n' then none else closingLength? delimiter (length + 2) rest
  | length, character :: rest =>
      if character = delimiter then some (length + 1)
      else if character = '\\' then none
      else closingLength? delimiter (length + 1) rest

def stringLength? : List Char → Option Nat
  | [] => none
  | delimiter :: rest =>
      if delimiter = '"' ∨ delimiter = '\'' then closingLength? delimiter 1 rest else none

def markedLength? (mark : Char) (isPart : Char → Bool) : List Char → Option Nat
  | '0' :: letter :: rest =>
      let digits := (rest.takeWhile isPart).length
      if letter = mark ∧ 0 < digits then some (2 + digits) else none
  | _ => none

def fractionLength : List Char → Nat
  | '.' :: rest => 1 + (rest.takeWhile isDigitPart).length
  | _ => 0

def exponentLength : List Char → Nat
  | letter :: rest =>
      if letter = 'e' ∨ letter = 'E' then
        let sign :=
          match rest with
          | '+' :: _ | '-' :: _ => 1
          | _ => 0
        let digits := ((rest.drop sign).takeWhile Char.isDigit).length
        if digits = 0 then 0 else 1 + sign + digits
      else 0
  | [] => 0

def decimalLength? (characters : List Char) : Option Nat :=
  if characters.head?.any Char.isDigit then
    let whole := (characters.takeWhile isDigitPart).length
    let fraction := fractionLength (characters.drop whole)
    some (whole + fraction + exponentLength (characters.drop (whole + fraction)))
  else none

def numberLength? (characters : List Char) : Option Nat :=
  markedLength? 'x' isHexPart characters <|> markedLength? 'b' isBinaryPart characters <|>
    decimalLength? characters

def nameLength? (characters : List Char) : Option Nat :=
  if characters.head?.any isNameStart then some (characters.takeWhile isNamePart).length
  else none

def operatorLength? : List Char → Option Nat
  | '*' :: '*' :: _ | '=' :: '=' :: _ | '!' :: '=' :: _ | '<' :: '=' :: _ | '>' ::
    '=' :: _ =>
      some 2
  | character :: _ =>
      if ['-', '+', '*', '/', '%', '<', '>'].contains character then some 1 else none
  | [] => none

def keywordAt? (allowed : Terminal → Bool) (characters : List Char) : Option Keyword :=
  Keyword.all.find? fun keyword =>
    allowed (.keyword keyword) && keyword.text.toList.isPrefixOf characters

/-- A word is a keyword where that keyword is allowed, and else a name. Where no name is
allowed a keyword is taken from the front of the text, even from the front of a longer
word. -/
def wordAt? (allowed : Terminal → Bool) (characters : List Char) :
    Option (Terminal × Nat) :=
  if allowed .name then
    (nameLength? characters).map fun length =>
      let word := String.ofList (characters.take length)
      match Keyword.all.find? fun keyword =>
        allowed (.keyword keyword) && keyword.text = word with
      | some keyword => (.keyword keyword, length)
      | none => (.name, length)
  else
    (keywordAt? allowed characters).map fun keyword =>
      (.keyword keyword, keyword.text.length)

def punctuationAt? (characters : List Char) : Option Punctuation :=
  Punctuation.all.find? fun punctuation =>
    punctuation ≠ .arrow && punctuation.text.toList.isPrefixOf characters

def arrowLength? : List Char → Option Nat
  | '-' :: '>' :: _ => some 2
  | _ => none

/-- The kind and the length of the allowed token at the front of a text. An arrow goes
before the operators, and an operator before the punctuation. -/
def tokenAt? (allowed : Terminal → Bool) (characters : List Char) :
    Option (Terminal × Nat) :=
  [ (arrowLength? characters).map fun length => (.punctuation .arrow, length),
    (numberLength? characters).map fun length => (.number, length),
    (stringLength? characters).map fun length => (.string, length),
    wordAt? allowed characters,
    (operatorLength? characters).map fun length => (.operator, length),
    (punctuationAt? characters).map fun punctuation => (.punctuation punctuation, 1)
  ].findSome? (·.filter fun token => allowed token.1)

def anywhere : Terminal → Bool := fun _ => true

end Scan

end StackLanguage
