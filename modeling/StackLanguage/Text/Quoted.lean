import StackLanguage.Text.Printable

namespace StackLanguage

/-! Text between quotes, as error messages show it. The quote is a single one unless the
text has a single quote and no double quote; a backslash, the quote itself and every
character that would not be visible are written as escapes. -/

namespace Quoted

def hexDigits : (width : Nat) → (value : Nat) → List Char
  | 0, _ => []
  | width + 1, value => hexDigits width (value / 16) ++ [Nat.digitChar (value % 16)]

@[simp] theorem hexDigits_length (width value : Nat) :
    (hexDigits width value).length = width := by
  induction width generalizing value with
  | zero => rfl
  | succ width induction => simp [hexDigits, induction]

def escape (quote character : Char) : List Char :=
  if character = quote ∨ character = '\\' then ['\\', character]
  else if character = '\n' then ['\\', 'n']
  else if character = '\r' then ['\\', 'r']
  else if character = '\t' then ['\\', 't']
  else if isPrintable character then [character]
  else if character.toNat < 0x100 then '\\' :: 'x' :: hexDigits 2 character.toNat
  else if character.toNat < 0x10000 then '\\' :: 'u' :: hexDigits 4 character.toNat
  else '\\' :: 'U' :: hexDigits 8 character.toNat

def quoteFor (characters : List Char) : Char :=
  if characters.contains '\'' && !characters.contains '"' then '"' else '\''

def encode (characters : List Char) : List Char :=
  let quote := quoteFor characters
  quote :: characters.flatMap (escape quote) ++ [quote]

end Quoted

def quoted (text : String) : String :=
  String.ofList (Quoted.encode text.toList)

end StackLanguage
