import StackLanguage.Conversion
import StackLanguage.Location
import StackLanguage.Text.Quoted
import StackLanguage.Token

namespace StackLanguage

/-! What can be wrong with a source text: its characters, the order of its tokens, or a
name, a type or a literal in it. -/

inductive SyntaxError where
  | missingDelimiter (delimiter : Char)
  | unexpectedSymbol (symbol : Char)
  | unexpectedEnd
  | unexpectedToken (text : String) (expected : List Terminal)
  | nestedTooDeep
  | unknownEscape (character : Char)
  | malformedNumber (text : String)
  | unknownType (name : String)
  | reservedName (name : String)
  | invalidConversion (cause : ConversionError)
  | initializerType (name : String) (declared actual : ValueType)
  | partlyNamedParameters
  | repeatedParameter
  | builtinCall (name : String)
  | typeNameAsWord (name : String)
deriving DecidableEq

namespace SyntaxError

def ofSymbol (character : Char) : SyntaxError :=
  if character = '"' ∨ character = '\'' then missingDelimiter character
  else unexpectedSymbol character

def message : SyntaxError → String
  | missingDelimiter delimiter => "missing string delimiter " ++ delimiter.toString
  | unexpectedSymbol symbol => "unexpected symbol " ++ quoted symbol.toString
  | unexpectedEnd => "hit end of input while parsing (missing '\x7d'?)"
  | unexpectedToken text expected =>
      "unexpected token " ++ quoted text ++ ", expected one of: " ++
        ", ".intercalate (expected.map Terminal.label)
  | nestedTooDeep => "blocks nested too deep"
  | unknownEscape character => "unknown escape sequence \\" ++ character.toString
  | malformedNumber text => "malformed number literal " ++ quoted text
  | unknownType name => "unknown type " ++ name
  | reservedName name => name ++ " is a reserved word, can't bind to it"
  | invalidConversion cause => "invalid @ conversion: " ++ cause.message
  | initializerType name declared actual =>
      "cannot initialize " ++ name ++ " of type " ++ declared.name ++ " with a " ++
        actual.name ++ " literal"
  | partlyNamedParameters => "either all or none of the function parameters must be named"
  | repeatedParameter => "duplicate parameter name"
  | builtinCall name => name ++ " is a builtin word, not a function"
  | typeNameAsWord name => "unexpected type name " ++ name

/-- Whether the text ended inside an unfinished construct, so that more text could mend
it. -/
def isIncomplete : SyntaxError → Bool
  | unexpectedEnd => true
  | _ => false

end SyntaxError

end StackLanguage
