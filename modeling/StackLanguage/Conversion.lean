import StackLanguage.Text.Quoted
import StackLanguage.Value

namespace StackLanguage

/-! Conversion of a literal to another type. To `any` and to its own type a value is kept;
every value but a too long integer converts to a text; numbers convert to each other, and
texts are read as numbers. -/

inductive ConversionError where
  | undefined (source target : ValueType)
  | notFinite (number : Float)
  | unreadableInteger (text : String)
  | unreadableFloat (text : String)
  | tooManyDigits (count : Nat)
  | tooLongToWrite
  | overflow
deriving DecidableEq

namespace ConversionError

def limitMessage (detail : String) : String :=
  "Exceeds the limit (" ++ toString Numeral.digitLimit ++
    " digits) for integer string conversion" ++ detail ++
    "; use sys.set_int_max_str_digits() to increase the limit"

def message : ConversionError → String
  | undefined source target =>
      "cannot convert " ++ source.name ++ " literal to " ++ target.name
  | notFinite number => "cannot convert " ++ Double.text number ++ " to int"
  | unreadableInteger text =>
      "invalid literal for int() with base 0: " ++
        String.ofList ((quoted text).toList.take 200)
  | unreadableFloat text => "could not convert string to float: " ++ quoted text
  | tooManyDigits count => limitMessage (": value has " ++ toString count ++ " digits")
  | tooLongToWrite => limitMessage ""
  | overflow => "int too large to convert to float"

end ConversionError

namespace Conversion

def integerOfText (text : List Char) : Except ConversionError Int :=
  match Numeral.integer (.fixed 10) text with
  | .ok number => .ok number
  | .error _ =>
      match Numeral.integer .marked text with
      | .ok number => .ok number
      | .error .malformed => .error (.unreadableInteger (String.ofList text))
      | .error (.tooManyDigits count) => .error (.tooManyDigits count)

end Conversion

namespace Value

def toInt : Value → Except ConversionError Int
  | int number => .ok number
  | float number =>
      match Double.truncate? number with
      | some whole => .ok whole
      | none => .error (.notFinite number)
  | string text => Conversion.integerOfText (trimBlanks text.toList)
  | bool _ => .error (.undefined .bool .int)

def toFloat : Value → Except ConversionError Float
  | float number => .ok number
  | int number =>
      match Double.ofInteger? number with
      | some number => .ok number
      | none => .error .overflow
  | string text =>
      let trimmed := trimBlanks text.toList
      match Numeral.double? trimmed with
      | some number => .ok number
      | none => .error (.unreadableFloat (String.ofList trimmed))
  | bool _ => .error (.undefined .bool .float)

def convert (value : Value) (target : ValueType) : Except ConversionError Value :=
  if target = .any ∨ target = value.type then .ok value
  else if target = .string then
    match value.text? with
    | some text => .ok (.string text)
    | none => .error .tooLongToWrite
  else if target = .int then value.toInt.map .int
  else if target = .float then value.toFloat.map .float
  else .error (.undefined value.type target)

end Value

end StackLanguage
