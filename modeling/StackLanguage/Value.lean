import StackLanguage.Number.Numeral
import StackLanguage.ValueType

namespace StackLanguage

/-! Values: integers of any size, doubles, texts and truth values. -/

inductive Value where
  | int (number : Int)
  | float (number : Float)
  | string (text : String)
  | bool (truth : Bool)
deriving DecidableEq, Inhabited

namespace Value

def type : Value → ValueType
  | int _ => .int
  | float _ => .float
  | string _ => .string
  | bool _ => .bool

def text? : Value → Option String
  | int number => Numeral.integerText? number
  | float number => some (Double.text number)
  | string text => some text
  | bool true => some "true"
  | bool false => some "false"

/-- Two values are equal when they are of one kind and equal there; a not-a-number is not
equal to itself, and the two zeros are equal. -/
def equals : Value → Value → Bool
  | int first, int second => first = second
  | float first, float second => first == second
  | string first, string second => first = second
  | bool first, bool second => first = second
  | _, _ => false

/-- Whether a condition counts as true: all but `false`, zeros and the empty text do. -/
def isTruthy : Value → Bool
  | int number => number ≠ 0
  | float number => !(number == 0)
  | string text => text ≠ ""
  | bool truth => truth

end Value

end StackLanguage
