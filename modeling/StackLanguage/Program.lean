import StackLanguage.Location
import StackLanguage.Value

namespace StackLanguage

/-! Programs: statements with the place of their first token. Words, operators and names
are kept as they are spelled, so that a tree which no source text has can be given as
well; what cannot be carried out is found when it is checked or run. -/

structure Parameter where
  type : ValueType
  name : Option String
deriving DecidableEq, Repr

inductive Statement where
  | push (location : Location) (value : Value)
  | word (location : Location) (name : String)
  | operator (location : Location) (symbol : String)
  | load (location : Location) (name : String)
  | call (location : Location) (name : String)
  | bind (location : Location) (name : String) (type : ValueType) (initial : Option Value)
  | define (location : Location) (name : String) (parameters : List Parameter)
      (result : Option ValueType) (body : List Statement)
  | ifThen (location : Location) (thenBody : List Statement)
  | ifThenElse (location : Location) (thenBody elseBody : List Statement)
  | block (location : Location) (body : List Statement)
  | unknown (location : Location) (kind : String)
deriving Inhabited

namespace Statement

def location : Statement → Location
  | push location _ => location
  | word location _ => location
  | operator location _ => location
  | load location _ => location
  | call location _ => location
  | bind location _ _ _ => location
  | define location _ _ _ _ => location
  | ifThen location _ => location
  | ifThenElse location _ _ => location
  | block location _ => location
  | unknown location _ => location

end Statement

structure Program where
  statements : List Statement
  sourceName : String

namespace Program

/-- How deep blocks and calls may stand inside one another. -/
def nestingLimit : Nat := 1000

def defaultSourceName : String := "<input>"

end Program

namespace Parameter

def areNamed (parameters : List Parameter) : Bool :=
  parameters.head?.any (·.name.isSome)

end Parameter

end StackLanguage
