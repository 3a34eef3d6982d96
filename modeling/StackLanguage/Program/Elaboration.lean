import StackLanguage.Operator.Evaluation
import StackLanguage.Program
import StackLanguage.Program.StringLiteral
import StackLanguage.SyntaxTree.Reading
import StackLanguage.Vocabulary

namespace StackLanguage

/-! From syntax trees to programs: literals get their values, types and names are looked
up. Parts of an item are taken before the item itself, from left to right, so the error
found is the first one in that order. -/

inductive SourceFailure where
  | error (error : Located SyntaxError)
  | fault (fault : Fault)
deriving DecidableEq

namespace Elaboration

def numberValue? (raw : List Char) : Option Value :=
  let text := raw.filter (· ≠ '_')
  let integer (radix : Nat) (digits : List Char) : Option Value :=
    (Numeral.integer (.fixed radix) digits).toOption.map .int
  match text with
  | '0' :: 'x' :: digits => integer 16 digits
  | '0' :: 'b' :: digits => integer 2 digits
  | _ =>
      if text.any ['.', 'e', 'E'].contains then (Numeral.double? text).map .float
      else integer 10 text

def stringValue (raw : String) : Except SyntaxError String :=
  match StringLiteral.decode (StringLiteral.body raw.toList) with
  | .ok text => .ok (String.ofList text)
  | .error (.unknown character) => .error (.unknownEscape character)
  | .error .missing => .error (.unknownEscape '\\')

def numberValue (raw : String) : Except SyntaxError Value :=
  match numberValue? raw.toList with
  | some value => .ok value
  | none => .error (.malformedNumber raw)

variable (file : String)

def locate {Result : Type} (position : Position) :
    Except SyntaxError Result → Except SourceFailure Result
  | .ok result => .ok result
  | .error cause => .error (.error ⟨cause, ⟨file, position⟩⟩)

def literalValue (literal : Literal) : Except SourceFailure Value :=
  locate file literal.position <|
    match literal with
    | .string spelling => (stringValue spelling.text).map .string
    | .number spelling => numberValue spelling.text
    | .truth value _ => .ok (.bool value)

def typeNamed (name : Spelling) : Except SourceFailure ValueType :=
  locate file name.position <|
    match ValueType.ofName? name.text with
    | some type => .ok type
    | none => .error (.unknownType name.text)

def boundName (name : Spelling) : Except SourceFailure String :=
  locate file name.position <|
    if Vocabulary.isReserved name.text then .error (.reservedName name.text)
    else .ok name.text

def convertedValue (literal : Literal) (target : Spelling) :
    Except SourceFailure Value := do
  let value ← literalValue file literal
  let type ← typeNamed file target
  match value.convert type with
  | .ok converted => pure converted
  | .error .overflow => .error (.fault .literalOverflow)
  | .error cause => locate file target.position (.error (.invalidConversion cause))

def initializerValue : Initializer → Except SourceFailure (Value × Position)
  | .literal literal => do pure (← literalValue file literal, literal.position)
  | .conversion literal target => do
      pure (← convertedValue file literal target, literal.position)

def parameter (item : ParameterItem) : Except SourceFailure Parameter := do
  let type ← typeNamed file item.type
  let name ← item.name.mapM (boundName file)
  pure { type, name }

/-- The parameters of a function. Either all are named or none, and no name is used
twice. -/
def parameters (items : List ParameterItem) : Except SourceFailure (List Parameter) := do
  let parameters ← items.mapM (parameter file)
  let names := parameters.filterMap (·.name)
  let position := (items.head?.map (·.type.position)).getD .start
  if names.length ≠ 0 ∧ names.length ≠ parameters.length then
    locate file position (.error .partlyNamedParameters)
  else if ¬ names.Nodup then
    locate file position (.error .repeatedParameter)
  else
    pure parameters

def statement (body : List Item → Except SourceFailure (List Statement)) :
    Item → Except SourceFailure Statement
  | .letBinding start name type initializer => do
      let initial ← initializer.mapM (initializerValue file)
      let declared ← typeNamed file type
      if let some (value, position) := initial then
        unless declared.accepts value.type do
          locate file position (.error (.initializerType name.text declared value.type))
      let bound ← boundName file name
      pure (.bind ⟨file, start⟩ bound declared (initial.map (·.1)))
  | .function header items => do
      let parameters ← parameters file header.parameters
      let statements ← body items
      let result ← header.result.mapM (typeNamed file)
      let name ← boundName file header.name
      pure (.define ⟨file, header.start⟩ name parameters result statements)
  | .ifThen start thenBody => do
      pure (.ifThen ⟨file, start⟩ (← body thenBody))
  | .ifThenElse start thenBody elseBody => do
      let thenStatements ← body thenBody
      let elseStatements ← body elseBody
      pure (.ifThenElse ⟨file, start⟩ thenStatements elseStatements)
  | .literal literal => do
      pure (.push ⟨file, literal.position⟩ (← literalValue file literal))
  | .conversion literal target => do
      pure (.push ⟨file, literal.position⟩ (← convertedValue file literal target))
  | .call name =>
      locate file name.position <|
        if Vocabulary.isReserved name.text then .error (.builtinCall name.text)
        else .ok (.call ⟨file, name.position⟩ name.text)
  | .word name =>
      locate file name.position <|
        if Vocabulary.isBuiltinWord
          name.text then .ok (.word ⟨file, name.position⟩ name.text)
        else if Vocabulary.isReserved name.text then .error (.typeNameAsWord name.text)
        else .ok (.load ⟨file, name.position⟩ name.text)
  | .operator symbol => .ok (.operator ⟨file, symbol.position⟩ symbol.text)
  | .block start items => do pure (.block ⟨file, start⟩ (← body items))

def statements : (room : Nat) → List Item → Except SourceFailure (List Statement)
  | 0, _ => .error (.error ⟨.nestedTooDeep, .whole file⟩)
  | room + 1, items => items.mapM (statement file (statements room))

end Elaboration

def Program.ofText (sourceName source : String) : Except SourceFailure Program := do
  match Item.ofText source with
  | .error (cause, position) => .error (.error ⟨cause, ⟨sourceName, position⟩⟩)
  | .ok items =>
      let statements ← Elaboration.statements sourceName nestingLimit items
      pure { statements, sourceName }

end StackLanguage
