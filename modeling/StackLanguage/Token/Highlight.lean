import StackLanguage.SyntaxError
import StackLanguage.Token.Scan
import StackLanguage.Vocabulary

namespace StackLanguage

/-! Pieces of a source text for display: tokens, comments and runs of layout, with the
group that a piece is shown as. The pieces of a text make up the text again. -/

inductive HighlightGroup where
  | statement
  | type
  | boolean
  | number
  | float
  | string
  | comment
  | identifier
  | operator
  | delimiter
deriving DecidableEq, Repr

namespace HighlightGroup

def name : HighlightGroup → String
  | statement => "Statement"
  | type => "Type"
  | boolean => "Boolean"
  | number => "Number"
  | float => "Float"
  | string => "String"
  | comment => "Comment"
  | identifier => "Identifier"
  | operator => "Operator"
  | delimiter => "Delimiter"

def ofNumber (characters : List Char) : HighlightGroup :=
  if ['0', 'x'].isPrefixOf characters || ['0', 'b'].isPrefixOf characters then number
  else if characters.any ['.', 'e', 'E'].contains then float
  else number

def ofWord (word : String) : HighlightGroup :=
  if word = "true" ∨ word = "false" then boolean
  else if Vocabulary.isKeyword word || Vocabulary.isBuiltinWord word then statement
  else if Vocabulary.isTypeName word then type
  else identifier

def ofToken (terminal : Terminal) (characters : List Char) : HighlightGroup :=
  match terminal with
  | .string => string
  | .number => ofNumber characters
  | .operator => operator
  | .name | .keyword _ => ofWord (String.ofList characters)
  | .punctuation _ | .endOfText => delimiter

end HighlightGroup

structure HighlightedPiece where
  text : String
  group : Option HighlightGroup
deriving DecidableEq, Repr

namespace HighlightedPiece

def lengthAt? (characters : List Char) : Option (Nat × Option HighlightGroup) :=
  if characters.head?.any Scan.isLayout then
    some ((characters.takeWhile Scan.isLayout).length, none)
  else if characters.head? = some '#' then
    some ((characters.takeWhile (· ≠ '\n')).length, some .comment)
  else
    (Scan.tokenAt? Scan.anywhere characters).map fun (terminal, length) =>
      (length, some (.ofToken terminal (characters.take length)))

def ofText (position : Position) : List Char →
    Except (SyntaxError × Position) (List HighlightedPiece)
  | [] => .ok []
  | character :: rest =>
      match lengthAt? (character :: rest) with
      | none => .error (.ofSymbol character, position)
      | some (length, group) =>
          let piece := character :: rest.take (length - 1)
          (ofText (position.after piece) (rest.drop (length - 1))).map
            ({ text := String.ofList piece, group } :: ·)
termination_by characters => characters.length
decreasing_by simp only [List.length_cons, List.length_drop]; omega

def classify (file source : String) :
    Except (Located SyntaxError) (List HighlightedPiece) :=
  (ofText .start source.toList).mapError fun (cause, position) =>
    ⟨cause, ⟨file, position⟩⟩

end HighlightedPiece

end StackLanguage
