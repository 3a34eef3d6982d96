import StackLanguage.SyntaxError
import StackLanguage.SyntaxTree
import StackLanguage.Token.Scan

namespace StackLanguage

/-! Reading a syntax tree from a text, token by token. A `Reading` is what has been
understood so far: the open blocks, the complete items of the innermost one, and the
beginning of the next item. Each token either leads to the next reading or is refused. -/

inductive Beginning where
  | between (afterBlock : Bool)
  | word (name : Spelling)
  | callOpened (name : Spelling)
  | literal (literal : Literal)
  | converting (literal : Literal)
  | letWord (start : Position)
  | letName (start : Position) (name : Spelling)
  | letColon (start : Position) (name : Spelling)
  | letType (start : Position) (name type : Spelling)
  | letEqual (start : Position) (name type : Spelling)
  | letLiteral (start : Position) (name type : Spelling) (literal : Literal)
  | letConverting (start : Position) (name type : Spelling) (literal : Literal)
  | funWord (start : Position)
  | funName (header : FunctionHeader)
  | parameter (header : FunctionHeader)
  | parameterType (header : FunctionHeader) (type : Spelling)
  | parameterName (header : FunctionHeader)
  | arrow (header : FunctionHeader)
  | result (header : FunctionHeader)
  | ifWord (start : Position)
  | thenBlock (start : Position) (thenBody : List Item)
  | elseWord (start : Position) (thenBody : List Item)

inductive Opener where
  | block (start : Position)
  | function (header : FunctionHeader)
  | thenBranch (start : Position)
  | elseBranch (start : Position) (thenBody : List Item)

structure OpenBlock where
  opener : Opener
  before : List Item

/-- What has been read of a text; `items` are the complete items of the innermost open
block, latest first, and `enclosing` the open blocks, innermost first. -/
structure Reading where
  beginning : Beginning
  items : List Item
  enclosing : List OpenBlock

namespace FunctionHeader

def withParameter (header : FunctionHeader) (type : Spelling) (name : Option Spelling) :
    FunctionHeader :=
  { header with parameters := header.parameters ++ [{ type, name }] }

end FunctionHeader

namespace Beginning

/-- The item that a beginning amounts to if nothing more belongs to it, or none between
items. A beginning that needs more has no such meaning. -/
def settle? : Beginning → Option (Option Item)
  | between _ => some none
  | word name => some (some (.word name))
  | literal value => some (some (.literal value))
  | letType start name type => some (some (.letBinding start name type none))
  | letLiteral start name type value =>
      some (some (.letBinding start name type (some (.literal value))))
  | thenBlock start thenBody => some (some (.ifThen start thenBody))
  | _ => none

end Beginning

namespace Reading

def start : Reading := ⟨.between false, [], []⟩

def settled? (reading : Reading) : Option Reading :=
  reading.beginning.settle?.map fun item =>
    { reading with beginning := .between false, items := item.toList ++ reading.items }

def complete (reading : Reading) (item : Item) : Reading :=
  { reading with beginning := .between false, items := item :: reading.items }

def openBlock (reading : Reading) (opener : Opener) : Reading :=
  ⟨.between false, [], ⟨opener, reading.items⟩ :: reading.enclosing⟩

def closeBlock? (reading : Reading) : Option Reading :=
  match reading.enclosing with
  | [] => none
  | ⟨opener, before⟩ :: enclosing =>
      let body := reading.items.reverse
      match opener with
      | .block start => some ⟨.between true, .block start body :: before, enclosing⟩
      | .function header =>
          some ⟨.between true, .function header body :: before, enclosing⟩
      | .thenBranch start => some ⟨.thenBlock start body, before, enclosing⟩
      | .elseBranch start thenBody =>
          some ⟨.between true, .ifThenElse start thenBody body :: before, enclosing⟩

def literalOf? (token : Token) : Option Literal :=
  match token.terminal with
  | .string => some (.string ⟨token.text, token.position⟩)
  | .number => some (.number ⟨token.text, token.position⟩)
  | .keyword .trueWord => some (.truth true token.position)
  | .keyword .falseWord => some (.truth false token.position)
  | _ => none

def beginItem? (reading : Reading) (token : Token) : Option Reading :=
  match token.terminal with
  | .name => some { reading with beginning := .word ⟨token.text, token.position⟩ }
  | .operator => some (reading.complete (.operator ⟨token.text, token.position⟩))
  | .keyword .letWord => some { reading with beginning := .letWord token.position }
  | .keyword .funWord => some { reading with beginning := .funWord token.position }
  | .keyword .ifWord => some { reading with beginning := .ifWord token.position }
  | .punctuation .leftBrace => some (reading.openBlock (.block token.position))
  | .punctuation .rightBrace => reading.closeBlock?
  | _ => (literalOf? token).map fun literal =>
    { reading with beginning := .literal literal }

def step? (reading : Reading) (token : Token) : Option Reading :=
  let spelling : Spelling := ⟨token.text, token.position⟩
  let continueWith (beginning : Beginning) : Option Reading :=
    some { reading with beginning }
  match reading.beginning, token.terminal with
  | .word name, .punctuation .leftParenthesis => continueWith (.callOpened name)
  | .callOpened name, .punctuation .rightParenthesis =>
      some (reading.complete (.call name))
  | .literal literal, .punctuation .atSign => continueWith (.converting literal)
  | .converting literal, .name => some (reading.complete (.conversion literal spelling))
  | .letWord start, .name => continueWith (.letName start spelling)
  | .letName start name, .punctuation .colon => continueWith (.letColon start name)
  | .letColon start name, .name => continueWith (.letType start name spelling)
  | .letType start name type, .punctuation .equal =>
      continueWith (.letEqual start name type)
  | .letEqual start name type, _ =>
      (literalOf? token).map fun literal =>
        { reading with beginning := .letLiteral start name type literal }
  | .letLiteral start name type literal, .punctuation .atSign =>
      continueWith (.letConverting start name type literal)
  | .letConverting start name type literal, .name =>
      some (reading.complete
        (.letBinding start name type (some (.conversion literal spelling))))
  | .funWord start, .name => continueWith (.funName ⟨start, spelling, [], none⟩)
  | .funName header, .punctuation .colon => continueWith (.parameter header)
  | .parameter header, .name => continueWith (.parameterType header spelling)
  | .parameterType header type, .name =>
      continueWith (.parameterName (header.withParameter type (some spelling)))
  | .parameterType header type, .punctuation .comma =>
      continueWith (.parameter (header.withParameter type none))
  | .parameterType header type, .punctuation .arrow =>
      continueWith (.arrow (header.withParameter type none))
  | .parameterType header type, .punctuation .leftBrace =>
      some (reading.openBlock (.function (header.withParameter type none)))
  | .parameterName header, .punctuation .comma => continueWith (.parameter header)
  | .parameterName header, .punctuation .arrow
  | .funName header, .punctuation .arrow => continueWith (.arrow header)
  | .parameterName header, .punctuation .leftBrace
  | .funName header, .punctuation .leftBrace
  | .result header, .punctuation .leftBrace => some (reading.openBlock (.function header))
  | .arrow header, .name => continueWith (.result { header with result := some spelling })
  | .ifWord start, .punctuation .leftBrace => some (reading.openBlock (.thenBranch start))
  | .thenBlock start thenBody, .keyword .elseWord =>
      continueWith (.elseWord start thenBody)
  | .elseWord start thenBody, .punctuation .leftBrace =>
      some (reading.openBlock (.elseBranch start thenBody))
  | _, _ => reading.settled?.bind (·.beginItem? token)

def finish? (reading : Reading) : Option (List Item) :=
  reading.settled?.bind fun settled =>
    if settled.enclosing.isEmpty then some settled.items.reverse else none

def accepts (reading : Reading) : Terminal → Bool
  | .endOfText => reading.finish?.isSome
  | terminal => (reading.step? ⟨terminal, "", .start⟩).isSome

def expected (reading : Reading) : List Terminal :=
  Terminal.all.filter reading.accepts

end Reading

namespace Beginning

/-- The kinds of tokens that are looked for after a beginning, whatever surrounds it: a
closing brace where an item may end, and `else` after every closing brace. -/
def allows (beginning : Beginning) : Terminal → Bool
  | .punctuation .rightBrace => beginning.settle?.isSome
  | .keyword .elseWord =>
      match beginning with
      | .between afterBlock => afterBlock
      | .thenBlock .. => true
      | _ => false
  | terminal => (Reading.mk beginning [] []).accepts terminal

end Beginning

namespace Scan

theorem skipTrivia_length (inComment : Bool) (position : Position)
    (characters : List Char) :
    (skipTrivia inComment position characters).2.length ≤ characters.length := by
  fun_induction skipTrivia inComment position characters with
  | case1 => exact Nat.le_refl _
  | case2 _ _ _ induction => exact Nat.le_succ_of_le induction
  | case3 _ _ _ _ induction => exact Nat.le_succ_of_le induction
  | case4 _ _ _ induction => exact Nat.le_succ_of_le induction
  | case5 => exact Nat.le_refl _

end Scan

namespace Reading

/-- The cause of a refusal. A token that is looked for where it does not fit is refused
after the item before it is complete; one of a kind that is not looked for is refused at
once; and a character may start no token at all. -/
def refusal (reading : Reading) (characters : List Char) : SyntaxError :=
  match Scan.tokenAt? reading.beginning.allows characters with
  | some (_, length) =>
      .unexpectedToken (String.ofList (characters.take length))
        (reading.settled?.getD reading).expected
  | none =>
      match Scan.tokenAt? Scan.anywhere characters with
      | some (_, length) =>
          .unexpectedToken (String.ofList (characters.take length)) reading.expected
      | none => .ofSymbol (characters.headD ' ')

def readText (reading : Reading) (last position : Position) (characters : List Char) :
    Except (SyntaxError × Position) (List Item) :=
  match _skipped : Scan.skipTrivia false position characters with
  | (_, []) =>
      match reading.finish? with
      | some items => .ok items
      | none => .error (.unexpectedEnd, last)
  | (here, character :: rest) =>
      let next? := (Scan.tokenAt? reading.beginning.allows (character :: rest)).bind
        fun (terminal, length) =>
          let text := character :: rest.take (length - 1)
          (reading.step? ⟨terminal, String.ofList text, here⟩).map (·, text)
      match next? with
      | some (next, text) =>
          readText next here (here.after text) (rest.drop (text.length - 1))
      | none => .error (reading.refusal (character :: rest), here)
termination_by characters.length
decreasing_by
  have bound := Scan.skipTrivia_length false position characters
  simp only [_skipped, List.length_cons] at bound
  simp only [List.length_drop]
  omega

end Reading

namespace Item

def ofText (source : String) : Except (SyntaxError × Position) (List Item) :=
  Reading.start.readText .start .start source.toList

end Item

end StackLanguage
