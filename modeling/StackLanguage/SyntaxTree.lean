import StackLanguage.Token

namespace StackLanguage

/-! The syntax tree of a source text, one constructor for each way in which the grammar
forms an item. Names, numbers, strings and operators keep their spelling; keywords and
punctuation follow from the form, so only the place of an item's first token is kept of
them. -/

structure Spelling where
  text : String
  position : Position
deriving DecidableEq, Repr

inductive Literal where
  | string (spelling : Spelling)
  | number (spelling : Spelling)
  | truth (value : Bool) (position : Position)
deriving DecidableEq, Repr

def Literal.position : Literal → Position
  | string spelling => spelling.position
  | number spelling => spelling.position
  | truth _ position => position

inductive Initializer where
  | literal (literal : Literal)
  | conversion (literal : Literal) (target : Spelling)
deriving DecidableEq, Repr

structure ParameterItem where
  type : Spelling
  name : Option Spelling
deriving DecidableEq, Repr

structure FunctionHeader where
  start : Position
  name : Spelling
  parameters : List ParameterItem
  result : Option Spelling
deriving DecidableEq, Repr

inductive Item where
  | letBinding (start : Position) (name type : Spelling)
    (initializer : Option Initializer)
  | function (header : FunctionHeader) (body : List Item)
  | ifThen (start : Position) (thenBody : List Item)
  | ifThenElse (start : Position) (thenBody elseBody : List Item)
  | literal (literal : Literal)
  | conversion (literal : Literal) (target : Spelling)
  | call (name : Spelling)
  | word (name : Spelling)
  | operator (symbol : Spelling)
  | block (start : Position) (body : List Item)
deriving Repr

/-! ## The tokens of a tree

A lexeme is a token without its place. The lexemes of a tree are the tokens that it was
read from, in order, with the keywords and the punctuation restored. -/

structure Lexeme where
  terminal : Terminal
  text : String
deriving DecidableEq, Repr

namespace Lexeme

def keyword (keyword : Keyword) : Lexeme := ⟨.keyword keyword, keyword.text⟩

def punctuation (punctuation : Punctuation) : Lexeme :=
  ⟨.punctuation punctuation, punctuation.text⟩

def name (spelling : Spelling) : Lexeme := ⟨.name, spelling.text⟩

end Lexeme

def Token.lexeme (token : Token) : Lexeme := ⟨token.terminal, token.text⟩

def Literal.lexeme : Literal → Lexeme
  | string spelling => ⟨.string, spelling.text⟩
  | number spelling => ⟨.number, spelling.text⟩
  | truth true _ => .keyword .trueWord
  | truth false _ => .keyword .falseWord

def Initializer.lexemes : Initializer → List Lexeme
  | literal value => [value.lexeme]
  | conversion value target => [value.lexeme, .punctuation .atSign, .name target]

def ParameterItem.lexemes (parameter : ParameterItem) : List Lexeme :=
  .name parameter.type :: parameter.name.toList.map Lexeme.name

def ParameterItem.listLexemes (parameters : List ParameterItem) : List Lexeme :=
  match parameters with
  | [] => []
  | first :: rest =>
      .punctuation .colon :: first.lexemes ++
        rest.flatMap fun parameter => .punctuation .comma :: parameter.lexemes

def FunctionHeader.lexemes (header : FunctionHeader) : List Lexeme :=
  .keyword .funWord :: .name header.name :: ParameterItem.listLexemes header.parameters ++
    header.result.toList.flatMap fun type => [.punctuation .arrow, .name type]

namespace Item

def letLexemes (name type : Spelling) : List Lexeme :=
  [.keyword .letWord, .name name, .punctuation .colon, .name type]

mutual

def lexemes : Item → List Lexeme
  | letBinding _ name type initializer =>
      letLexemes name type ++
        initializer.toList.flatMap fun initial => .punctuation .equal :: initial.lexemes
  | function header body => header.lexemes ++ blockLexemes body
  | ifThen _ thenBody => .keyword .ifWord :: blockLexemes thenBody
  | ifThenElse _ thenBody elseBody =>
      .keyword .ifWord :: blockLexemes thenBody ++ .keyword .elseWord ::
        blockLexemes elseBody
  | literal value => [value.lexeme]
  | conversion value target => [value.lexeme, .punctuation .atSign, .name target]
  | call name =>
      [.name name, .punctuation .leftParenthesis, .punctuation .rightParenthesis]
  | word name => [.name name]
  | operator symbol => [⟨.operator, symbol.text⟩]
  | block _ body => blockLexemes body

def blockLexemes (body : List Item) : List Lexeme :=
  .punctuation .leftBrace :: listLexemes body ++ [.punctuation .rightBrace]

def listLexemes : List Item → List Lexeme
  | [] => []
  | item :: rest => item.lexemes ++ listLexemes rest

end

def position : Item → Position
  | letBinding start _ _ _ => start
  | function header _ => header.start
  | ifThen start _ => start
  | ifThenElse start _ _ => start
  | literal value => value.position
  | conversion value _ => value.position
  | call name => name.position
  | word name => name.position
  | operator symbol => symbol.position
  | block start _ => start

end Item

end StackLanguage
