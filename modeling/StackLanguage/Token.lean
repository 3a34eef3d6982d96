import StackLanguage.Text.Position

namespace StackLanguage

/-! The kinds of tokens that a source text consists of. -/

inductive Keyword where
  | letWord
  | funWord
  | ifWord
  | elseWord
  | trueWord
  | falseWord
deriving DecidableEq, Repr

namespace Keyword

def all : List Keyword := [letWord, funWord, ifWord, elseWord, trueWord, falseWord]

def text : Keyword → String
  | letWord => "let"
  | funWord => "fun"
  | ifWord => "if"
  | elseWord => "else"
  | trueWord => "true"
  | falseWord => "false"

def label : Keyword → String
  | letWord => "LET"
  | funWord => "FUN"
  | ifWord => "IF"
  | elseWord => "ELSE"
  | trueWord => "TRUE"
  | falseWord => "FALSE"

end Keyword

inductive Punctuation where
  | arrow
  | atSign
  | colon
  | comma
  | equal
  | leftBrace
  | leftParenthesis
  | rightBrace
  | rightParenthesis
deriving DecidableEq, Repr

namespace Punctuation

def all : List Punctuation :=
  [arrow, atSign, colon, comma, equal, leftBrace, leftParenthesis, rightBrace,
    rightParenthesis]

def text : Punctuation → String
  | arrow => "->"
  | atSign => "@"
  | colon => ":"
  | comma => ","
  | equal => "="
  | leftBrace => "\x7b"
  | leftParenthesis => "("
  | rightBrace => "\x7d"
  | rightParenthesis => ")"

def label : Punctuation → String
  | arrow => "_ARROW"
  | atSign => "AT"
  | colon => "COLON"
  | comma => "COMMA"
  | equal => "EQUAL"
  | leftBrace => "LBRACE"
  | leftParenthesis => "LPAR"
  | rightBrace => "RBRACE"
  | rightParenthesis => "RPAR"

end Punctuation

inductive Terminal where
  | endOfText
  | name
  | number
  | string
  | operator
  | keyword (keyword : Keyword)
  | punctuation (punctuation : Punctuation)
deriving DecidableEq, Repr

namespace Terminal

def label : Terminal → String
  | endOfText => "$END"
  | name => "NAME"
  | number => "NUMBER"
  | string => "STRING"
  | operator => "OP"
  | keyword word => word.label
  | punctuation mark => mark.label

def all : List Terminal :=
  [endOfText, punctuation .atSign, punctuation .colon, punctuation .comma,
   keyword .elseWord, punctuation .equal, keyword .falseWord, keyword .funWord,
   keyword .ifWord, punctuation .leftBrace, keyword .letWord,
   punctuation .leftParenthesis, name, number, operator, punctuation .rightBrace,
   punctuation .rightParenthesis, string, keyword .trueWord, punctuation .arrow]

theorem mem_all (terminal : Terminal) : terminal ∈ all := by
  rcases terminal with _ | _ | _ | _ | _ | ⟨⟨⟩⟩ | ⟨⟨⟩⟩ <;> decide

end Terminal

structure Token where
  terminal : Terminal
  text : String
  position : Position
deriving DecidableEq, Repr

end StackLanguage
