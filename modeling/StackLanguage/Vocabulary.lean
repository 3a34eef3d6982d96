import StackLanguage.ValueType

namespace StackLanguage

/-! The reserved words: keywords, names of types, and the built-in words that work on the
stack. -/

inductive BuiltinWord where
  | println
  | print
  | pstack
  | exit
  | okexit
  | drop
  | swap
  | dup
  | overTop
  | rot
  | clear
  | input
  | not
deriving DecidableEq, Repr

namespace BuiltinWord

def all : List BuiltinWord :=
  [println, print, pstack, exit, okexit, drop, swap, dup, overTop, rot, clear, input, not]

def name : BuiltinWord → String
  | println => "println"
  | print => "print"
  | pstack => "pstack"
  | exit => "exit"
  | okexit => "okexit"
  | drop => "drop"
  | swap => "swap"
  | dup => "dup"
  | overTop => "over"
  | rot => "rot"
  | clear => "clear"
  | input => "input"
  | not => "not"

def ofName? (name : String) : Option BuiltinWord :=
  all.find? (·.name = name)

theorem mem_all (word : BuiltinWord) : word ∈ all := by
  cases word <;> decide

theorem name_of_ofName? {name : String} {word : BuiltinWord}
    (found : ofName? name = some word) : word.name = name := by
  simpa using List.find?_some found

theorem ofName?_name (word : BuiltinWord) : ofName? word.name = some word := by
  cases word <;> rfl

end BuiltinWord

namespace Vocabulary

def keywords : List String := ["let", "fun", "if", "else", "true", "false"]

def isKeyword (name : String) : Bool := keywords.contains name

def isTypeName (name : String) : Bool := (ValueType.ofName? name).isSome

def isBuiltinWord (name : String) : Bool := (BuiltinWord.ofName? name).isSome

def isReserved (name : String) : Bool :=
  isKeyword name || isTypeName name || isBuiltinWord name

end Vocabulary

end StackLanguage
