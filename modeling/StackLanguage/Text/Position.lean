namespace StackLanguage

/-! Places in a text. Lines and columns count from one, a column is a number of code
points, and only a line feed ends a line. -/

structure Position where
  line : Nat
  column : Nat
deriving DecidableEq, Repr, Inhabited

namespace Position

def start : Position := ⟨1, 1⟩

def next (position : Position) (character : Char) : Position :=
  if character = '\n' then ⟨position.line + 1, 1⟩
  else ⟨position.line, position.column + 1⟩

def after (position : Position) (characters : List Char) : Position :=
  characters.foldl next position

@[simp] theorem after_nil (position : Position) : position.after [] = position := rfl

@[simp] theorem after_cons (position : Position) (character : Char) (rest : List Char) :
    position.after (character :: rest) = (position.next character).after rest := rfl

@[simp] theorem after_append (position : Position) (first second : List Char) :
    position.after (first ++ second) = (position.after first).after second := by
  simp [after]

end Position

end StackLanguage
