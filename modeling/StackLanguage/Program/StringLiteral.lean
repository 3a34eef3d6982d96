namespace StackLanguage

/-! String literals: the text between two delimiters, in which a backslash with the next
character stands for one character. -/

namespace StringLiteral

def escapes : List (Char × Char) :=
  [('\\', '\\'), ('"', '"'), ('\'', '\''), ('n', '\n'), ('r', '\r'), ('t', '\t')]

inductive EscapeError where
  | unknown (character : Char)
  | missing
deriving DecidableEq, Repr

def decode : List Char → Except EscapeError (List Char)
  | [] => .ok []
  | ['\\'] => .error .missing
  | '\\' :: character :: rest =>
      match escapes.lookup character with
      | some meant => (decode rest).map (meant :: ·)
      | none => .error (.unknown character)
  | character :: rest => (decode rest).map (character :: ·)

def body (raw : List Char) : List Char := raw.tail.dropLast

end StringLiteral

end StackLanguage
