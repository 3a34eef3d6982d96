namespace StackLanguage

/-! White space as Unicode has it, and blanks: white space and the four separator
controls. Blanks are dropped from both ends of a number written as text, and a blank line
consists of them. -/

def whiteSpaceCodes : List Nat := [
  0x9, 0xa, 0xb, 0xc, 0xd, 0x20, 0x85, 0xa0, 0x1680, 0x2000, 0x2001, 0x2002, 0x2003,
  0x2004, 0x2005, 0x2006, 0x2007, 0x2008, 0x2009, 0x200a, 0x2028, 0x2029, 0x202f, 0x205f,
  0x3000]

def isWhiteSpace (character : Char) : Bool :=
  whiteSpaceCodes.contains character.toNat

def separatorCodes : List Nat := [0x1c, 0x1d, 0x1e, 0x1f]

def isBlank (character : Char) : Bool :=
  isWhiteSpace character || separatorCodes.contains character.toNat

theorem isBlank_of_isWhitespace {character : Char}
    (white : character.isWhitespace = true) : isBlank character = true := by
  simp only [Char.isWhitespace, Bool.or_eq_true, decide_eq_true_eq] at white
  rcases white with ((white | white) | white) | white <;> subst white <;> decide

def trimEnds (isDropped : Char → Bool) (characters : List Char) : List Char :=
  ((characters.dropWhile isDropped).reverse.dropWhile isDropped).reverse

def trimBlanks (characters : List Char) : List Char := trimEnds isBlank characters

@[simp] theorem trimBlanks_nil : trimBlanks [] = [] := rfl

end StackLanguage
