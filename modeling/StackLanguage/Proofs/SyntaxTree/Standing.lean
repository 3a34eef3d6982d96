import StackLanguage.Proofs.SyntaxTree.Places

namespace StackLanguage

/-! Where a lexeme stands in a text: the lexemes before it account for all the characters
before it, apart from white space and comments. -/

/-- Lexemes with only white space and comments that end with their line before, between
and after them, so that a further lexeme may follow. -/
inductive Precedes : List Lexeme → List Char → Prop
  | last {text} (trivia : IsTrivia text) : Precedes [] text
  | next {lexeme rest gap text} (trivia : IsTrivia gap) (precedes : Precedes rest text) :
      Precedes (lexeme :: rest) (gap ++ (lexeme.text.toList ++ text))

/-- A lexeme in a text: after the lexemes `before` and the characters `front`, and with
the characters `back` after it. -/
structure Lexeme.Stands (lexemes : List Lexeme) (text : List Char) (before : List Lexeme)
    (front : List Char) (lexeme : Lexeme) (back : List Char) : Prop where
  isPrefix : before ++ [lexeme] <+: lexemes
  whole : text = front ++ (lexeme.text.toList ++ back)
  precedes : Precedes before front

theorem Placed.exists_front {position : Position} {before : List Token} {token : Token}
    {after : List Token} {text : List Char}
    (placed : Placed position (before ++ token :: after) text) :
    ∃ front back, text = front ++ (token.text.toList ++ back) ∧
      Precedes (before.map Token.lexeme) front ∧
      token.position = position.after front := by
  induction before generalizing position text with
  | nil =>
      cases placed with
      | @next _ _ _ gap text trivia starts placed =>
          exact ⟨gap, text, rfl, .last trivia, starts⟩
  | cons first rest induction =>
      cases placed with
      | @next _ _ _ gap text trivia starts placed =>
          rcases induction placed with ⟨front, back, rfl, precedes, place⟩
          refine ⟨gap ++ (first.text.toList ++ front), back, by simp,
            @Precedes.next first.lexeme _ _ _ trivia precedes, ?_⟩
          rw [place, ← Position.after_append, List.append_assoc]

namespace Item

theorem lexemes_ne_nil (item : Item) : item.lexemes ≠ [] := by
  cases item <;> simp [lexemes, letLexemes, FunctionHeader.lexemes, blockLexemes]

theorem ofText_stands {source : String} {items : List Item}
    (read : ofText source = .ok items) {occurrence : Occurrence}
    (member : occurrence ∈ listOccurrences [] items) :
    ∃ first rest front back, occurrence.item.lexemes = first :: rest ∧ first.IsProper ∧
      first.Stands (listLexemes items) source.toList occurrence.before front back ∧
      occurrence.item.position = Position.start.after front := by
  rcases ofText_openings read with ⟨tokens, placed, proper, lexemes, sublist⟩
  have opened : occurrence.opening ∈ listOpenings [] items := List.mem_map_of_mem member
  rcases Token.exists_split_of_mem_openings (sublist.subset opened) with
    ⟨before, token, after, rfl, opening⟩
  injection opening with isBefore isPosition
  rcases List.exists_cons_of_ne_nil occurrence.item.lexemes_ne_nil with
    ⟨first, rest, isFirst⟩
  rcases listOccurrences_isPrefix member with ⟨others, split⟩
  rw [List.nil_append, ← lexemes, isFirst, isBefore] at split
  simp only [List.nil_append, List.map_append, List.map_cons, List.append_assoc,
    List.append_cancel_left_eq, List.cons_append, List.cons.injEq] at split
  rcases placed.exists_front with ⟨front, back, whole, precedes, place⟩
  refine ⟨first, rest, front, back, isFirst, ?_, ⟨?_, ?_, ?_⟩, isPosition.trans place⟩
  · exact split.1 ▸ proper token (by simp)
  · rw [← lexemes, isBefore, split.1]
    simp
  · rw [split.1]
    exact whole
  · rw [isBefore]
    exact precedes

end Item

end StackLanguage
