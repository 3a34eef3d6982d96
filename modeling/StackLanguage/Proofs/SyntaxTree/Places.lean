import StackLanguage.Proofs.SyntaxTree.Openings
import StackLanguage.Proofs.SyntaxTree.Parsing

namespace StackLanguage

/-! Every item of a text, at any depth, starts at a place of its own: with a token that no
other item starts with, and no two tokens have the same place. -/

namespace Position

def IsBefore (first second : Position) : Prop :=
  first.line < second.line ∨ first.line = second.line ∧ first.column < second.column

theorem IsBefore.trans {first second third : Position} (before : first.IsBefore second)
    (again : second.IsBefore third) : first.IsBefore third := by
  unfold IsBefore at *
  omega

theorem IsBefore.ne {first second : Position} (before : first.IsBefore second) :
    first ≠ second := by
  rintro rfl
  unfold IsBefore at before
  omega

theorem isBefore_next (position : Position) (character : Char) :
    position.IsBefore (position.next character) := by
  unfold IsBefore next
  split <;> simp

theorem isBefore_after (position : Position) {characters : List Char}
    (something : characters ≠ []) :
    position.IsBefore (position.after characters) := by
  induction characters generalizing position with
  | nil => exact absurd rfl something
  | cons character rest induction =>
      rw [after_cons]
      cases rest with
      | nil => exact position.isBefore_next character
      | cons second rest =>
          exact (position.isBefore_next character).trans (induction _ (by simp))

end Position

namespace Placed

variable {position : Position} {tokens : List Token} {text : List Char}

theorem isBefore_of_mem (placed : Placed position tokens text)
    (proper : ∀ token ∈ tokens, token.lexeme.IsProper) {other : Position}
    (before : other.IsBefore position) :
    ∀ token ∈ tokens, other.IsBefore token.position := by
  induction placed with
  | last => simp
  | @next position first rest gap text trivia starts placed induction =>
      rw [List.forall_mem_cons] at proper ⊢
      have after (characters : List Char) :
          other.IsBefore (position.after characters) := by
        cases characters with
        | nil => exact before
        | cons character rest => exact before.trans (position.isBefore_after (by simp))
      exact ⟨starts ▸ after gap, induction proper.2 (after _)⟩

theorem pairwise (placed : Placed position tokens text)
    (proper : ∀ token ∈ tokens, token.lexeme.IsProper) :
    (tokens.map Token.position).Pairwise Position.IsBefore := by
  induction placed with
  | last => exact .nil
  | @next position first rest gap text trivia starts placed induction =>
      rw [List.forall_mem_cons] at proper
      rw [List.map_cons, List.pairwise_cons, List.forall_mem_map]
      refine ⟨placed.isBefore_of_mem proper.2 ?_, induction proper.2⟩
      rw [starts, Position.after_append]
      apply Position.isBefore_after
      rcases Scan.isProper_starts proper.1 with ⟨_, _, textIs, _⟩
      exact textIs ▸ List.cons_ne_nil _ _

end Placed

/-! ## The starts of items -/

namespace Item

mutual

def starts : Item → List Position
  | letBinding start _ _ _ => [start]
  | function header body => header.start :: listStarts body
  | ifThen start thenBody => start :: listStarts thenBody
  | ifThenElse start thenBody elseBody =>
      start :: (listStarts thenBody ++ listStarts elseBody)
  | literal value => [value.position]
  | conversion value _ => [value.position]
  | call name => [name.position]
  | word name => [name.position]
  | operator symbol => [symbol.position]
  | block start body => start :: listStarts body

def listStarts : List Item → List Position
  | [] => []
  | item :: rest => item.starts ++ listStarts rest

end

mutual

theorem openings_position (before : List Lexeme) (item : Item) :
    (item.openings before).map Opening.position = item.starts := by
  cases item with
  | function header body =>
      simp [openings, occurrences, Occurrence.opening, position, starts,
        listOpenings_position _ body]
  | ifThen start thenBody =>
      simp [openings, occurrences, Occurrence.opening, position, starts,
        listOpenings_position _ thenBody]
  | ifThenElse start thenBody elseBody =>
      simp [openings, occurrences, Occurrence.opening, position, starts,
        listOpenings_position _ thenBody, listOpenings_position _ elseBody]
  | block start body =>
      simp [openings, occurrences, Occurrence.opening, position, starts,
        listOpenings_position _ body]
  | _ => simp [openings, occurrences, Occurrence.opening, position, starts]

theorem listOpenings_position (before : List Lexeme) (items : List Item) :
    (listOpenings before items).map Opening.position = listStarts items := by
  cases items with
  | nil => simp [listStarts]
  | cons item rest =>
      simp [listStarts, openings_position _ item, listOpenings_position _ rest]

end

theorem ofText_openings {source : String} {items : List Item}
    (read : ofText source = .ok items) :
    ∃ tokens,
      Placed .start tokens source.toList ∧ (∀ token ∈ tokens, token.lexeme.IsProper) ∧
        tokens.map Token.lexeme = listLexemes items ∧
        (listOpenings [] items).Sublist (Token.openings [] tokens) := by
  rcases Reading.readText_sound _ _ _ _ read with
    ⟨tokens, final, placed, proper, steps, finished⟩
  have valid : Reading.start.beginning.IsValid := trivial
  have lexemes := Reading.steps?_lexemes valid proper steps
  rcases Reading.steps?_openings valid proper steps with ⟨opened, sublist, same⟩
  rw [Reading.lexemes_start] at lexemes sublist
  have none : Reading.start.openings = [] := by
    simp [Reading.start, Reading.openings, OpenBlock.listOpenings, Beginning.openings]
  refine ⟨tokens, placed, proper, ?_, ?_⟩
  · rw [Reading.finish?_lexemes finished, lexemes, List.nil_append]
  · rwa [Reading.finish?_openings finished, same, none, List.nil_append]

theorem ofText_pairwise {source : String} {items : List Item}
    (read : ofText source = .ok items) :
    (listStarts items).Pairwise Position.IsBefore := by
  rcases ofText_openings read with ⟨tokens, placed, proper, -, sublist⟩
  rw [← listOpenings_position []]
  refine (placed.pairwise proper).sublist ?_
  rw [← Token.openings_position []]
  exact sublist.map _

theorem ofText_nodup {source : String} {items : List Item}
    (read : ofText source = .ok items) : (listStarts items).Nodup :=
  (ofText_pairwise read).imp Position.IsBefore.ne

end Item

end StackLanguage
