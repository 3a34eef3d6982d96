import Mathlib
import StackLanguage.Proofs.Program.Elaboration
import StackLanguage.Proofs.SyntaxTree.Standing

namespace StackLanguage

/-! The locations of a program are those of its text: every statement, at any depth, has
the place of the first character of the item that it was made from, and the places
increase in the order of the text. -/

open Statement (everyNested)

theorem Position.start_after (characters : List Char) :
    start.after characters =
      ⟨1 + characters.count '\n',
        1 + (characters.reverse.takeWhile (· ≠ '\n')).length⟩ := by
  induction characters using List.reverseRecOn with
  | nil => rfl
  | append_singleton front last induction =>
      rw [after_append, induction, after_cons, after_nil, next]
      by_cases isLineFeed : last = '\n'
      · simp [isLineFeed, Nat.add_assoc]
      · simp [isLineFeed, Nat.add_comm]

theorem Item.one_le_line {source : String} {items : List Item}
    (read : ofText source = .ok items) {position : Position}
    (isStart : position ∈ listStarts items) : 1 ≤ position.line := by
  rw [← listOpenings_position [], listOpenings, List.map_map] at isStart
  rcases List.mem_map.mp isStart with ⟨occurrence, isOccurrence, rfl⟩
  rcases ofText_stands read isOccurrence with ⟨_, _, front, _, _, _, _, place⟩
  change 1 ≤ occurrence.item.position.line
  rw [place, Position.start_after]
  exact Nat.le_add_right 1 _

namespace Elaboration

variable {file : String}

theorem statement_location {body : List Item → Except SourceFailure (List Statement)}
    {item : Item} {result : Statement}
    (succeeded : statement file body item = .ok result) :
    result.location = ⟨file, item.position⟩ := by
  cases item with
  | letBinding => rcases letBinding_ok succeeded with ⟨_, _, _, _, _, _, _, rfl⟩; rfl
  | function => rcases function_ok succeeded with ⟨_, _, _, _, _, _, _, _, rfl⟩; rfl
  | ifThen => rcases ifThen_ok succeeded with ⟨_, _, rfl⟩; rfl
  | ifThenElse => rcases ifThenElse_ok succeeded with ⟨_, _, _, _, rfl⟩; rfl
  | literal => rcases literal_ok succeeded with ⟨_, _, rfl⟩; rfl
  | conversion => rcases conversion_ok succeeded with ⟨_, _, rfl⟩; rfl
  | call => rcases call_ok succeeded with ⟨_, rfl⟩; rfl
  | word => rcases word_ok succeeded with ⟨_, rfl⟩ | ⟨_, rfl⟩ <;> rfl
  | operator => cases succeeded; rfl
  | block => rcases block_ok succeeded with ⟨_, _, rfl⟩; rfl

def Makes (file : String) (item : Item) (result : Statement) : Prop :=
  ∃ room, statement file (statements file room) item = .ok result

def ListsMake (file : String) (room : Nat) : Prop :=
  ∀ before items list, statements file room items = .ok list →
    List.Forall₂ (fun occurrence => Makes file occurrence.item)
      (Item.listOccurrences before items) (everyNested list)

theorem statement_makes {room : Nat} (lists : ListsMake file room) (before : List Lexeme)
    {item : Item} {result : Statement}
    (succeeded : statement file (statements file room) item = .ok result) :
    List.Forall₂ (fun occurrence => Makes file occurrence.item)
      (item.occurrences before) result.withNested := by
  have made : Makes file item result := ⟨room, succeeded⟩
  cases item with
  | letBinding =>
      rcases letBinding_ok succeeded with ⟨_, _, _, _, _, _, _, rfl⟩
      exact .cons made .nil
  | function =>
      rcases function_ok succeeded with ⟨_, list, _, _, _, inside, _, _, rfl⟩
      exact .cons made (lists _ _ _ inside)
  | ifThen =>
      rcases ifThen_ok succeeded with ⟨list, inside, rfl⟩
      exact .cons made (lists _ _ _ inside)
  | ifThenElse =>
      rcases ifThenElse_ok succeeded with
        ⟨thenList, elseList, thenInside, elseInside, rfl⟩
      exact .cons made (List.rel_append (lists _ _ _ thenInside) (lists _ _ _ elseInside))
  | literal =>
      rcases literal_ok succeeded with ⟨_, _, rfl⟩
      exact .cons made .nil
  | conversion =>
      rcases conversion_ok succeeded with ⟨_, _, rfl⟩
      exact .cons made .nil
  | call =>
      rcases call_ok succeeded with ⟨_, rfl⟩
      exact .cons made .nil
  | word =>
      rcases word_ok succeeded with ⟨_, rfl⟩ | ⟨_, rfl⟩ <;> exact .cons made .nil
  | operator =>
      cases succeeded
      exact .cons made .nil
  | block =>
      rcases block_ok succeeded with ⟨list, inside, rfl⟩
      exact .cons made (lists _ _ _ inside)

theorem statements_make (file : String) (room : Nat) : ListsMake file room := by
  induction room with
  | zero => exact fun _ _ _ succeeded => nomatch succeeded
  | succ room lists =>
      intro before items
      induction items generalizing before with
      | nil =>
          intro list succeeded
          cases succeeded
          exact .nil
      | cons item rest induction =>
          intro list succeeded
          rw [statements, List.mapM_cons] at succeeded
          rcases of_bind_ok succeeded with ⟨first, isFirst, succeeded⟩
          rcases of_bind_ok succeeded with ⟨others, areOthers, succeeded⟩
          cases succeeded
          exact List.rel_append (statement_makes lists before isFirst)
            (induction (before ++ item.lexemes) others areOthers)

end Elaboration

namespace Program

variable {sourceName source : String} {program : Program}

/-- A statement that was made from an item of a text and has the place of its first
character: after the lexemes before the item and as many lines and characters as stand
before its first token. -/
structure StandsFirst (sourceName source : String) (items : List Item)
    (occurrence : Item.Occurrence) (statement : Statement) : Prop where
  made : Elaboration.Makes sourceName occurrence.item statement
  within : occurrence.before ++ occurrence.item.lexemes <+: Item.listLexemes items
  place : ∃ first rest front back,
    occurrence.item.lexemes = first :: rest ∧ first.IsProper ∧
      first.Stands (Item.listLexemes items) source.toList occurrence.before front back ∧
      statement.location =
        ⟨sourceName, 1 + front.count '\n',
          1 + (front.reverse.takeWhile (· ≠ '\n')).length⟩

/-- The statements of a program at every depth are in the order of their places, and are
those of the items at every depth, each of which has the place of its first token. -/
theorem ofText_locations (read : ofText sourceName source = .ok program) :
    ((everyNested program.statements).map (·.location.position)).Pairwise
      Position.IsBefore ∧
      ∃ items, Item.ofText source = .ok items ∧
        List.Forall₂ (StandsFirst sourceName source items) (Item.listOccurrences [] items)
          (everyNested program.statements) := by
  rcases ofText_ok read with ⟨items, isRead, elaborated⟩
  refine ⟨?_, items, isRead, ?_⟩
  · have locations := (Elaboration.statements_yield sourceName nestingLimit items _
      elaborated).locations
    have positions := congrArg (List.map Location.position) locations
    simp only [List.map_map, Function.comp_def, List.map_id'] at positions
    rw [positions]
    exact Item.ofText_pairwise isRead
  · have made := Elaboration.statements_make sourceName nestingLimit [] items _ elaborated
    refine ((List.forall₂_and_left _ _).mpr ⟨fun _ => id, made⟩).imp ?_
    rintro occurrence statement ⟨member, made⟩
    rcases Item.ofText_stands isRead member with
      ⟨first, rest, front, back, isFirst, proper, stands, place⟩
    refine ⟨made, ?_, first, rest, front, back, isFirst, proper, stands, ?_⟩
    · simpa using Item.listOccurrences_isPrefix member
    · rcases made with ⟨room, succeeded⟩
      rw [Elaboration.statement_location succeeded, place, Position.start_after]

theorem ofText_locations_lines :
    let source := "\"a\nb\" #\r\n  if \x7b 1 \x7d else \x7b x \x7d"
    ∃ program, ofText "" source = .ok program ∧
      (everyNested program.statements).map (·.location.position) =
        [⟨1, 1⟩, ⟨3, 3⟩, ⟨3, 8⟩, ⟨3, 19⟩] ∧
      ∃ items, Item.ofText source = .ok items ∧
        List.Forall₂ (StandsFirst "" source items) (Item.listOccurrences [] items)
          (everyNested program.statements) := by
  intro source
  have read : ofText "" source =
      .ok ⟨[.push ⟨"", ⟨1, 1⟩⟩ (.string "a\nb"), .ifThenElse ⟨"", ⟨3, 3⟩⟩
        [.push ⟨"", ⟨3, 8⟩⟩ (.int 1)] [.load ⟨"", ⟨3, 19⟩⟩ "x"]], ""⟩ := by cbv
  exact ⟨_, read, rfl, (ofText_locations read).2⟩

end Program

end StackLanguage
