import StackLanguage.Proofs.Evaluation.ErrorPlaces
import StackLanguage.Proofs.Program.Locations
import StackLanguage.Proofs.Session.Termination
import StackLanguage.Proofs.Typing.ErrorPlaces

namespace StackLanguage

/-! The errors of a program, when it is checked and when it is run, point into its text:
each is at the place of a statement of the program. Only an error about the program as a
whole has no place. -/

open Statement (everyNested)

namespace Location

/-- A place in a source at which one of the statements stands. -/
structure PointsInto (file : String) (nested : List Statement) (location : Location) :
    Prop where
  file : location.file = file
  line : 1 ≤ location.position.line
  statement : ∃ statement ∈ nested, statement.location = location

end Location

namespace Program

variable {sourceName source : String} {program : Program}

theorem ofText_pointsInto (read : ofText sourceName source = .ok program)
    {statement : Statement} (member : statement ∈ everyNested program.statements)
    {nested : List Statement} (isNested : statement ∈ nested) :
    statement.location.PointsInto sourceName nested := by
  rcases ofText_ok read with ⟨items, isRead, elaborated⟩
  have isLocation : statement.location ∈
      (everyNested program.statements).map Statement.location :=
    List.mem_map_of_mem member
  rw [(Elaboration.statements_yield sourceName nestingLimit items _ elaborated).locations]
    at isLocation
  rcases List.mem_map.mp isLocation with ⟨position, isStart, same⟩
  exact ⟨by rw [← same], by rw [← same]; exact Item.one_le_line isRead isStart, statement,
    isNested, rfl⟩

theorem checkProgram_pointsInto (read : ofText sourceName source = .ok program)
    {scopes : List Typing.Scope} {error : Located TypeError}
    (failed : (Typing.checkProgram scopes program).1 = .error error)
    (withinLimit : error.cause ≠ .nestedTooDeep) :
    (Typing.ChecksUpTo scopes program.statements program.statements.length ∧
      ∃ count, error = ⟨.excessValues count, .whole sourceName⟩) ∨
    ∃ count item, program.statements[count]? = some item ∧
      (∀ fewer ≤ count, Typing.ChecksUpTo scopes program.statements fewer) ∧
      ¬ Typing.ChecksUpTo scopes program.statements (count + 1) ∧
      error.location.PointsInto sourceName item.withNested := by
  unfold Typing.checkProgram at failed
  cases checked : Typing.checkStatements nestingLimit program.statements ⟨[], scopes⟩ with
  | ok _ after =>
      left
      simp only [checked] at failed
      split at failed <;> cases failed
      refine ⟨⟨after, by rwa [List.take_length]⟩, after.stack.length, ?_⟩
      rw [ofText_sourceName read]
  | error failure after =>
      right
      rcases Typing.exists_first_failing checked with
        ⟨count, item, isItem, checksBefore, fails, among⟩
      simp only [checked] at failed
      cases failure with
      | nestedTooDeep =>
          cases failed
          exact absurd rfl withinLimit
      | error _ =>
          cases failed
          rcases among with ⟨statement, member, same⟩
          refine ⟨count, item, isItem, checksBefore, fails, same ▸ ?_⟩
          have isStatement : statement ∈ everyNested program.statements :=
            Statement.mem_everyNested.mpr ⟨item, List.mem_of_getElem? isItem, member⟩
          exact ofText_pointsInto read isStatement member

theorem run_pointsInto (read : ofText sourceName source = .ok program)
    {session after : Session} {error : Located RuntimeError}
    (loaded : session.program = some program)
    (failed : Step.run session = .error (.runtime error) after)
    (withinLimit : error.cause ≠ .nestedTooDeep) :
    error.location.PointsInto sourceName (everyNested program.statements) := by
  rcases (Step.run_statements loaded).outcomes.2 _ _ failed with ⟨stop, isStop, stopped⟩
  cases stop with
  | exit code => cases isStop
  | fault reason => cases isStop
  | error _ =>
      cases isStop
      have enough : Stop.error error ≠ .outOfRoom := by
        intro same
        cases same
        exact withinLimit rfl
      rcases Run.statements_isAt stopped enough Knows.not_clean with
        ⟨statement, member, isAt⟩
      rw [show error.location = statement.location from isAt]
      exact ofText_pointsInto read member member

/-- The errors of a program point into its text, those of checking it into the first
statement up to which it cannot be checked. -/
theorem errors_pointInto (read : ofText sourceName source = .ok program) :
    (∀ scopes error, (Typing.checkProgram scopes program).1 = .error error →
      error.cause ≠ .nestedTooDeep →
      (Typing.ChecksUpTo scopes program.statements program.statements.length ∧
        ∃ count, error = ⟨.excessValues count, .whole sourceName⟩) ∨
      ∃ count item, program.statements[count]? = some item ∧
        (∀ fewer ≤ count, Typing.ChecksUpTo scopes program.statements fewer) ∧
        ¬ Typing.ChecksUpTo scopes program.statements (count + 1) ∧
        error.location.PointsInto sourceName item.withNested) ∧
    ∀ session error after, session.program = some program →
      Step.run session = .error (.runtime error) after → error.cause ≠ .nestedTooDeep →
      error.location.PointsInto sourceName (everyNested program.statements) :=
  ⟨fun _ _ => checkProgram_pointsInto read, fun _ _ _ => run_pointsInto read⟩

theorem errors_pointInto_bodies :
    (∃ program error, ofText "a" "1 drop\nfun f \x7b\n + \x7d" = .ok program ∧
      (Typing.checkProgram [.empty] program).1 = .error error ∧
      error.location = ⟨"a", ⟨3, 2⟩⟩ ∧
      ∃ count item, program.statements[count]? = some item ∧
        (∀ fewer ≤ count, Typing.ChecksUpTo [.empty] program.statements fewer) ∧
        ¬ Typing.ChecksUpTo [.empty] program.statements (count + 1) ∧
        error.location.PointsInto "a" item.withNested) ∧
    ∃ program error after,
      ofText "b" "fun f -> int \x7b\n 1 0 / \x7d\nf() drop" = .ok program ∧
      (Typing.checkProgram [.empty] program).1 = .ok () ∧
      Step.run { Session.initial Settings.initial "" with program := some program } =
        .error (.runtime error) after ∧
      error.location = ⟨"b", ⟨2, 6⟩⟩ ∧
      error.location.PointsInto "b" (everyNested program.statements) := by
  constructor
  · have read : ofText "a" "1 drop\nfun f \x7b\n + \x7d" =
        .ok ⟨[.push ⟨"a", ⟨1, 1⟩⟩ (.int 1), .word ⟨"a", ⟨1, 3⟩⟩ "drop",
          .define ⟨"a", ⟨2, 1⟩⟩ "f" [] none [.operator ⟨"a", ⟨3, 2⟩⟩ "+"]], "a"⟩ := by cbv
    refine ⟨_, ⟨.brokenPromise (.tooFewValues "+"), ⟨"a", ⟨3, 2⟩⟩⟩, read, by cbv, rfl, ?_⟩
    rcases (errors_pointInto read).1 [.empty]
      ⟨.brokenPromise (.tooFewValues "+"), ⟨"a", ⟨3, 2⟩⟩⟩ (by cbv) (by decide) with
      ⟨_, count, same⟩ | ⟨count, item, points⟩
    · cases same
    · exact ⟨count, item, points⟩
  · obtain ⟨program, same⟩ : ∃ program : Program, program =
        ⟨[.define ⟨"b", ⟨1, 1⟩⟩ "f" [] (some .int)
            [.push ⟨"b", ⟨2, 2⟩⟩ (.int 1), .push ⟨"b", ⟨2, 4⟩⟩ (.int 0),
              .operator ⟨"b", ⟨2, 6⟩⟩ "/"],
          .call ⟨"b", ⟨3, 1⟩⟩ "f", .word ⟨"b", ⟨3, 5⟩⟩ "drop"], "b"⟩ := ⟨_, rfl⟩
    have read : ofText "b" "fun f -> int \x7b\n 1 0 / \x7d\nf() drop" = .ok program := by
      rw [same]
      cbv
    have failed : ∃ after,
        Step.run { Session.initial Settings.initial "" with program := some program } =
          .error (.runtime ⟨.operation .divisionByZero, ⟨"b", ⟨2, 6⟩⟩⟩) after := by
      rw [same]
      exact ⟨_, by cbv⟩
    rcases failed with ⟨after, failed⟩
    refine ⟨program, ⟨.operation .divisionByZero, ⟨"b", ⟨2, 6⟩⟩⟩, after, read, ?_, failed,
      rfl, ?_⟩
    · rw [same]
      cbv
    · exact (errors_pointInto read).2 _ _ after rfl failed (by decide)

end Program

end StackLanguage
