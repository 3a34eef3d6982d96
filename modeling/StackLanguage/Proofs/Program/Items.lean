import StackLanguage.Program.Elaboration
import StackLanguage.Proofs.Program.Nesting

namespace StackLanguage

/-! What the items of a text become, one theorem for each form of item: the parts of an
item that became a statement have all been taken before it. -/

open Statement (everyNested withNested)

namespace Elaboration

theorem of_bind_ok {First Second : Type} {first : Except SourceFailure First}
    {second : First → Except SourceFailure Second} {result : Second}
    (succeeded : (first >>= second) = .ok result) :
    ∃ between, first = .ok between ∧ second between = .ok result := by
  cases first with
  | error failure => cases succeeded
  | ok between => exact ⟨between, rfl, succeeded⟩

theorem of_locate_ok {Result : Type} {file : String} {position : Position}
    {found : Except SyntaxError Result} {result : Result}
    (succeeded : locate file position found = .ok result) : found = .ok result := by
  cases found <;> cases succeeded
  rfl

theorem exists_source_of_mapM_ok {Source Result : Type}
    {make : Source → Except SourceFailure Result} {sources : List Source}
    {results : List Result} (succeeded : sources.mapM make = .ok results)
    {result : Result} (member : result ∈ results) :
    ∃ source ∈ sources, make source = .ok result := by
  induction sources generalizing results with
  | nil => cases succeeded; cases member
  | cons source rest induction =>
      rw [List.mapM_cons] at succeeded
      rcases of_bind_ok succeeded with ⟨first, isFirst, succeeded⟩
      rcases of_bind_ok succeeded with ⟨others, areOthers, succeeded⟩
      cases succeeded
      rcases List.mem_cons.mp member with rfl | member
      · exact ⟨source, .head _, isFirst⟩
      · rcases induction areOthers member with ⟨source, isSource, same⟩
        exact ⟨source, .tail _ isSource, same⟩

variable {file : String} {body : List Item → Except SourceFailure (List Statement)}
variable {result : Statement}

theorem letBinding_ok {start : Position} {name type : Spelling}
    {initial : Option Initializer}
    (succeeded : statement file body (.letBinding start name type initial) = .ok result) :
    ∃ value declared bound, initial.mapM (initializerValue file) = .ok value ∧
      typeNamed file type = .ok declared ∧ boundName file name = .ok bound ∧
      (∀ found ∈ value, declared.accepts found.1.type = true) ∧
      result = .bind ⟨file, start⟩ bound declared (value.map (·.1)) := by
  rcases of_bind_ok succeeded with ⟨value, isValue, succeeded⟩
  rcases of_bind_ok succeeded with ⟨declared, isDeclared, succeeded⟩
  cases value with
  | none =>
      rcases of_bind_ok succeeded with ⟨bound, isBound, succeeded⟩
      cases succeeded
      exact ⟨none, declared, bound, isValue, isDeclared, isBound, by simp, rfl⟩
  | some found =>
      rcases found with ⟨value, position⟩
      by_cases accepted : declared.accepts value.type = true
      · simp only [accepted] at succeeded
        rcases of_bind_ok succeeded with ⟨bound, isBound, succeeded⟩
        cases succeeded
        exact ⟨some (value, position), declared, bound, isValue, isDeclared, isBound,
          by simpa using accepted, rfl⟩
      · simp only [accepted] at succeeded
        cases succeeded

theorem function_ok {header : FunctionHeader} {items : List Item}
    (succeeded : statement file body (.function header items) = .ok result) :
    ∃ list statements type name, parameters file header.parameters = .ok list ∧
      body items = .ok statements ∧ header.result.mapM (typeNamed file) = .ok type ∧
      boundName file header.name = .ok name ∧
      result = .define ⟨file, header.start⟩ name list type statements := by
  rcases of_bind_ok succeeded with ⟨list, isList, succeeded⟩
  rcases of_bind_ok succeeded with ⟨statements, inside, succeeded⟩
  rcases of_bind_ok succeeded with ⟨type, isType, succeeded⟩
  rcases of_bind_ok succeeded with ⟨name, isName, succeeded⟩
  cases succeeded
  exact ⟨list, statements, type, name, isList, inside, isType, isName, rfl⟩

theorem ifThen_ok {start : Position} {thenBody : List Item}
    (succeeded : statement file body (.ifThen start thenBody) = .ok result) :
    ∃ statements,
      body thenBody = .ok statements ∧ result = .ifThen ⟨file, start⟩ statements := by
  rcases of_bind_ok succeeded with ⟨statements, inside, succeeded⟩
  cases succeeded
  exact ⟨statements, inside, rfl⟩

theorem ifThenElse_ok {start : Position} {thenBody elseBody : List Item}
    (succeeded : statement file body (.ifThenElse start thenBody elseBody) = .ok result) :
    ∃ thenStatements elseStatements, body thenBody = .ok thenStatements ∧
      body elseBody = .ok elseStatements ∧
      result = .ifThenElse ⟨file, start⟩ thenStatements elseStatements := by
  rcases of_bind_ok succeeded with ⟨thenStatements, thenInside, succeeded⟩
  rcases of_bind_ok succeeded with ⟨elseStatements, elseInside, succeeded⟩
  cases succeeded
  exact ⟨thenStatements, elseStatements, thenInside, elseInside, rfl⟩

theorem literal_ok {literal : Literal}
    (succeeded : statement file body (.literal literal) = .ok result) :
    ∃ value, literalValue file literal = .ok value ∧
      result = .push ⟨file, literal.position⟩ value := by
  rcases of_bind_ok succeeded with ⟨value, isValue, succeeded⟩
  cases succeeded
  exact ⟨value, isValue, rfl⟩

theorem conversion_ok {literal : Literal} {target : Spelling}
    (succeeded : statement file body (.conversion literal target) = .ok result) :
    ∃ value, convertedValue file literal target = .ok value ∧
      result = .push ⟨file, literal.position⟩ value := by
  rcases of_bind_ok succeeded with ⟨value, isValue, succeeded⟩
  cases succeeded
  exact ⟨value, isValue, rfl⟩

theorem call_ok {name : Spelling}
    (succeeded : statement file body (.call name) = .ok result) :
    Vocabulary.isReserved name.text = false ∧
      result = .call ⟨file, name.position⟩ name.text := by
  have found := of_locate_ok succeeded
  split at found <;> cases found
  next notReserved => exact ⟨by simpa using notReserved, rfl⟩

theorem word_ok {name : Spelling}
    (succeeded : statement file body (.word name) = .ok result) :
    Vocabulary.isBuiltinWord name.text = true ∧
      result = .word ⟨file, name.position⟩ name.text ∨
      Vocabulary.isReserved name.text = false ∧
        result = .load ⟨file, name.position⟩ name.text := by
  have found := of_locate_ok succeeded
  split at found
  · next isWord => cases found; exact .inl ⟨isWord, rfl⟩
  · split at found <;> cases found
    next notReserved => exact .inr ⟨by simpa using notReserved, rfl⟩

theorem block_ok {start : Position} {items : List Item}
    (succeeded : statement file body (.block start items) = .ok result) :
    ∃ statements,
      body items = .ok statements ∧ result = .block ⟨file, start⟩ statements := by
  rcases of_bind_ok succeeded with ⟨statements, inside, succeeded⟩
  cases succeeded
  exact ⟨statements, inside, rfl⟩

theorem exists_body {item : Item} (succeeded : statement file body item = .ok result)
    {known : List Identifier} {inside : List Statement}
    (isBody : (known, inside) ∈ result.bodies) : ∃ items, body items = .ok inside := by
  cases item with
  | letBinding =>
      rcases letBinding_ok succeeded with ⟨_, _, _, _, _, _, _, rfl⟩
      cases isBody
  | function =>
      rcases function_ok succeeded with ⟨_, statements, _, _, _, elaborated, _, _, rfl⟩
      simp only [Statement.bodies, List.mem_singleton, Prod.mk.injEq] at isBody
      exact ⟨_, isBody.2 ▸ elaborated⟩
  | ifThen =>
      rcases ifThen_ok succeeded with ⟨statements, elaborated, rfl⟩
      simp only [Statement.bodies, List.mem_singleton, Prod.mk.injEq] at isBody
      exact ⟨_, isBody.2 ▸ elaborated⟩
  | ifThenElse =>
      rcases ifThenElse_ok succeeded with ⟨_, _, thenElaborated, elseElaborated, rfl⟩
      simp only [Statement.bodies, List.mem_cons, List.not_mem_nil, or_false,
        Prod.mk.injEq] at isBody
      rcases isBody with ⟨-, rfl⟩ | ⟨-, rfl⟩
      · exact ⟨_, thenElaborated⟩
      · exact ⟨_, elseElaborated⟩
  | literal =>
      rcases literal_ok succeeded with ⟨_, _, rfl⟩
      cases isBody
  | conversion =>
      rcases conversion_ok succeeded with ⟨_, _, rfl⟩
      cases isBody
  | call =>
      rcases call_ok succeeded with ⟨_, rfl⟩
      cases isBody
  | word =>
      rcases word_ok succeeded with ⟨_, rfl⟩ | ⟨_, rfl⟩ <;> cases isBody
  | operator =>
      cases succeeded
      cases isBody
  | block =>
      rcases block_ok succeeded with ⟨statements, elaborated, rfl⟩
      simp only [Statement.bodies, List.mem_singleton, Prod.mk.injEq] at isBody
      exact ⟨_, isBody.2 ▸ elaborated⟩

theorem exists_item {room : Nat} {items : List Item} {list : List Statement}
    (succeeded : statements file room items = .ok list) {inner : Statement}
    (member : inner ∈ everyNested list) :
    ∃ body item, statement file body item = .ok inner := by
  induction room generalizing items list with
  | zero => cases succeeded
  | succ room induction =>
      rcases Statement.mem_everyNested.mp member with ⟨outer, isOuter, member⟩
      rcases exists_source_of_mapM_ok succeeded isOuter with ⟨item, _, outerElaborated⟩
      rw [Statement.withNested_eq, List.mem_cons] at member
      rcases member with rfl | member
      · exact ⟨_, item, outerElaborated⟩
      · rcases List.mem_flatMap.mp member with ⟨⟨known, inside⟩, isBody, member⟩
        rcases exists_body outerElaborated isBody with ⟨bodyItems, bodyElaborated⟩
        exact induction bodyElaborated member

end Elaboration

end StackLanguage
