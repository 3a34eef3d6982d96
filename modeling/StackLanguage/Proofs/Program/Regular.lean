import Mathlib
import StackLanguage.Proofs.Operator.Typed
import StackLanguage.Proofs.Program.Elaboration

namespace StackLanguage

/-! What every statement of a program that is read from a text keeps to, at any depth: no
reserved word is bound, loaded or called, words and operators are ones that the language
has, types are ones that have a name, values are of one kind and fit what they are bound
to, and the parameters of a function are all named, differently, or all unnamed. -/

open Statement (everyNested)

namespace ValueType

def IsNamed (type : ValueType) : Prop := type ∈ named.map (·.2)

theorem isNamed_of_ofName? {name : String} {type : ValueType}
    (found : ofName? name = some type) : type.IsNamed := by
  rcases List.lookup_eq_some_iff.mp found with ⟨front, back, split, _⟩
  unfold IsNamed
  rw [split]
  simp

end ValueType

namespace Parameter

/-- All parameters have names, of which no two are the same, or none has one. -/
def AreUniform (parameters : List Parameter) : Prop :=
  (∀ parameter ∈ parameters, parameter.name.isSome = true) ∧
      parameters.Pairwise (fun first second => first.name ≠ second.name) ∨
    ∀ parameter ∈ parameters, parameter.name = none

theorem areUniform_of_names {parameters : List Parameter}
    (notPartly : ¬ ((parameters.filterMap (·.name)).length ≠ 0 ∧
      (parameters.filterMap (·.name)).length ≠ parameters.length))
    (differ : (parameters.filterMap (·.name)).Nodup) : AreUniform parameters := by
  by_cases noNames : (parameters.filterMap (·.name)).length = 0
  · exact .inr (List.filterMap_eq_nil_iff.mp (List.length_eq_zero_iff.mp noNames))
  · have allNamed :=
      List.filterMap_length_eq_length.mp (not_not.mp (not_and.mp notPartly noNames))
    refine .inl ⟨allNamed, ?_⟩
    refine (List.pairwise_filterMap.mp differ).imp_of_mem fun member _ apart same => ?_
    rcases Option.isSome_iff_exists.mp (allNamed _ member) with ⟨name, isName⟩
    exact apart name isName name (same ▸ isName) rfl

def IsRegular (parameter : Parameter) : Prop :=
  parameter.type.IsNamed ∧ ∀ name ∈ parameter.name, Vocabulary.isReserved name = false

end Parameter

namespace Value

/-- The type of the value is a single kind; what the value holds is of the kind that its
type is, as both follow from the same constructor. -/
def HasKind (value : Value) : Prop := value.type ∈ ValueType.kinds.map (·.2)

end Value

namespace Statement

def IsRegular : Statement → Prop
  | .push _ value => value.HasKind
  | .word _ name => Vocabulary.isBuiltinWord name = true
  | .operator _ symbol => symbol ∈ Operator.all.map Operator.symbol
  | .load _ name | .call _ name => Vocabulary.isReserved name = false
  | .bind _ name type initial =>
      Vocabulary.isReserved name = false ∧ type.IsNamed ∧
        ∀ value ∈ initial, value.HasKind ∧ type.accepts value.type = true
  | .define _ name parameters result _ =>
      Vocabulary.isReserved name = false ∧
        (∀ parameter ∈ parameters, parameter.IsRegular) ∧
        Parameter.AreUniform parameters ∧ ∀ type ∈ result, type.IsNamed
  | .ifThen .. | .ifThenElse .. | .block .. => True
  | .unknown .. => False

end Statement

theorem Operator.mem_symbols {symbol : String}
    (known : (ofSymbol? symbol).isSome = true) : symbol ∈ all.map Operator.symbol := by
  rcases Option.isSome_iff_exists.mp known with ⟨operator, found⟩
  exact List.mem_map.mpr ⟨operator, operator.mem_all, symbol_of_ofSymbol? found⟩

namespace Elaboration

variable {file : String}

theorem typeNamed_isNamed {name : Spelling} {type : ValueType}
    (found : typeNamed file name = .ok type) : type.IsNamed := by
  have named := of_locate_ok found
  split at named
  · next isType => cases named; exact ValueType.isNamed_of_ofName? isType
  · cases named

theorem boundName_isFree {name : Spelling} {bound : String}
    (found : boundName file name = .ok bound) : Vocabulary.isReserved bound = false := by
  have named := of_locate_ok found
  split at named
  · cases named
  · next isFree => cases named; simpa using isFree

theorem of_optional_ok {Source Result : Type}
    {make : Source → Except SourceFailure Result} {source : Option Source}
    {result : Option Result} (succeeded : source.mapM make = .ok result) {found : Result}
    (isFound : found ∈ result) : ∃ part ∈ source, make part = .ok found := by
  cases source with
  | none => cases succeeded; cases isFound
  | some part =>
      rcases of_bind_ok succeeded with ⟨made, isMade, succeeded⟩
      cases succeeded
      cases isFound
      exact ⟨part, rfl, isMade⟩

theorem parameter_isRegular {item : ParameterItem} {result : Parameter}
    (succeeded : parameter file item = .ok result) : result.IsRegular := by
  rcases of_bind_ok succeeded with ⟨type, isType, succeeded⟩
  rcases of_bind_ok succeeded with ⟨name, isName, succeeded⟩
  cases succeeded
  refine ⟨typeNamed_isNamed isType, fun bound isBound => ?_⟩
  rcases of_optional_ok isName isBound with ⟨_, _, found⟩
  exact boundName_isFree found

theorem parameters_areRegular {items : List ParameterItem} {list : List Parameter}
    (succeeded : parameters file items = .ok list) :
    (∀ parameter ∈ list, parameter.IsRegular) ∧ Parameter.AreUniform list := by
  rcases of_bind_ok succeeded with ⟨made, areMade, succeeded⟩
  dsimp only at succeeded
  split at succeeded
  · cases of_locate_ok succeeded
  · next notPartly =>
      split at succeeded
      · cases of_locate_ok succeeded
      · next notRepeated =>
          cases succeeded
          refine ⟨fun parameter member => ?_, ?_⟩
          · rcases exists_source_of_mapM_ok areMade member with ⟨_, _, found⟩
            exact parameter_isRegular found
          · exact Parameter.areUniform_of_names notPartly (not_not.mp notRepeated)

theorem statement_isRegular {body : List Item → Except SourceFailure (List Statement)}
    {item : Item} {result : Statement} (succeeded : statement file body item = .ok result)
    (wellFormed : result.IsWellFormed) : result.IsRegular := by
  cases item with
  | letBinding =>
      rcases letBinding_ok succeeded with
        ⟨initial, declared, bound, _, isDeclared, isBound, accepted, rfl⟩
      refine ⟨boundName_isFree isBound, typeNamed_isNamed isDeclared,
        fun value isValue => ?_⟩
      rcases Option.map_eq_some_iff.mp isValue with ⟨found, isFound, rfl⟩
      exact ⟨found.1.type_mem_kinds, accepted found isFound⟩
  | function =>
      rcases function_ok succeeded with
        ⟨_, _, _, _, areParameters, _, isResult, isName, rfl⟩
      rcases parameters_areRegular areParameters with ⟨areRegular, areUniform⟩
      refine ⟨boundName_isFree isName, areRegular, areUniform, fun type isType => ?_⟩
      rcases of_optional_ok isResult isType with ⟨_, _, found⟩
      exact typeNamed_isNamed found
  | ifThen =>
      rcases ifThen_ok succeeded with ⟨_, _, rfl⟩
      trivial
  | ifThenElse =>
      rcases ifThenElse_ok succeeded with ⟨_, _, _, _, rfl⟩
      trivial
  | literal =>
      rcases literal_ok succeeded with ⟨value, _, rfl⟩
      exact value.type_mem_kinds
  | conversion =>
      rcases conversion_ok succeeded with ⟨value, _, rfl⟩
      exact value.type_mem_kinds
  | call =>
      rcases call_ok succeeded with ⟨isFree, rfl⟩
      exact isFree
  | word =>
      rcases word_ok succeeded with ⟨isWord, rfl⟩ | ⟨isFree, rfl⟩
      · exact isWord
      · exact isFree
  | operator =>
      cases succeeded
      exact Operator.mem_symbols wellFormed
  | block =>
      rcases block_ok succeeded with ⟨_, _, rfl⟩
      trivial

end Elaboration

namespace Program

/-- Every statement of a program that is read from a text, at any depth, is regular. -/
theorem ofText_everyRegular {sourceName source : String} {program : Program}
    (read : ofText sourceName source = .ok program) :
    ∀ statement ∈ everyNested program.statements, statement.IsRegular := by
  intro statement member
  rcases ofText_ok read with ⟨items, _, elaborated⟩
  rcases Elaboration.exists_item elaborated member with ⟨body, item, found⟩
  exact Elaboration.statement_isRegular found (ofText_allWellFormed read statement member)

theorem ofText_everyRegular_nested :
    ∃ program,
      ofText "" "fun f: int a \x7b \x7b let c: any = true @ string \x7d a drop \x7d" =
        .ok program ∧
      (everyNested program.statements).length = 5 ∧
      ∀ statement ∈ everyNested program.statements, statement.IsRegular := by
  have read :
      ofText "" "fun f: int a \x7b \x7b let c: any = true @ string \x7d a drop \x7d" =
        .ok ⟨[.define ⟨"", .start⟩ "f" [⟨.int, some "a"⟩] none
          [.block ⟨"", ⟨1, 16⟩⟩ [.bind ⟨"", ⟨1, 18⟩⟩ "c" .any (some (.string "true"))],
           .load ⟨"", ⟨1, 47⟩⟩ "a", .word ⟨"", ⟨1, 49⟩⟩ "drop"]], ""⟩ := by cbv
  exact ⟨_, read, rfl, ofText_everyRegular read⟩

end Program

end StackLanguage
