import StackLanguage.Proofs.SyntaxTree.Grammar

namespace StackLanguage

/-! What the grammar derives are the derivations of items, with the lexemes of the items:
a symbol derives what a part of an item is written as, and nothing else. -/

open StackLanguage.Derivation
  (rule ofItem ofItems ofLiteral ofConversion ofInitializer ofParameter
    ofParameters ofOption)

namespace Symbol

/-- The trees and the lexemes that a symbol stands for, as a part of an item has them. -/
def Denotes (trees : List Derivation) (lexemes : List Lexeme) : Symbol → Prop
  | start => ∃ items, trees = [ofItems items] ∧ lexemes = Item.listLexemes items
  | items => ∃ items, trees = items.map ofItem ∧ lexemes = Item.listLexemes items
  | item | letStatement | function | ifStatement | call | word | operator =>
      ∃ item, trees = [ofItem item] ∧ lexemes = item.lexemes
  | block =>
      ∃ items,
        trees = [rule "block" (items.map ofItem)] ∧ lexemes = Item.blockLexemes items
  | optionalInitializer => ∃ initial : Option Initializer,
      trees = [ofOption ofInitializer initial] ∧
        lexemes = initial.toList.flatMap fun initial =>
          .punctuation .equal :: initial.lexemes
  | initializer => ∃ initial, trees = [ofInitializer initial] ∧ lexemes = initial.lexemes
  | optionalParameters => ∃ parameters,
      trees = [ofParameters parameters] ∧ lexemes = ParameterItem.listLexemes parameters
  | parameters => ∃ first rest, trees = [ofParameters (first :: rest)] ∧
      .punctuation .colon :: lexemes = ParameterItem.listLexemes (first :: rest)
  | moreParameters =>
      ∃ parameters : List ParameterItem, trees = parameters.map ofParameter ∧
        lexemes = parameters.flatMap fun parameter =>
          .punctuation .comma :: parameter.lexemes
  | parameter =>
      ∃ parameter, trees = [ofParameter parameter] ∧ lexemes = parameter.lexemes
  | optionalName => ∃ name : Option Spelling,
      trees = [ofOption Derivation.name name] ∧ lexemes = name.toList.map Lexeme.name
  | optionalResult => ∃ type : Option Spelling, trees = [ofOption Derivation.name type] ∧
      lexemes = type.toList.flatMap fun type => [.punctuation .arrow, .name type]
  | optionalElse => trees = [.absent] ∧ lexemes = [] ∨
      ∃ items, trees = [rule "block" (items.map ofItem)] ∧
        lexemes = .keyword .elseWord :: Item.blockLexemes items
  | conversion => ∃ literal target, trees = [ofConversion literal target] ∧
      lexemes = [literal.lexeme, .punctuation .atSign, .name target]
  | literal => ∃ literal, trees = [ofLiteral literal] ∧ lexemes = [literal.lexeme]

end Symbol

namespace Derives

theorem denotes {symbol : Symbol} {trees : List Derivation} {lexemes : List Lexeme}
    (derives : Derives symbol trees lexemes) : symbol.Denotes trees lexemes := by
  induction derives with
  | start _ items =>
      rcases items with ⟨items, rfl, rfl⟩
      exact ⟨items, rfl, rfl⟩
  | noItem => exact ⟨[], rfl, by rw [Item.listLexemes]⟩
  | moreItems _ _ item items =>
      rcases item with ⟨item, rfl, rfl⟩
      rcases items with ⟨items, rfl, rfl⟩
      exact ⟨item :: items, rfl, by rw [Item.listLexemes]⟩
  | itemLet _ tree => exact tree
  | itemFunction _ tree => exact tree
  | itemIf _ tree => exact tree
  | itemLiteral _ tree =>
      rcases tree with ⟨literal, rfl, rfl⟩
      exact ⟨.literal literal, by rw [ofItem], by rw [Item.lexemes]⟩
  | itemConversion _ tree =>
      rcases tree with ⟨literal, target, rfl, rfl⟩
      exact ⟨.conversion literal target, by rw [ofItem], by rw [Item.lexemes]⟩
  | itemCall _ tree => exact tree
  | itemWord _ tree => exact tree
  | itemOperator _ tree => exact tree
  | itemBlock _ tree =>
      rcases tree with ⟨items, rfl, rfl⟩
      exact ⟨.block .start items, by rw [ofItem], by rw [Item.lexemes]⟩
  | block _ items =>
      rcases items with ⟨items, rfl, rfl⟩
      exact ⟨items, rfl, by rw [Item.blockLexemes]⟩
  | @letStatement name type _ _ _ _ _ initial =>
      rcases initial with ⟨initial, rfl, rfl⟩
      exact ⟨.letBinding .start name type initial, by rw [ofItem]; rfl, by
        rw [Item.lexemes]; rfl⟩
  | noInitializer => exact ⟨none, rfl, rfl⟩
  | someInitializer _ initial =>
      rcases initial with ⟨initial, rfl, rfl⟩
      exact ⟨some initial, rfl, by simp⟩
  | initializerLiteral _ tree =>
      rcases tree with ⟨literal, rfl, rfl⟩
      exact ⟨.literal literal, rfl, rfl⟩
  | initializerConversion _ tree =>
      rcases tree with ⟨literal, target, rfl, rfl⟩
      exact ⟨.conversion literal target, rfl, rfl⟩
  | @function name _ _ _ _ _ _ _ _ _ _ parameters result body =>
      rcases parameters with ⟨parameters, rfl, rfl⟩
      rcases result with ⟨result, rfl, rfl⟩
      rcases body with ⟨items, rfl, rfl⟩
      exact ⟨.function ⟨.start, name, parameters, result⟩ items, by rw [ofItem]; rfl,
        by rw [Item.lexemes]; simp [FunctionHeader.lexemes]⟩
  | noParameters => exact ⟨[], rfl, rfl⟩
  | someParameters _ parameters =>
      rcases parameters with ⟨first, rest, rfl, same⟩
      exact ⟨first :: rest, rfl, same⟩
  | parameters _ _ first rest =>
      rcases first with ⟨first, rfl, rfl⟩
      rcases rest with ⟨rest, rfl, rfl⟩
      exact ⟨first, rest, rfl, rfl⟩
  | noMoreParameters => exact ⟨[], rfl, rfl⟩
  | moreParameters _ _ first rest =>
      rcases first with ⟨first, rfl, rfl⟩
      rcases rest with ⟨rest, rfl, rfl⟩
      exact ⟨first :: rest, rfl, by simp⟩
  | @parameter type _ _ _ _ name =>
      rcases name with ⟨name, rfl, rfl⟩
      exact ⟨⟨type, name⟩, rfl, rfl⟩
  | noName => exact ⟨none, rfl, rfl⟩
  | @someName name _ => exact ⟨some name, rfl, rfl⟩
  | noResult => exact ⟨none, rfl, rfl⟩
  | @someResult type _ => exact ⟨some type, rfl, rfl⟩
  | ifStatement _ _ thenBlock elsePart =>
      rcases thenBlock with ⟨thenItems, rfl, rfl⟩
      rcases elsePart with ⟨rfl, rfl⟩ | ⟨elseItems, rfl, rfl⟩
      · exact ⟨.ifThen .start thenItems, by rw [ofItem]; rfl, by simp [Item.lexemes]⟩
      · exact ⟨.ifThenElse .start thenItems elseItems, by rw [ofItem]; rfl, by
          simp [Item.lexemes]⟩
  | noElse => exact Or.inl ⟨rfl, rfl⟩
  | someElse _ elseBlock =>
      rcases elseBlock with ⟨items, rfl, rfl⟩
      exact Or.inr ⟨items, rfl, rfl⟩
  | @conversion _ _ target _ _ literal =>
      rcases literal with ⟨literal, rfl, rfl⟩
      exact ⟨literal, target, rfl, rfl⟩
  | @string spelling _ => exact ⟨.string spelling, rfl, rfl⟩
  | @number spelling _ => exact ⟨.number spelling, rfl, rfl⟩
  | trueWord => exact ⟨.truth true .start, rfl, rfl⟩
  | falseWord => exact ⟨.truth false .start, rfl, rfl⟩
  | @call name _ => exact ⟨.call name, by rw [ofItem]; rfl, by rw [Item.lexemes]⟩
  | @word name _ => exact ⟨.word name, by rw [ofItem]; rfl, by rw [Item.lexemes]⟩
  | @operator symbol _ =>
      exact ⟨.operator symbol, by rw [ofItem]; rfl, by rw [Item.lexemes]⟩

end Derives

/-! ## Items are derived -/

def AllProper (lexemes : List Lexeme) : Prop := ∀ lexeme ∈ lexemes, lexeme.IsProper

namespace AllProper

theorem cons_iff {first : Lexeme} {rest : List Lexeme} :
    AllProper (first :: rest) ↔ first.IsProper ∧ AllProper rest := by
  simp [AllProper]

theorem append_iff {front back : List Lexeme} :
    AllProper (front ++ back) ↔ AllProper front ∧ AllProper back := by
  simp [AllProper, or_imp, forall_and]

end AllProper

section Parts

theorem derives_literal {value : Literal} (proper : value.lexeme.IsProper) :
    Derives .literal [ofLiteral value] [value.lexeme] := by
  rcases value with spelling | spelling | ⟨_ | _, position⟩
  · exact .string proper
  · exact .number proper
  · exact .falseWord
  · exact .trueWord

theorem derives_conversion {value : Literal} {target : Spelling}
    (proper : AllProper [value.lexeme, .punctuation .atSign, .name target]) :
    Derives .conversion [ofConversion value target]
      [value.lexeme, .punctuation .atSign, .name target] :=
  .conversion (derives_literal (proper _ (.head _))) (proper (.name target) (by simp))

theorem derives_optionalInitializer {initial : Option Initializer}
    (proper : AllProper (initial.toList.flatMap fun initial =>
      .punctuation .equal :: initial.lexemes)) :
    Derives .optionalInitializer [ofOption ofInitializer initial]
      (initial.toList.flatMap fun initial => .punctuation .equal :: initial.lexemes) := by
  rcases initial with _ | ⟨value⟩ | ⟨value, target⟩
  · exact .noInitializer
  · refine .someInitializer (.initializerLiteral (derives_literal (proper _ ?_)))
    simp [Initializer.lexemes]
  · refine .someInitializer (.initializerConversion (derives_conversion ?_))
    exact (AllProper.cons_iff.mp (by simpa [Initializer.lexemes] using proper)).2

theorem derives_parameter {parameter : ParameterItem}
    (proper : AllProper parameter.lexemes) :
    Derives .parameter [ofParameter parameter] parameter.lexemes := by
  rcases parameter with ⟨type, _ | name⟩
  · exact .parameter (proper _ (.head _)) .noName
  · exact .parameter (proper _ (.head _))
      (.someName (proper (.name name) (.tail _ (.head _))))

theorem derives_moreParameters {parameters : List ParameterItem}
    (proper : AllProper (parameters.flatMap fun parameter =>
      .punctuation .comma :: parameter.lexemes)) :
    Derives .moreParameters (parameters.map ofParameter)
      (parameters.flatMap fun parameter => .punctuation .comma :: parameter.lexemes) := by
  induction parameters with
  | nil => exact .noMoreParameters
  | cons first rest induction =>
      simp only [List.flatMap_cons, AllProper.append_iff, AllProper.cons_iff] at proper ⊢
      exact .moreParameters (derives_parameter proper.1.2) (induction proper.2)

theorem derives_optionalParameters {parameters : List ParameterItem}
    (proper : AllProper (ParameterItem.listLexemes parameters)) :
    Derives .optionalParameters [ofParameters parameters]
      (ParameterItem.listLexemes parameters) := by
  cases parameters with
  | nil => exact .noParameters
  | cons first rest =>
      simp only [ParameterItem.listLexemes, List.cons_append, AllProper.cons_iff,
        AllProper.append_iff] at proper ⊢
      exact .someParameters
        (.parameters (derives_parameter proper.2.1) (derives_moreParameters proper.2.2))

theorem derives_optionalResult {type : Option Spelling}
    (proper :
      AllProper (type.toList.flatMap fun type => [.punctuation .arrow, .name type])) :
    Derives .optionalResult [ofOption Derivation.name type]
      (type.toList.flatMap fun type => [.punctuation .arrow, .name type]) := by
  rcases type with _ | type
  · exact .noResult
  · exact .someResult (proper (.name type) (by simp))

end Parts

mutual

theorem Item.derives : (item : Item) → AllProper item.lexemes →
    Derives .item [ofItem item] item.lexemes
  | .letBinding start name type initial, proper => by
      simp only [Item.lexemes, Item.letLexemes, AllProper.append_iff, AllProper.cons_iff]
        at proper ⊢
      rw [ofItem]
      exact .itemLet (.letStatement proper.1.2.1 proper.1.2.2.2.1
        (derives_optionalInitializer proper.2))
  | .function header body, proper => by
      simp only [Item.lexemes, FunctionHeader.lexemes, List.cons_append,
        AllProper.append_iff, AllProper.cons_iff] at proper ⊢
      rw [ofItem]
      have derived :=
        Derives.function proper.2.1 (derives_optionalParameters proper.2.2.1.1)
          (derives_optionalResult proper.2.2.1.2) (Item.blockDerives body proper.2.2.2)
      simp only [List.cons_append, List.nil_append] at derived
      exact .itemFunction derived
  | .ifThen start thenBody, proper => by
      simp only [Item.lexemes, AllProper.cons_iff] at proper ⊢
      rw [ofItem]
      have derived := Derives.ifStatement (Item.blockDerives thenBody proper.2) .noElse
      rw [List.append_nil] at derived
      exact .itemIf derived
  | .ifThenElse start thenBody elseBody, proper => by
      simp only [Item.lexemes, List.cons_append, AllProper.append_iff, AllProper.cons_iff]
        at proper ⊢
      rw [ofItem]
      exact .itemIf (.ifStatement (Item.blockDerives thenBody proper.2.1)
        (.someElse (Item.blockDerives elseBody proper.2.2.2)))
  | .literal value, proper => by
      simp only [Item.lexemes, AllProper.cons_iff] at proper ⊢
      rw [ofItem]
      exact .itemLiteral (derives_literal proper.1)
  | .conversion value target, proper => by
      simp only [Item.lexemes] at proper ⊢
      rw [ofItem]
      exact .itemConversion (derives_conversion proper)
  | .call name, proper => by
      simp only [Item.lexemes, AllProper.cons_iff] at proper ⊢
      rw [ofItem]
      exact .itemCall (.call proper.1)
  | .word name, proper => by
      simp only [Item.lexemes, AllProper.cons_iff] at proper ⊢
      rw [ofItem]
      exact .itemWord (.word proper.1)
  | .operator symbol, proper => by
      simp only [Item.lexemes, AllProper.cons_iff] at proper ⊢
      rw [ofItem]
      exact .itemOperator (.operator proper.1)
  | .block start body, proper => by
      simp only [Item.lexemes] at proper ⊢
      rw [ofItem]
      exact .itemBlock (Item.blockDerives body proper)

theorem Item.blockDerives : (body : List Item) → AllProper (Item.blockLexemes body) →
    Derives .block [rule "block" (body.map ofItem)] (Item.blockLexemes body)
  | body, proper => by
      simp only [Item.blockLexemes, AllProper.append_iff, AllProper.cons_iff] at proper ⊢
      exact .block (Item.listDerives body proper.1.2)

theorem Item.listDerives : (items : List Item) → AllProper (Item.listLexemes items) →
    Derives .items (items.map ofItem) (Item.listLexemes items)
  | [], _ => by
      rw [Item.listLexemes]
      exact .noItem
  | item :: rest, proper => by
      simp only [Item.listLexemes, AllProper.append_iff] at proper ⊢
      exact .moreItems (Item.derives item proper.1) (Item.listDerives rest proper.2)

end

end StackLanguage
