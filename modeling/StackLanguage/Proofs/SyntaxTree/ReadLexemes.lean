import StackLanguage.Proofs.Token.Terminals
import StackLanguage.SyntaxTree.Reading

namespace StackLanguage

/-! The lexemes that a reading has gone through. Each token adds its own lexeme and
nothing is lost: a whole text is read into items that have the lexemes of the text. -/

namespace Item

theorem listLexemes_append (front back : List Item) :
    listLexemes (front ++ back) = listLexemes front ++ listLexemes back := by
  induction front with
  | nil => simp [listLexemes]
  | cons item rest induction => simp [listLexemes, induction]

end Item

namespace ParameterItem

def separator (parameters : List ParameterItem) : Lexeme :=
  if parameters.isEmpty then .punctuation .colon else .punctuation .comma

@[simp] theorem listLexemes_nil : listLexemes [] = [] := rfl

theorem listLexemes_concat (parameters : List ParameterItem) (parameter : ParameterItem) :
    listLexemes (parameters ++ [parameter]) =
      listLexemes parameters ++ separator parameters :: parameter.lexemes := by
  cases parameters <;> simp [listLexemes, separator]

end ParameterItem

namespace FunctionHeader

def openLexemes (header : FunctionHeader) : List Lexeme :=
  .keyword .funWord :: .name header.name :: ParameterItem.listLexemes header.parameters

end FunctionHeader

namespace Beginning

def lexemes : Beginning → List Lexeme
  | between _ => []
  | word name => [.name name]
  | callOpened name => [.name name, .punctuation .leftParenthesis]
  | literal value => [value.lexeme]
  | converting value => [value.lexeme, .punctuation .atSign]
  | letWord _ => [.keyword .letWord]
  | letName _ name => [.keyword .letWord, .name name]
  | letColon _ name => [.keyword .letWord, .name name, .punctuation .colon]
  | letType _ name type => Item.letLexemes name type
  | letEqual _ name type => Item.letLexemes name type ++ [.punctuation .equal]
  | letLiteral _ name type value =>
      Item.letLexemes name type ++ [.punctuation .equal, value.lexeme]
  | letConverting _ name type value =>
      Item.letLexemes name type ++
        [.punctuation .equal, value.lexeme, .punctuation .atSign]
  | funWord _ => [.keyword .funWord]
  | funName header | parameterName header => header.openLexemes
  | parameter header => header.openLexemes ++ [ParameterItem.separator header.parameters]
  | parameterType header type =>
      header.openLexemes ++ [ParameterItem.separator header.parameters, .name type]
  | arrow header => header.openLexemes ++ [.punctuation .arrow]
  | result header => header.lexemes
  | ifWord _ => [.keyword .ifWord]
  | thenBlock _ thenBody => .keyword .ifWord :: Item.blockLexemes thenBody
  | elseWord _ thenBody =>
      .keyword .ifWord :: Item.blockLexemes thenBody ++ [.keyword .elseWord]

def IsValid : Beginning → Prop
  | funName header => header.result = none ∧ header.parameters = []
  | parameter header | parameterType header _ | arrow header => header.result = none
  | parameterName header => header.result = none ∧ header.parameters ≠ []
  | _ => True

end Beginning

def Opener.lexemes : Opener → List Lexeme
  | block _ => []
  | function header => header.lexemes
  | thenBranch _ => [.keyword .ifWord]
  | elseBranch _ thenBody =>
      .keyword .ifWord :: Item.blockLexemes thenBody ++ [.keyword .elseWord]

def OpenBlock.listLexemes : List OpenBlock → List Lexeme
  | [] => []
  | block :: enclosing =>
      listLexemes enclosing ++ Item.listLexemes block.before.reverse ++
        block.opener.lexemes ++ [.punctuation .leftBrace]

namespace Reading

def lexemes (reading : Reading) : List Lexeme :=
  OpenBlock.listLexemes reading.enclosing ++ Item.listLexemes reading.items.reverse ++
    reading.beginning.lexemes

theorem lexemes_start : start.lexemes = [] := by
  simp [lexemes, start, OpenBlock.listLexemes, Item.listLexemes, Beginning.lexemes]

theorem settled?_lexemes {reading settled : Reading}
    (isSettled : reading.settled? = some settled) :
    settled.lexemes = reading.lexemes ∧ settled.beginning = .between false := by
  rcases reading with ⟨beginning, items, enclosing⟩
  rcases Option.map_eq_some_iff.mp isSettled with ⟨item, meaning, rfl⟩
  refine ⟨?_, rfl⟩
  cases beginning <;> cases meaning <;>
    simp [lexemes, Beginning.lexemes, Item.listLexemes_append, Item.listLexemes,
      Item.lexemes, Initializer.lexemes]

theorem complete_lexemes (reading : Reading) (item : Item) :
    (reading.complete item).lexemes =
      OpenBlock.listLexemes reading.enclosing ++ Item.listLexemes reading.items.reverse ++
        item.lexemes := by
  simp [lexemes, complete, Beginning.lexemes, Item.listLexemes_append, Item.listLexemes]

theorem openBlock_lexemes (reading : Reading) (opener : Opener) :
    (reading.openBlock opener).lexemes =
      OpenBlock.listLexemes reading.enclosing ++ Item.listLexemes reading.items.reverse ++
        opener.lexemes ++ [.punctuation .leftBrace] := by
  simp [lexemes, openBlock, OpenBlock.listLexemes, Beginning.lexemes, Item.listLexemes]

theorem closeBlock?_lexemes {reading next : Reading} {afterBlock : Bool}
    (isBetween : reading.beginning = .between afterBlock)
    (closed : reading.closeBlock? = some next) :
    next.beginning.IsValid ∧
      next.lexemes = reading.lexemes ++ [.punctuation .rightBrace] := by
  rcases reading with ⟨beginning, items, _ | ⟨⟨opener, before⟩, enclosing⟩⟩
  · cases closed
  · cases isBetween
    cases opener <;> cases closed <;>
      simp [lexemes, OpenBlock.listLexemes, Opener.lexemes, Beginning.lexemes,
        Beginning.IsValid, Item.listLexemes_append, Item.listLexemes, Item.lexemes,
        Item.blockLexemes]

theorem literalOf?_lexeme {token : Token} {literal : Literal}
    (isLiteral : literalOf? token = some literal) (proper : token.lexeme.IsProper) :
    literal.lexeme = token.lexeme := by
  unfold literalOf? at isLiteral
  split at isLiteral <;> cases isLiteral
  · next same => exact (Token.lexeme_eq same).symm
  · next same => exact (Token.lexeme_eq same).symm
  · next same => exact (proper.eq_keyword same).symm
  · next same => exact (proper.eq_keyword same).symm

theorem beginItem?_lexemes {reading next : Reading} {afterBlock : Bool}
    (isBetween : reading.beginning = .between afterBlock) {token : Token}
    (proper : token.lexeme.IsProper) (begun : reading.beginItem? token = some next) :
    next.beginning.IsValid ∧ next.lexemes = reading.lexemes ++ [token.lexeme] := by
  rcases reading with ⟨beginning, items, enclosing⟩
  cases isBetween
  unfold beginItem? at begun
  split at begun
  · next same =>
      cases begun
      exact ⟨trivial, by
        simp [lexemes, Beginning.lexemes, Lexeme.name, Token.lexeme_eq same]⟩
  · next same =>
      cases begun
      rw [complete_lexemes]
      exact ⟨trivial, by
        simp [lexemes, Beginning.lexemes, Item.lexemes, Token.lexeme_eq same]⟩
  · next same =>
      cases begun
      exact ⟨trivial, by simp [lexemes, Beginning.lexemes, proper.eq_keyword same]⟩
  · next same =>
      cases begun
      exact ⟨trivial, by simp [lexemes, Beginning.lexemes, proper.eq_keyword same]⟩
  · next same =>
      cases begun
      exact ⟨trivial, by simp [lexemes, Beginning.lexemes, proper.eq_keyword same]⟩
  · next same =>
      cases begun
      rw [openBlock_lexemes]
      exact ⟨trivial, by
        simp [lexemes, Beginning.lexemes, Opener.lexemes, proper.eq_punctuation same]⟩
  · next same =>
      rw [proper.eq_punctuation same]
      exact closeBlock?_lexemes rfl begun
  · rcases Option.map_eq_some_iff.mp begun with ⟨literal, isLiteral, rfl⟩
    rw [← literalOf?_lexeme isLiteral proper]
    exact ⟨trivial, by simp [lexemes, Beginning.lexemes]⟩

theorem step?_lexemes {reading next : Reading} (valid : reading.beginning.IsValid)
    {token : Token} (proper : token.lexeme.IsProper)
    (stepped : reading.step? token = some next) :
    next.beginning.IsValid ∧ next.lexemes = reading.lexemes ++ [token.lexeme] := by
  rcases reading with ⟨beginning, items, enclosing⟩
  unfold step? at stepped
  dsimp only at stepped valid
  split at stepped
  case h_9 before =>
    rcases Option.map_eq_some_iff.mp stepped with ⟨literal, isLiteral, rfl⟩
    rw [← literalOf?_lexeme isLiteral proper]
    exact ⟨trivial, by simp [lexemes, Beginning.lexemes]⟩
  case h_29 =>
    rcases Option.bind_eq_some_iff.mp stepped with ⟨settled, isSettled, begun⟩
    rcases settled?_lexemes isSettled with ⟨same, isBetween⟩
    rw [← same]
    exact beginItem?_lexemes isBetween proper begun
  all_goals
    rename_i before same
    cases stepped
    first
      | rw [proper.eq_punctuation same]
      | rw [proper.eq_keyword same]
      | rw [Token.lexeme_eq same]
    simp_all [lexemes, Beginning.lexemes, Beginning.IsValid, complete, openBlock,
      OpenBlock.listLexemes, Item.listLexemes_append, Item.listLexemes, Item.lexemes,
      Opener.lexemes, Item.letLexemes, Initializer.lexemes, Lexeme.name,
      FunctionHeader.lexemes, FunctionHeader.openLexemes, FunctionHeader.withParameter,
      ParameterItem.listLexemes_concat, ParameterItem.lexemes, ParameterItem.separator]

theorem finish?_lexemes {reading : Reading} {items : List Item}
    (finished : reading.finish? = some items) :
    Item.listLexemes items = reading.lexemes := by
  rcases Option.bind_eq_some_iff.mp finished with ⟨settled, isSettled, ended⟩
  rcases settled?_lexemes isSettled with ⟨same, isBetween⟩
  rw [← same]
  split at ended
  · next noBlock =>
      cases ended
      simp [lexemes, isBetween, Beginning.lexemes, List.isEmpty_iff.mp noBlock,
        OpenBlock.listLexemes]
  · cases ended

end Reading

end StackLanguage
