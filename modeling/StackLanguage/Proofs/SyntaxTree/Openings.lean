import StackLanguage.Proofs.SyntaxTree.ReadLexemes
import StackLanguage.Proofs.SyntaxTree.ReadTokens

namespace StackLanguage

/-! Which lexemes stand before an item, at any depth. The token that starts an item is the
one after as many lexemes, so that the place which the item keeps is the place of its
first token. -/

namespace Item

structure Occurrence where
  before : List Lexeme
  item : Item

mutual

def occurrences (before : List Lexeme) : Item → List Occurrence
  | function header body =>
      ⟨before, function header body⟩ ::
        listOccurrences (before ++ header.lexemes ++ [.punctuation .leftBrace]) body
  | ifThen start thenBody =>
      ⟨before, ifThen start thenBody⟩ ::
        listOccurrences (before ++ [.keyword .ifWord, .punctuation .leftBrace]) thenBody
  | ifThenElse start thenBody elseBody =>
      ⟨before, ifThenElse start thenBody elseBody⟩ ::
        (listOccurrences (before ++ [.keyword .ifWord, .punctuation .leftBrace])
          thenBody ++
          listOccurrences (before ++ .keyword .ifWord :: blockLexemes thenBody ++
            [.keyword .elseWord, .punctuation .leftBrace]) elseBody)
  | block start body =>
      ⟨before, block start body⟩ ::
        listOccurrences (before ++ [.punctuation .leftBrace]) body
  | letBinding start name type initial => [⟨before, letBinding start name type initial⟩]
  | literal value => [⟨before, literal value⟩]
  | conversion value target => [⟨before, conversion value target⟩]
  | call name => [⟨before, call name⟩]
  | word name => [⟨before, word name⟩]
  | operator symbol => [⟨before, operator symbol⟩]

def listOccurrences (before : List Lexeme) : List Item → List Occurrence
  | [] => []
  | item :: rest =>
      item.occurrences before ++ listOccurrences (before ++ item.lexemes) rest

end

mutual

theorem occurrences_isPrefix {before : List Lexeme} {item : Item}
    {occurrence : Occurrence} (member : occurrence ∈ item.occurrences before) :
    occurrence.before ++ occurrence.item.lexemes <+: before ++ item.lexemes := by
  cases item with
  | function header body =>
      rcases List.mem_cons.mp member with rfl | member
      · exact List.prefix_rfl
      · refine (listOccurrences_isPrefix member).trans ?_
        simp [lexemes, blockLexemes]
  | ifThen start thenBody =>
      rcases List.mem_cons.mp member with rfl | member
      · exact List.prefix_rfl
      · refine (listOccurrences_isPrefix member).trans ?_
        simp [lexemes, blockLexemes]
  | ifThenElse start thenBody elseBody =>
      rcases List.mem_cons.mp member with rfl | member
      · exact List.prefix_rfl
      · rcases List.mem_append.mp member with member | member <;>
          refine (listOccurrences_isPrefix member).trans ?_ <;>
          simp [lexemes, blockLexemes]
  | block start body =>
      rcases List.mem_cons.mp member with rfl | member
      · exact List.prefix_rfl
      · refine (listOccurrences_isPrefix member).trans ?_
        simp [lexemes, blockLexemes]
  | _ =>
      rcases List.mem_singleton.mp member with rfl
      exact List.prefix_rfl

theorem listOccurrences_isPrefix {before : List Lexeme} {items : List Item}
    {occurrence : Occurrence} (member : occurrence ∈ listOccurrences before items) :
    occurrence.before ++ occurrence.item.lexemes <+: before ++ listLexemes items := by
  cases items with
  | nil => cases member
  | cons item rest =>
      rw [listLexemes, ← List.append_assoc]
      rcases List.mem_append.mp member with member | member
      · exact (occurrences_isPrefix member).trans (List.prefix_append _ _)
      · exact listOccurrences_isPrefix member

end

structure Opening where
  before : List Lexeme
  position : Position

def Occurrence.opening (occurrence : Occurrence) : Opening :=
  ⟨occurrence.before, occurrence.item.position⟩

def openings (before : List Lexeme) (item : Item) : List Opening :=
  (item.occurrences before).map Occurrence.opening

def listOpenings (before : List Lexeme) (items : List Item) : List Opening :=
  (listOccurrences before items).map Occurrence.opening

@[simp] theorem listOpenings_nil (before : List Lexeme) :
    listOpenings before [] = [] := by
  simp [listOpenings, listOccurrences]

@[simp] theorem listOpenings_cons (before : List Lexeme) (item : Item)
    (rest : List Item) :
    listOpenings before (item :: rest) =
      item.openings before ++ listOpenings (before ++ item.lexemes) rest := by
  simp [listOpenings, openings, listOccurrences]

@[simp] theorem map_opening_listOccurrences (before : List Lexeme) (items : List Item) :
    (listOccurrences before items).map Occurrence.opening = listOpenings before items :=
  rfl

theorem listOpenings_append (before : List Lexeme) (front back : List Item) :
    listOpenings before (front ++ back) =
      listOpenings before front ++ listOpenings (before ++ listLexemes front) back := by
  induction front generalizing before with
  | nil => simp [listLexemes]
  | cons item rest induction => simp [listLexemes, induction]

end Item

namespace Beginning

def openings (before : List Lexeme) : Beginning → List Item.Opening
  | between _ => []
  | word name | callOpened name => [⟨before, name.position⟩]
  | literal value | converting value => [⟨before, value.position⟩]
  | letWord start | letName start _ | letColon start _ | letType start _ _ | letEqual
    start _ _
  | letLiteral start _ _ _ | letConverting start _ _ _ => [⟨before, start⟩]
  | funWord start | ifWord start => [⟨before, start⟩]
  | funName header | parameter header | parameterType header _ | parameterName header
  | arrow header | result header => [⟨before, header.start⟩]
  | thenBlock start thenBody | elseWord start thenBody =>
      ⟨before, start⟩ ::
        Item.listOpenings (before ++ [.keyword .ifWord, .punctuation .leftBrace]) thenBody

end Beginning

def Opener.openings (before : List Lexeme) : Opener → List Item.Opening
  | block start | thenBranch start => [⟨before, start⟩]
  | function header => [⟨before, header.start⟩]
  | elseBranch start thenBody =>
      ⟨before, start⟩ ::
        Item.listOpenings (before ++ [.keyword .ifWord, .punctuation .leftBrace]) thenBody

def OpenBlock.listOpenings : List OpenBlock → List Item.Opening
  | [] => []
  | block :: enclosing =>
      listOpenings enclosing ++
        Item.listOpenings (listLexemes enclosing) block.before.reverse ++
        block.opener.openings
          (listLexemes enclosing ++ Item.listLexemes block.before.reverse)

namespace Token

def openings (before : List Lexeme) : List Token → List Item.Opening
  | [] => []
  | token :: rest => ⟨before, token.position⟩ :: openings (before ++ [token.lexeme]) rest

theorem openings_position (before : List Lexeme) (tokens : List Token) :
    (openings before tokens).map Item.Opening.position = tokens.map Token.position := by
  induction tokens generalizing before with
  | nil => rfl
  | cons token rest induction => simp [openings, induction]

theorem exists_split_of_mem_openings {before : List Lexeme} {tokens : List Token}
    {opening : Item.Opening} (member : opening ∈ openings before tokens) :
    ∃ front token back, tokens = front ++ token :: back ∧
      opening = ⟨before ++ front.map Token.lexeme, token.position⟩ := by
  induction tokens generalizing before with
  | nil => cases member
  | cons token rest induction =>
      rcases List.mem_cons.mp member with rfl | member
      · exact ⟨[], token, rest, rfl, by simp⟩
      · rcases induction member with ⟨front, other, back, rfl, rfl⟩
        exact ⟨token :: front, other, back, rfl, by simp⟩

end Token

namespace Reading

def completeLexemes (reading : Reading) : List Lexeme :=
  OpenBlock.listLexemes reading.enclosing ++ Item.listLexemes reading.items.reverse

def openings (reading : Reading) : List Item.Opening :=
  OpenBlock.listOpenings reading.enclosing ++
    Item.listOpenings (OpenBlock.listLexemes reading.enclosing) reading.items.reverse ++
    reading.beginning.openings reading.completeLexemes

theorem settled?_openings {reading settled : Reading}
    (isSettled : reading.settled? = some settled) :
    settled.openings = reading.openings := by
  rcases reading with ⟨beginning, items, enclosing⟩
  rcases Option.map_eq_some_iff.mp isSettled with ⟨item, meaning, rfl⟩
  cases beginning <;> cases meaning <;>
    simp [openings, completeLexemes, Beginning.openings, Item.listOpenings_append,
      Item.openings, Item.occurrences, Item.Occurrence.opening, Item.position]

theorem literalOf?_position {token : Token} {literal : Literal}
    (isLiteral : literalOf? token = some literal) :
    literal.position = token.position := by
  unfold literalOf? at isLiteral
  split at isLiteral <;> cases isLiteral <;> rfl

theorem closeBlock?_openings {reading next : Reading} {afterBlock : Bool}
    (isBetween : reading.beginning = .between afterBlock)
    (closed : reading.closeBlock? = some next) : next.openings = reading.openings := by
  rcases reading with ⟨beginning, items, _ | ⟨⟨opener, before⟩, enclosing⟩⟩
  · cases closed
  · cases isBetween
    cases opener <;> cases closed <;>
      simp [openings, completeLexemes, OpenBlock.listOpenings, OpenBlock.listLexemes,
        Opener.openings, Opener.lexemes, Beginning.openings, Item.listOpenings_append,
        Item.openings, Item.occurrences, Item.Occurrence.opening, Item.position]

theorem beginItem?_openings {reading next : Reading} {afterBlock : Bool}
    (isBetween : reading.beginning = .between afterBlock) {token : Token}
    (begun : reading.beginItem? token = some next) :
    next.openings = reading.openings ∨
      next.openings = reading.openings ++ [⟨reading.lexemes, token.position⟩] := by
  rcases reading with ⟨beginning, items, enclosing⟩
  cases isBetween
  unfold beginItem? at begun
  split at begun
  case h_7 => exact .inl (closeBlock?_openings rfl begun)
  case h_8 =>
    rcases Option.map_eq_some_iff.mp begun with ⟨literal, isLiteral, rfl⟩
    exact .inr (by
      simp [openings, completeLexemes, lexemes, Beginning.lexemes, Beginning.openings,
        literalOf?_position isLiteral])
  all_goals
    cases begun
    simp [openings, completeLexemes, lexemes, Beginning.lexemes, Beginning.openings,
      complete, openBlock, OpenBlock.listOpenings, Item.listOpenings_append,
      Item.openings, Item.occurrences, Item.Occurrence.opening, Item.position,
      Opener.openings]

theorem step?_openings {reading next : Reading} {token : Token}
    (stepped : reading.step? token = some next) :
    next.openings = reading.openings ∨
      next.openings = reading.openings ++ [⟨reading.lexemes, token.position⟩] := by
  rcases reading with ⟨beginning, items, enclosing⟩
  unfold step? at stepped
  dsimp only at stepped
  split at stepped
  case h_9 =>
    rcases Option.map_eq_some_iff.mp stepped with ⟨literal, _, rfl⟩
    exact .inl rfl
  case h_29 =>
    rcases Option.bind_eq_some_iff.mp stepped with ⟨settled, isSettled, begun⟩
    rcases settled?_lexemes isSettled with ⟨same, isBetween⟩
    rw [← same, ← settled?_openings isSettled]
    exact beginItem?_openings isBetween begun
  all_goals
    cases stepped
    simp [openings, completeLexemes, Beginning.openings, complete, openBlock,
      OpenBlock.listOpenings, Item.listOpenings_append, Item.openings, Item.occurrences,
      Item.Occurrence.opening, Item.position, Opener.openings,
      FunctionHeader.withParameter]

theorem steps?_openings {reading final : Reading} (valid : reading.beginning.IsValid)
    {tokens : List Token} (proper : ∀ token ∈ tokens, token.lexeme.IsProper)
    (steps : reading.steps? tokens = some final) :
    ∃ opened : List Item.Opening, opened.Sublist (Token.openings reading.lexemes tokens) ∧
      final.openings = reading.openings ++ opened := by
  induction tokens generalizing reading with
  | nil =>
      cases steps
      exact ⟨[], .slnil, by simp⟩
  | cons token rest induction =>
      rcases Option.bind_eq_some_iff.mp steps with ⟨next, stepped, moreSteps⟩
      rw [List.forall_mem_cons] at proper
      rcases step?_lexemes valid proper.1 stepped with ⟨nextValid, lexemes⟩
      rcases induction nextValid proper.2 moreSteps with ⟨opened, sublist, same⟩
      rw [lexemes] at sublist
      cases step?_openings stepped with
      | inl unchanged => exact ⟨opened, sublist.cons _, by rw [same, unchanged]⟩
      | inr added => exact ⟨_ :: opened, sublist.cons_cons _, by rw [same, added]; simp⟩

theorem finish?_openings {reading : Reading} {items : List Item}
    (finished : reading.finish? = some items) :
    Item.listOpenings [] items = reading.openings := by
  rcases Option.bind_eq_some_iff.mp finished with ⟨settled, isSettled, ended⟩
  rw [← settled?_openings isSettled]
  split at ended
  · next noBlock =>
      cases ended
      simp [openings, (settled?_lexemes isSettled).2, Beginning.openings,
        List.isEmpty_iff.mp noBlock, OpenBlock.listOpenings, OpenBlock.listLexemes]
  · cases ended

end Reading

end StackLanguage
