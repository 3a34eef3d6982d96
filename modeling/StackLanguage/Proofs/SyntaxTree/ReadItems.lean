import StackLanguage.Proofs.SyntaxTree.ReadTokens
import StackLanguage.SyntaxTree.Derivation

namespace StackLanguage

/-! The tokens that items are written with are read back into the same items, whatever
places they have. Trees are compared without the places of their tokens. -/

namespace Derivation

def unplaced : Derivation → Derivation
  | rule name children => rule name (children.map unplaced)
  | token ⟨terminal, text, _⟩ => token ⟨terminal, text, .start⟩
  | absent => absent

end Derivation

open StackLanguage.Derivation (ofItem ofLiteral ofParameter rule)

def Item.shape (item : Item) : Derivation := (ofItem item).unplaced

namespace Reading

theorem steps?_append (reading : Reading) (front back : List Token) :
    reading.steps? (front ++ back) = (reading.steps? front).bind (·.steps? back) := by
  induction front generalizing reading with
  | nil => rfl
  | cons token rest induction =>
      simp only [List.cons_append, steps?]
      cases reading.step? token with
      | none => rfl
      | some next => exact induction next

theorem step?_of_settled {reading settled : Reading}
    (isSettled : reading.settled? = some settled) {token : Token}
    (begins : token.terminal ∉ [.punctuation .leftParenthesis, .punctuation .atSign,
      .punctuation .equal, .keyword .elseWord]) :
    reading.step? token = settled.beginItem? token := by
  rcases reading with ⟨beginning, items, enclosing⟩
  rcases Option.map_eq_some_iff.mp isSettled with ⟨item, meaning, rfl⟩
  rcases token with ⟨terminal, text, position⟩
  cases beginning <;> cases meaning <;>
    rcases terminal with _ | _ | _ | _ | _ | ⟨⟨⟩⟩ | ⟨⟨⟩⟩ <;>
      first | rfl | exact absurd (by simp) begins

end Reading

theorem Reading.literalOf?_of_lexeme {token : Token} {literal : Literal}
    (same : token.lexeme = literal.lexeme) :
    ∃ read, literalOf? token = some read ∧
      (ofLiteral read).unplaced = (ofLiteral literal).unplaced := by
  rcases token with ⟨terminal, text, position⟩
  rcases literal with spelling | spelling | ⟨_ | _, _⟩ <;> cases same <;>
    exact ⟨_, rfl, by simp [ofLiteral, Derivation.unplaced]⟩

theorem Token.eq_name {token : Token} {name : Spelling}
    (same : token.lexeme = .name name) : token = ⟨.name, name.text, token.position⟩ := by
  rcases token with ⟨terminal, text, position⟩
  cases same
  rfl

namespace Reading

def betweenItems (items : List Item) (enclosing : List OpenBlock) : Reading :=
  ⟨.between false, items, enclosing⟩

def ReadsItem (reading : Reading) (items : List Item) (enclosing : List OpenBlock)
    (tokens : List Token) (shape : Derivation) : Prop :=
  ∃ next read, reading.steps? tokens = some next ∧
    next.settled? = some (betweenItems (read :: items) enclosing) ∧ read.shape = shape

def ReadsItems (reading : Reading) (items : List Item) (enclosing : List OpenBlock)
    (tokens : List Token) (shapes : List Derivation) : Prop :=
  ∃ (next : Reading) (read : List Item), reading.steps? tokens = some next ∧
    next.settled? = some (betweenItems (read.reverse ++ items) enclosing) ∧
      read.map Item.shape = shapes

theorem ReadsItem.of_steps {reading other : Reading} {items : List Item}
    {enclosing : List OpenBlock} {tokens rest : List Token} {shape : Derivation}
    (reads : other.ReadsItem items enclosing rest shape)
    (same : reading.steps? tokens = other.steps? rest) :
    reading.ReadsItem items enclosing tokens shape := by
  rcases reads with ⟨next, read, steps, settles, isShape⟩
  exact ⟨next, read, same.trans steps, settles, isShape⟩

theorem readsItem_initializer (items : List Item) (enclosing : List OpenBlock)
    (start : Position) (name type : Spelling) {initial : Option Initializer}
    {tokens : List Token} (same : tokens.map Token.lexeme =
      initial.toList.flatMap fun initial => .punctuation .equal :: initial.lexemes) :
    (⟨.letType start name type, items, enclosing⟩ : Reading).ReadsItem items
      enclosing tokens (Item.letBinding start name type initial).shape := by
  rcases initial with _ | ⟨literal⟩ | ⟨literal, target⟩
  · simp only [Option.toList_none, List.flatMap_nil, List.map_eq_nil_iff] at same
    subst same
    exact ⟨_, _, rfl, rfl, rfl⟩
  · simp only [Option.toList_some, List.flatMap_singleton, Initializer.lexemes,
      List.map_eq_cons_iff, List.map_eq_nil_iff] at same
    rcases same with ⟨⟨_, _, _⟩, _, rfl, isEqual, token, _, rfl, same, rfl⟩
    cases isEqual
    rcases literalOf?_of_lexeme same with ⟨read, isLiteral, shape⟩
    refine ⟨⟨.letLiteral start name type read, items, enclosing⟩, _, ?_, rfl, ?_⟩
    · simp [steps?, step?, isLiteral]
    · simp [Item.shape, ofItem, Derivation.ofOption, Derivation.ofInitializer,
        Derivation.unplaced, shape]
  · simp only [Option.toList_some, List.flatMap_singleton, Initializer.lexemes,
      List.map_eq_cons_iff, List.map_eq_nil_iff] at same
    rcases same with
      ⟨⟨_, _, _⟩, _, rfl, isEqual, token, _, rfl, same, ⟨_, _, _⟩, _, rfl, isAt,
        last, _, rfl, isTarget, rfl⟩
    cases isEqual
    cases isAt
    rw [Token.eq_name isTarget]
    rcases literalOf?_of_lexeme same with ⟨read, isLiteral, shape⟩
    refine ⟨betweenItems
      (.letBinding start name type
        (some (.conversion read ⟨target.text, last.position⟩)) :: items)
      enclosing, _, ?_, rfl, ?_⟩
    · simp [steps?, step?, isLiteral, complete, betweenItems]
    · simp [Item.shape, ofItem, Derivation.ofOption, Derivation.ofInitializer,
        Derivation.ofConversion, Derivation.name, Derivation.unplaced, shape]

section Items

variable {reading : Reading} {items : List Item} {enclosing : List OpenBlock}
variable (isSettled : reading.settled? = some (betweenItems items enclosing))

include isSettled

theorem steps?_begin {token : Token} {begun : Reading} {rest : List Token}
    (begins : token.terminal ∉ [.punctuation .leftParenthesis, .punctuation .atSign,
      .punctuation .equal, .keyword .elseWord])
    (isBegun : (betweenItems items enclosing).beginItem? token = some begun) :
    reading.steps? (token :: rest) = begun.steps? rest := by
  rw [steps?, step?_of_settled isSettled begins, isBegun]
  rfl

theorem readsItem_word {name : Spelling} {tokens : List Token}
    (same : tokens.map Token.lexeme = [.name name]) :
    reading.ReadsItem items enclosing tokens (Item.word name).shape := by
  simp only [List.map_eq_cons_iff, List.map_eq_nil_iff] at same
  rcases same with ⟨token, _, rfl, same, rfl⟩
  rw [Token.eq_name same]
  refine ⟨_, .word ⟨name.text, token.position⟩, steps?_begin isSettled (by simp) rfl, rfl,
    ?_⟩
  simp [Item.shape, ofItem, Derivation.name, Derivation.unplaced]

theorem readsItem_call {name : Spelling} {tokens : List Token}
    (same : tokens.map Token.lexeme =
      [.name name, .punctuation .leftParenthesis, .punctuation .rightParenthesis]) :
    reading.ReadsItem items enclosing tokens (Item.call name).shape := by
  simp only [List.map_eq_cons_iff, List.map_eq_nil_iff] at same
  rcases same with
    ⟨token, _, rfl, same, ⟨_, _, opening⟩, _, rfl, opens, ⟨_, _, closing⟩, _, rfl,
      closes, rfl⟩
  rw [Token.eq_name same]
  cases opens
  cases closes
  refine ⟨_, .call ⟨name.text, token.position⟩,
    (steps?_begin isSettled (by simp) rfl).trans rfl, rfl, ?_⟩
  simp [Item.shape, ofItem, Derivation.name, Derivation.unplaced]

theorem readsItem_operator {symbol : Spelling} {tokens : List Token}
    (same : tokens.map Token.lexeme = [⟨.operator, symbol.text⟩]) :
    reading.ReadsItem items enclosing tokens (Item.operator symbol).shape := by
  simp only [List.map_eq_cons_iff, List.map_eq_nil_iff] at same
  rcases same with ⟨⟨_, _, position⟩, _, rfl, same, rfl⟩
  cases same
  refine ⟨_, .operator ⟨symbol.text, position⟩, steps?_begin isSettled (by simp) rfl, rfl,
    ?_⟩
  simp [Item.shape, ofItem, Derivation.unplaced]

theorem steps?_literal {token : Token} {literal : Literal} {rest : List Token}
    (isLiteral : literalOf? token = some literal) :
    reading.steps? (token :: rest) =
      (⟨.literal literal, items, enclosing⟩ : Reading).steps? rest := by
  rcases token with ⟨terminal, text, position⟩
  have begins : terminal ∉ [.punctuation .leftParenthesis, .punctuation .atSign,
      .punctuation .equal, .keyword .elseWord] := by
    intro member
    simp only [List.mem_cons, List.not_mem_nil, or_false] at member
    rcases member with rfl | rfl | rfl | rfl <;> cases isLiteral
  refine steps?_begin isSettled begins ?_
  rcases terminal with _ | _ | _ | _ | _ | ⟨⟨⟩⟩ | ⟨⟨⟩⟩ <;> cases isLiteral <;> rfl

theorem readsItem_literal {literal : Literal} {tokens : List Token}
    (same : tokens.map Token.lexeme = [literal.lexeme]) :
    reading.ReadsItem items enclosing tokens (Item.literal literal).shape := by
  simp only [List.map_eq_cons_iff, List.map_eq_nil_iff] at same
  rcases same with ⟨token, _, rfl, same, rfl⟩
  rcases literalOf?_of_lexeme same with ⟨read, isLiteral, shape⟩
  refine ⟨_, .literal read, steps?_literal isSettled isLiteral, rfl, ?_⟩
  simpa [Item.shape, ofItem] using shape

theorem readsItem_conversion {literal : Literal} {target : Spelling} {tokens : List Token}
    (same : tokens.map Token.lexeme =
      [literal.lexeme, .punctuation .atSign, .name target]) :
    reading.ReadsItem items enclosing tokens (Item.conversion literal target).shape := by
  simp only [List.map_eq_cons_iff, List.map_eq_nil_iff] at same
  rcases same with
    ⟨token, _, rfl, same, ⟨_, _, place⟩, _, rfl, isAt, type, _, rfl, isType, rfl⟩
  rcases literalOf?_of_lexeme same with ⟨read, isLiteral, shape⟩
  cases isAt
  rw [Token.eq_name isType]
  refine ⟨_, .conversion read ⟨target.text, type.position⟩,
    (steps?_literal isSettled isLiteral).trans rfl, rfl, ?_⟩
  simp [Item.shape, ofItem, Derivation.ofConversion, Derivation.name, Derivation.unplaced,
    shape]

theorem readsItem_letBinding {start : Position} {name type : Spelling}
    {initial : Option Initializer} {tokens : List Token}
    (same : tokens.map Token.lexeme = (Item.letBinding start name type initial).lexemes) :
    reading.ReadsItem items enclosing tokens
      (Item.letBinding start name type initial).shape := by
  simp only [Item.lexemes, Item.letLexemes, List.cons_append, List.nil_append,
    List.map_eq_cons_iff] at same
  rcases same with
    ⟨⟨_, _, place⟩, _, rfl, isLet, bound, _, rfl, isBound, ⟨_, _, colon⟩, _, rfl,
      isColon, declared, after, rfl, isDeclared, same⟩
  cases isLet
  cases isColon
  rw [Token.eq_name isBound, Token.eq_name isDeclared]
  have reads := readsItem_initializer items enclosing place ⟨name.text, bound.position⟩
    ⟨type.text, declared.position⟩ same
  have shape :
      (Item.letBinding place ⟨name.text, bound.position⟩ ⟨type.text, declared.position⟩
        initial).shape = (Item.letBinding start name type initial).shape := by
    simp [Item.shape, ofItem, Derivation.name, Derivation.unplaced]
  rw [← shape]
  exact reads.of_steps ((steps?_begin isSettled (by simp) rfl).trans rfl)

end Items

/-! ## Headers of functions -/

def afterParameter? : Beginning → Option FunctionHeader
  | .parameterType header type => some (header.withParameter type none)
  | .parameterName header => some header
  | _ => none

def header? : Beginning → Option FunctionHeader
  | .funName header | .result header => some header
  | beginning => afterParameter? beginning

def parameterShapes (parameters : List ParameterItem) : List Derivation :=
  parameters.map fun parameter => (ofParameter parameter).unplaced

def addParameters (header : FunctionHeader) (parameters : List ParameterItem) :
    FunctionHeader :=
  { header with parameters := header.parameters ++ parameters }

section Headers

variable (items : List Item) (enclosing : List OpenBlock)

theorem steps?_parameter (header : FunctionHeader) {parameter : ParameterItem}
    {tokens : List Token} (same : tokens.map Token.lexeme = parameter.lexemes) :
    ∃ beginning read,
      (⟨.parameter header, items, enclosing⟩ : Reading).steps? tokens =
        some ⟨beginning, items, enclosing⟩ ∧
      afterParameter? beginning = some (addParameters header [read]) ∧
      (ofParameter read).unplaced = (ofParameter parameter).unplaced := by
  rcases parameter with ⟨type, _ | name⟩
  · simp only [ParameterItem.lexemes, Option.toList_none, List.map_nil,
      List.map_eq_cons_iff, List.map_eq_nil_iff] at same
    rcases same with ⟨token, _, rfl, isType, rfl⟩
    rw [Token.eq_name isType]
    refine ⟨_, ⟨⟨type.text, token.position⟩, none⟩, rfl, rfl, ?_⟩
    simp [ofParameter, Derivation.ofOption, Derivation.name, Derivation.unplaced]
  · simp only [ParameterItem.lexemes, Option.toList_some, List.map_cons, List.map_nil,
      List.map_eq_cons_iff, List.map_eq_nil_iff] at same
    rcases same with ⟨first, _, rfl, isType, second, _, rfl, isName, rfl⟩
    rw [Token.eq_name isType, Token.eq_name isName]
    refine ⟨_, ⟨⟨type.text, first.position⟩, some ⟨name.text, second.position⟩⟩, rfl, rfl,
      ?_⟩
    simp [ofParameter, Derivation.ofOption, Derivation.name, Derivation.unplaced]

theorem steps?_moreParameters {beginning : Beginning} {header : FunctionHeader}
    (isAfter : afterParameter? beginning = some header) {parameters : List ParameterItem}
    {tokens : List Token}
    (same : tokens.map Token.lexeme =
      parameters.flatMap fun parameter => .punctuation .comma :: parameter.lexemes) :
    ∃ last read,
      (⟨beginning, items, enclosing⟩ : Reading).steps? tokens =
        some ⟨last, items, enclosing⟩ ∧
      afterParameter? last = some (addParameters header read) ∧
      parameterShapes read = parameterShapes parameters := by
  induction parameters generalizing beginning header tokens with
  | nil =>
      simp only [List.flatMap_nil, List.map_eq_nil_iff] at same
      subst same
      exact ⟨beginning, [], rfl, by simp [isAfter, addParameters], rfl⟩
  | cons parameter rest induction =>
      simp only [List.flatMap_cons, List.cons_append, List.map_eq_cons_iff,
        List.map_eq_append_iff] at same
      rcases same with
        ⟨⟨_, _, place⟩, _, rfl, isComma, front, back, rfl, isParameter, isRest⟩
      cases isComma
      have comma : (⟨beginning, items, enclosing⟩ : Reading).step?
          ⟨.punctuation .comma, Punctuation.comma.text, place⟩ =
            some ⟨.parameter header, items, enclosing⟩ := by
        cases beginning <;> cases isAfter <;> rfl
      rcases steps?_parameter items enclosing header isParameter with
        ⟨next, read, steps, isNext, shape⟩
      rcases induction isNext isRest with ⟨last, others, moreSteps, isLast, shapes⟩
      refine ⟨last, read :: others, ?_, ?_, ?_⟩
      · change ((⟨beginning, items, enclosing⟩ : Reading).step?
          ⟨.punctuation .comma, Punctuation.comma.text, place⟩).bind _ = _
        rw [comma, Option.bind_some, steps?_append, steps]
        exact moreSteps
      · simpa [addParameters] using isLast
      · simpa [parameterShapes, shape] using shapes

theorem steps?_parameters (header : FunctionHeader) {parameters : List ParameterItem}
    {tokens : List Token}
    (same : tokens.map Token.lexeme = ParameterItem.listLexemes parameters) :
    ∃ last read,
      (⟨.funName header, items, enclosing⟩ : Reading).steps? tokens =
        some ⟨last, items, enclosing⟩ ∧
      (last = .funName header ∧ read = [] ∨
        afterParameter? last = some (addParameters header read)) ∧
      parameterShapes read = parameterShapes parameters := by
  cases parameters with
  | nil =>
      simp only [ParameterItem.listLexemes, List.map_eq_nil_iff] at same
      subst same
      exact ⟨_, [], rfl, .inl ⟨rfl, rfl⟩, rfl⟩
  | cons parameter rest =>
      simp only [ParameterItem.listLexemes, List.cons_append, List.map_eq_cons_iff,
        List.map_eq_append_iff] at same
      rcases same with
        ⟨⟨_, _, place⟩, _, rfl, isColon, front, back, rfl, isParameter, isRest⟩
      cases isColon
      rcases steps?_parameter items enclosing header isParameter with
        ⟨next, read, steps, isNext, shape⟩
      rcases steps?_moreParameters items enclosing isNext isRest with
        ⟨last, others, moreSteps, isLast, shapes⟩
      refine ⟨last, read :: others, ?_, .inr ?_, ?_⟩
      · change (⟨.parameter header, items, enclosing⟩ : Reading).steps?
          (front ++ back) = _
        rw [steps?_append, steps]
        exact moreSteps
      · simpa [addParameters] using isLast
      · simpa [parameterShapes, shape] using shapes

def headerShape (header : FunctionHeader) : String × List Derivation × Option String :=
  (header.name.text, parameterShapes header.parameters, header.result.map (·.text))

theorem arrow_after {last : Beginning} {header : FunctionHeader}
    (isAfter : afterParameter? last = some header) (place : Position) :
    header? last = some header ∧
      (⟨last, items, enclosing⟩ : Reading).step? ⟨.punctuation .arrow, "->", place⟩ =
        some ⟨.arrow header, items, enclosing⟩ := by
  cases last <;> cases isAfter <;> exact ⟨rfl, rfl⟩

theorem parameters_shape (parameters : List ParameterItem) :
    (Derivation.ofParameters parameters).unplaced =
      if (parameterShapes parameters).isEmpty then .absent
      else rule "params" (parameterShapes parameters) := by
  cases parameters <;>
    simp [Derivation.ofParameters, parameterShapes, Derivation.unplaced,
      Function.comp_def]

theorem optionalName_shape (name : Option Spelling) :
    (Derivation.ofOption Derivation.name name).unplaced =
      ((name.map (·.text)).map fun text => .token ⟨.name, text, .start⟩).getD
        .absent := by
  cases name <;> simp [Derivation.ofOption, Derivation.name, Derivation.unplaced]

theorem function_shape {read header : FunctionHeader}
    (same : headerShape read = headerShape header) {readBody body : List Item}
    (sameBody : readBody.map Item.shape = body.map Item.shape) :
    (Item.function read readBody).shape = (Item.function header body).shape := by
  simp only [headerShape, Prod.mk.injEq] at same
  have bodies : (readBody.map ofItem).map Derivation.unplaced =
      (body.map ofItem).map Derivation.unplaced := by
    rw [List.map_map, List.map_map]
    exact sameBody
  simp only [Item.shape, ofItem, Derivation.unplaced, List.map_cons, List.map_nil,
    parameters_shape, optionalName_shape, Derivation.name, same.1, same.2.1, same.2.2,
    bodies]

variable {reading : Reading}
    (isSettled : reading.settled? = some (betweenItems items enclosing))

include isSettled

theorem steps?_header {header : FunctionHeader} {tokens : List Token}
    (same : tokens.map Token.lexeme = header.lexemes) :
    ∃ last read, reading.steps? tokens = some ⟨last, items, enclosing⟩ ∧
      header? last = some read ∧ headerShape read = headerShape header := by
  simp only [FunctionHeader.lexemes, List.cons_append, List.map_eq_cons_iff,
    List.map_eq_append_iff] at same
  rcases same with ⟨⟨_, _, start⟩, _, rfl, isFun, name, _, rfl, isName, front, back, rfl,
    isParameters, isResult⟩
  cases isFun
  rw [Token.eq_name isName]
  have begun : reading.steps? (⟨.keyword .funWord, "fun", start⟩ ::
      ⟨.name, header.name.text, name.position⟩ :: (front ++ back)) =
        (⟨.funName ⟨start, ⟨header.name.text, name.position⟩, [], none⟩, items,
          enclosing⟩ :
          Reading).steps? (front ++ back) :=
    (steps?_begin isSettled (by simp) rfl).trans rfl
  rcases steps?_parameters items enclosing
    ⟨start, ⟨header.name.text, name.position⟩, [], none⟩ isParameters with
    ⟨last, read, steps, isLast, shapes⟩
  have ready (place : Position) :
      header? last = some ⟨start, ⟨header.name.text, name.position⟩, read, none⟩ ∧
        (⟨last, items, enclosing⟩ : Reading).step? ⟨.punctuation .arrow, "->", place⟩ =
          some ⟨.arrow ⟨start, ⟨header.name.text, name.position⟩, read, none⟩, items,
            enclosing⟩ := by
    rcases isLast with ⟨rfl, rfl⟩ | isAfter
    · exact ⟨rfl, rfl⟩
    · exact arrow_after items enclosing isAfter place
  rcases header with ⟨_, headerName, parameters, _ | result⟩
  · simp only [Option.toList_none, List.flatMap_nil, List.map_eq_nil_iff] at isResult
    subst isResult
    refine ⟨last, _, ?_, (ready start).1, ?_⟩
    · rw [List.append_nil] at begun ⊢
      exact begun.trans steps
    · simp only [headerShape, shapes]
  · simp only [Option.toList_some, List.flatMap_singleton, List.map_eq_cons_iff,
      List.map_eq_nil_iff] at isResult
    rcases isResult with ⟨⟨_, _, place⟩, _, rfl, isArrow, type, _, rfl, isType, rfl⟩
    cases isArrow
    rw [Token.eq_name isType] at begun ⊢
    refine ⟨.result ⟨start, ⟨headerName.text, name.position⟩, read,
      some ⟨result.text, type.position⟩⟩, _, ?_, rfl, ?_⟩
    · refine begun.trans ?_
      rw [steps?_append, steps, Option.bind_some, steps?, (ready place).2]
      rfl
    · simp only [headerShape, shapes]
      rfl

end Headers

/-! ## Blocks -/

def AreReadBack (list : List Item) : Prop :=
  ∀ (reading : Reading) (items : List Item) (enclosing : List OpenBlock)
    (tokens : List Token),
    reading.settled? = some (betweenItems items enclosing) →
    tokens.map Token.lexeme = Item.listLexemes list →
    reading.ReadsItems items enclosing tokens (list.map Item.shape)

theorem steps?_block {reading base : Reading} (opener : Position → Opener)
    (opens : ∀ place, reading.step? ⟨.punctuation .leftBrace, "\x7b", place⟩ =
      some (base.openBlock (opener place)))
    {body : List Item} (readBack : AreReadBack body) {tokens : List Token}
    (same : tokens.map Token.lexeme = Item.blockLexemes body) :
    ∃ (place : Position) (read : List Item), read.map Item.shape = body.map Item.shape ∧
      reading.steps? tokens =
        (betweenItems read.reverse
          (⟨opener place, base.items⟩ :: base.enclosing)).closeBlock? := by
  simp only [Item.blockLexemes, List.cons_append, List.map_eq_cons_iff,
    List.map_eq_append_iff, List.map_eq_nil_iff] at same
  rcases same with
    ⟨⟨_, _, place⟩, _, rfl, isOpening, inside, _, rfl, isBody, ⟨_, _, last⟩, _, rfl,
      isClosing, rfl⟩
  cases isOpening
  cases isClosing
  rcases readBack (base.openBlock (opener place)) [] _ inside rfl isBody with
    ⟨next, read, steps, settles, shapes⟩
  refine ⟨place, read, shapes, ?_⟩
  rw [steps?, opens place, Option.bind_some, steps?_append, steps, Option.bind_some,
    steps?, step?_of_settled settles (by simp), List.append_nil]
  exact Option.bind_fun_some _

theorem block_shape {read body : List Item}
    (same : read.map Item.shape = body.map Item.shape) :
    (rule "block" (read.map ofItem)).unplaced =
      (rule "block" (body.map ofItem)).unplaced := by
  simp only [Derivation.unplaced, List.map_map]
  exact congrArg _ same

section Blocks

variable {reading : Reading} {items : List Item} {enclosing : List OpenBlock}
variable (isSettled : reading.settled? = some (betweenItems items enclosing))

include isSettled

theorem readsItem_block {start : Position} {body : List Item}
    (readBack : AreReadBack body) {tokens : List Token}
    (same : tokens.map Token.lexeme = Item.blockLexemes body) :
    reading.ReadsItem items enclosing tokens (Item.block start body).shape := by
  have opens (place : Position) : reading.step? ⟨.punctuation .leftBrace, "\x7b", place⟩ =
      some ((betweenItems items enclosing).openBlock (.block place)) :=
    step?_of_settled isSettled (by simp)
  rcases steps?_block .block opens readBack same with ⟨place, read, shapes, steps⟩
  refine ⟨⟨.between true, .block place read.reverse.reverse :: items, enclosing⟩,
    .block place read, steps, ?_, ?_⟩
  · simp [betweenItems, settled?, Beginning.settle?]
  · simpa [Item.shape, ofItem] using block_shape shapes

theorem readsItem_function {header : FunctionHeader} {body : List Item}
    (readBack : AreReadBack body) {tokens : List Token}
    (same : tokens.map Token.lexeme = header.lexemes ++ Item.blockLexemes body) :
    reading.ReadsItem items enclosing tokens (Item.function header body).shape := by
  rcases List.map_eq_append_iff.mp same with ⟨front, back, rfl, isHeader, isBlock⟩
  rcases steps?_header items enclosing isSettled isHeader with
    ⟨last, readHeader, steps, isLast, headers⟩
  have opens (place : Position) : (⟨last, items, enclosing⟩ : Reading).step?
      ⟨.punctuation .leftBrace, "\x7b", place⟩ =
        some ((betweenItems items enclosing).openBlock (.function readHeader)) := by
    cases last <;> cases isLast <;> rfl
  rcases steps?_block (fun _ => .function readHeader) opens readBack isBlock with
    ⟨place, read, shapes, blockSteps⟩
  refine ⟨⟨.between true, .function readHeader read.reverse.reverse :: items, enclosing⟩,
    .function readHeader read, ?_, ?_, function_shape headers shapes⟩
  · rw [steps?_append, steps, Option.bind_some, blockSteps]
    rfl
  · simp [betweenItems, settled?, Beginning.settle?]

theorem steps?_ifThen {body : List Item} (readBack : AreReadBack body)
    {tokens : List Token}
    (same : tokens.map Token.lexeme = .keyword .ifWord :: Item.blockLexemes body) :
    ∃ (start : Position) (read : List Item), read.map Item.shape = body.map Item.shape ∧
      reading.steps? tokens = some ⟨.thenBlock start read, items, enclosing⟩ := by
  rcases List.map_eq_cons_iff.mp same with ⟨⟨_, _, start⟩, rest, rfl, isIf, isBlock⟩
  cases isIf
  have opens (place : Position) : (⟨.ifWord start, items, enclosing⟩ : Reading).step?
      ⟨.punctuation .leftBrace, "\x7b", place⟩ =
        some ((betweenItems items enclosing).openBlock (.thenBranch start)) := rfl
  rcases steps?_block (fun _ => .thenBranch start) opens readBack isBlock with
    ⟨place, read, shapes, blockSteps⟩
  refine ⟨start, read, shapes, ?_⟩
  rw [steps?_begin isSettled (by simp) rfl]
  refine blockSteps.trans ?_
  simp [betweenItems, closeBlock?]

theorem readsItem_ifThen {start : Position} {body : List Item}
    (readBack : AreReadBack body) {tokens : List Token}
    (same : tokens.map Token.lexeme = .keyword .ifWord :: Item.blockLexemes body) :
    reading.ReadsItem items enclosing tokens (Item.ifThen start body).shape := by
  rcases steps?_ifThen isSettled readBack same with ⟨place, read, shapes, steps⟩
  refine ⟨_, .ifThen place read, steps, rfl, ?_⟩
  simpa [Item.shape, ofItem, Derivation.unplaced] using block_shape shapes

theorem readsItem_ifThenElse {start : Position} {thenBody elseBody : List Item}
    (thenReadBack : AreReadBack thenBody) (elseReadBack : AreReadBack elseBody)
    {tokens : List Token}
    (same : tokens.map Token.lexeme = (.keyword .ifWord :: Item.blockLexemes thenBody) ++
      .keyword .elseWord :: Item.blockLexemes elseBody) :
    reading.ReadsItem items enclosing tokens
      (Item.ifThenElse start thenBody elseBody).shape := by
  rcases List.map_eq_append_iff.mp same with ⟨front, _, rfl, isThen, isRest⟩
  rcases List.map_eq_cons_iff.mp isRest with ⟨⟨_, _, _⟩, back, rfl, isElse, isBlock⟩
  cases isElse
  rcases steps?_ifThen isSettled thenReadBack isThen with
    ⟨place, thenRead, thenShapes, thenSteps⟩
  have opens (brace : Position) :
      (⟨.elseWord place thenRead, items, enclosing⟩ : Reading).step?
        ⟨.punctuation .leftBrace, "\x7b", brace⟩ =
        some ((betweenItems items enclosing).openBlock (.elseBranch place thenRead)) :=
    rfl
  rcases steps?_block (fun _ => .elseBranch place thenRead) opens elseReadBack
    isBlock with ⟨_, elseRead, elseShapes, elseSteps⟩
  refine ⟨⟨.between true, .ifThenElse place thenRead elseRead.reverse.reverse :: items,
    enclosing⟩,
    .ifThenElse place thenRead elseRead, ?_, ?_, ?_⟩
  · rw [steps?_append, thenSteps, Option.bind_some]
    exact elseSteps
  · simp [betweenItems, settled?, Beginning.settle?]
  · simpa [Item.shape, ofItem, Derivation.unplaced] using
      And.intro (block_shape thenShapes) (block_shape elseShapes)

end Blocks

mutual

theorem readsItem_of_item : (item : Item) → ∀ (reading : Reading) (items : List Item)
    (enclosing : List OpenBlock) (tokens : List Token),
    reading.settled? = some (betweenItems items enclosing) →
    tokens.map Token.lexeme = item.lexemes →
    reading.ReadsItem items enclosing tokens item.shape
  | .letBinding _ _ _ _, _, _, _, _, isSettled, same =>
      readsItem_letBinding isSettled same
  | .function header body, _, _, _, _, isSettled, same =>
      readsItem_function isSettled (areReadBack body) (by simpa [Item.lexemes] using same)
  | .ifThen _ thenBody, _, _, _, _, isSettled, same =>
      readsItem_ifThen isSettled (areReadBack thenBody)
        (by simpa [Item.lexemes] using same)
  | .ifThenElse _ thenBody elseBody, _, _, _, _, isSettled, same =>
      readsItem_ifThenElse isSettled (areReadBack thenBody) (areReadBack elseBody)
        (by simpa [Item.lexemes] using same)
  | .literal _, _, _, _, _, isSettled, same =>
      readsItem_literal isSettled (by simpa [Item.lexemes] using same)
  | .conversion _ _, _, _, _, _, isSettled, same =>
      readsItem_conversion isSettled (by simpa [Item.lexemes] using same)
  | .call _, _, _, _, _, isSettled, same =>
      readsItem_call isSettled (by simpa [Item.lexemes] using same)
  | .word _, _, _, _, _, isSettled, same =>
      readsItem_word isSettled (by simpa [Item.lexemes] using same)
  | .operator _, _, _, _, _, isSettled, same =>
      readsItem_operator isSettled (by simpa [Item.lexemes] using same)
  | .block _ body, _, _, _, _, isSettled, same =>
      readsItem_block isSettled (areReadBack body) (by simpa [Item.lexemes] using same)

theorem areReadBack : (list : List Item) → AreReadBack list
  | [], reading, items, enclosing, tokens, isSettled, same => by
      simp only [Item.listLexemes, List.map_eq_nil_iff] at same
      subst same
      exact ⟨reading, [], rfl, isSettled, rfl⟩
  | item :: rest, reading, items, enclosing, tokens, isSettled, same => by
      simp only [Item.listLexemes, List.map_eq_append_iff] at same
      rcases same with ⟨front, back, rfl, isItem, isRest⟩
      rcases readsItem_of_item item reading items enclosing front isSettled isItem with
        ⟨between, read, steps, settles, shape⟩
      rcases areReadBack rest between (read :: items) enclosing back settles isRest with
        ⟨next, others, moreSteps, settlesAgain, shapes⟩
      refine ⟨next, read :: others, ?_, ?_, ?_⟩
      · rw [steps?_append, steps]
        exact moreSteps
      · simpa using settlesAgain
      · simp [shape, shapes]

end

end Reading

end StackLanguage
