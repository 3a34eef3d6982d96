import StackLanguage.Program.Elaboration
import StackLanguage.Proofs.SyntaxTree.ReadTokens

namespace StackLanguage

/-! Every text can be written as a string literal, with either delimiter and with any
choice of what is escaped beyond what has to be; and what a literal is read as is a text
that it is so written for, unless it has an escape that stands for nothing. -/

open Terminal (IsString IsStringBody)

namespace StringLiteral

inductive Escapes : (letter meant : Char) → Prop
  | backslash : Escapes '\\' '\\'
  | doubleQuote : Escapes '"' '"'
  | singleQuote : Escapes '\'' '\''
  | lineFeed : Escapes 'n' '\n'
  | carriageReturn : Escapes 'r' '\r'
  | tab : Escapes 't' '\t'

/-- The ways to write a text between two delimiters: a backslash and the delimiter have to
be escaped, and whatever else has an escape may be. -/
inductive Writes (delimiter : Char) : (text body : List Char) → Prop
  | nil : Writes delimiter [] []
  | plain {character text body} (other : character ≠ delimiter)
      (noEscape : character ≠ '\\') (writes : Writes delimiter text body) :
      Writes delimiter (character :: text) (character :: body)
  | escape {letter meant text body} (escapes : Escapes letter meant)
      (writes : Writes delimiter text body) :
      Writes delimiter (meant :: text) ('\\' :: letter :: body)

/-- A backslash that no other backslash escapes stands before the letter. -/
inductive HasEscape (letter : Char) : (body : List Char) → Prop
  | here {rest} : HasEscape letter ('\\' :: letter :: rest)
  | afterPlain {character rest} (noEscape : character ≠ '\\')
      (later : HasEscape letter rest) :
      HasEscape letter (character :: rest)
  | afterEscape {character rest} (later : HasEscape letter rest) :
      HasEscape letter ('\\' :: character :: rest)

def HasUnknownEscape (body : List Char) : Prop :=
  ∃ letter, HasEscape letter body ∧ ∀ meant, ¬ Escapes letter meant

def literal (delimiter : Char) (body : List Char) : String :=
  String.ofList (delimiter :: (body ++ [delimiter]))

theorem lookup_escapes_iff {letter meant : Char} :
    escapes.lookup letter = some meant ↔ Escapes letter meant := by
  constructor
  · intro found
    rcases List.lookup_eq_some_iff.mp found with ⟨before, after, whole, -⟩
    have member : (letter, meant) ∈ escapes := by simp [whole]
    simp only [escapes, List.mem_cons, Prod.mk.injEq, List.not_mem_nil,
      or_false] at member
    rcases member with
      ⟨rfl, rfl⟩ | ⟨rfl, rfl⟩ | ⟨rfl, rfl⟩ | ⟨rfl, rfl⟩ | ⟨rfl, rfl⟩ | ⟨rfl, rfl⟩
    · exact .backslash
    · exact .doubleQuote
    · exact .singleQuote
    · exact .lineFeed
    · exact .carriageReturn
    · exact .tab
  · rintro ⟨⟩ <;> rfl

theorem Escapes.sameLine {letter meant : Char} (escapes : Escapes letter meant) :
    letter ≠ '\n' := by
  cases escapes <;> decide

section Decoding

variable {delimiter character letter : Char} {text body rest : List Char}

theorem decode_plain (noEscape : character ≠ '\\') :
    decode (character :: rest) = (decode rest).map (character :: ·) := by
  rw [decode]
  · exact fun same => absurd same noEscape
  · exact fun _ _ same => absurd same noEscape

theorem decode_escape {meant : Char} (known : Escapes letter meant) :
    decode ('\\' :: letter :: rest) = (decode rest).map (meant :: ·) := by
  rw [decode, lookup_escapes_iff.mpr known]

theorem decode_unknown (unknown : ∀ meant, ¬ Escapes letter meant) :
    decode ('\\' :: letter :: rest) = .error (.unknown letter) := by
  have notFound : escapes.lookup letter = none := by
    rw [Option.eq_none_iff_forall_not_mem]
    exact fun meant found => unknown meant (lookup_escapes_iff.mp found)
  rw [decode, notFound]

theorem hasEscape_plain_iff (noEscape : character ≠ '\\') :
    HasEscape letter (character :: rest) ↔ HasEscape letter rest := by
  refine ⟨fun has => ?_, .afterPlain noEscape⟩
  cases has with
  | here => exact absurd rfl noEscape
  | afterPlain _ later => exact later
  | afterEscape => exact absurd rfl noEscape

theorem hasEscape_escape_iff :
    HasEscape letter ('\\' :: character :: rest) ↔
      letter = character ∨ HasEscape letter rest := by
  constructor
  · intro has
    cases has with
    | here => exact .inl rfl
    | afterPlain noEscape => exact absurd rfl noEscape
    | afterEscape later => exact .inr later
  · rintro (rfl | later)
    · exact .here
    · exact .afterEscape later

namespace Writes

theorem isBody (writes : Writes delimiter text body) : IsStringBody delimiter body := by
  induction writes with
  | nil => exact .nil
  | plain other noEscape _ induction => exact .plain other noEscape induction
  | escape escapes _ induction => exact .escape escapes.sameLine induction

theorem decode (writes : Writes delimiter text body) : decode body = .ok text := by
  induction writes with
  | nil => rfl
  | plain _ noEscape _ induction => rw [decode_plain noEscape, induction, Except.map]
  | escape escapes _ induction => rw [decode_escape escapes, induction, Except.map]

end Writes

theorem decode_cases (isBody : IsStringBody delimiter body) :
    (∃ text, Writes delimiter text body ∧ ¬ HasUnknownEscape body) ∨
      (∃ letter, decode body = .error (.unknown letter)) ∧ HasUnknownEscape body := by
  induction isBody with
  | nil =>
      left
      refine ⟨[], .nil, ?_⟩
      rintro ⟨letter, has, -⟩
      cases has
  | @plain character rest other noEscape _ induction =>
      unfold HasUnknownEscape at induction ⊢
      simp only [hasEscape_plain_iff noEscape, decode_plain noEscape]
      rcases induction with ⟨text, writes, known⟩ | ⟨⟨letter, failed⟩, unknown⟩
      · exact .inl ⟨character :: text, .plain other noEscape writes, known⟩
      · exact .inr ⟨⟨letter, by rw [failed, Except.map]⟩, unknown⟩
  | @escape character rest _ _ induction =>
      by_cases isKnown : ∃ meant, Escapes character meant
      · rcases isKnown with ⟨meant, isKnown⟩
        rcases induction with
          ⟨text, writes, known⟩ | ⟨⟨letter, failed⟩, other, has, unknown⟩
        · refine .inl ⟨meant :: text, .escape isKnown writes, ?_⟩
          rintro ⟨other, has, unknown⟩
          rcases hasEscape_escape_iff.mp has with rfl | later
          · exact unknown meant isKnown
          · exact known ⟨other, later, unknown⟩
        · exact .inr ⟨⟨letter, by rw [decode_escape isKnown, failed, Except.map]⟩, other,
            .afterEscape has, unknown⟩
      · rw [not_exists] at isKnown
        exact .inr ⟨⟨character, decode_unknown isKnown⟩, character, .here, isKnown⟩

end Decoding

end StringLiteral

theorem Item.ofText_string {source : String} (isString : IsString source.toList) :
    ofText source = .ok [.literal (.string ⟨source, .start⟩)] := by
  have proper : Lexeme.IsProper ⟨.string, source⟩ := isString
  have skipped := Scan.skipTrivia_lexeme proper .start []
  have stepped : Reading.start.step? ⟨.string, source, .start⟩ =
      some { Reading.start with beginning := .literal (.string ⟨source, .start⟩) } := rfl
  have scanned := Scan.tokenAt?_of_string (Reading.allows_of_step? stepped)
    (Scan.stringLength?_complete isString [])
  have reads : Reading.Reads .start .start .start (source.toList ++ [])
      (.ok [.literal (.string ⟨source, .start⟩)]) :=
    @Reading.Reads.token _ _ _ _ _ _ ⟨.string, source, .start⟩ _ skipped scanned stepped
      (.finished rfl rfl)
  rw [List.append_nil] at reads
  exact reads.eq

theorem Elaboration.statements_literal (file : String) (room : Nat) (literal : Literal) :
    statements file (room + 1) [.literal literal] =
      (literalValue file literal).map fun value =>
        [.push ⟨file, literal.position⟩ value] := by
  simp only [statements, List.mapM_cons, List.mapM_nil, statement]
  cases literalValue file literal <;> rfl

namespace Program

open StringLiteral

def ofString (sourceName text : String) : Program :=
  { statements := [.push ⟨sourceName, .start⟩ (.string text)], sourceName }

theorem ofText_string (sourceName : String) {source : String}
    (isString : IsString source.toList) :
    ofText sourceName source =
      (Elaboration.locate sourceName .start (Elaboration.stringValue source)).map
        (ofString sourceName) := by
  have elaborated :=
    Elaboration.statements_literal sourceName 999 (.string ⟨source, .start⟩)
  simp only [ofText, Item.ofText_string isString]
  rw [show nestingLimit = 999 + 1 from rfl, elaborated]
  simp only [Elaboration.literalValue, Literal.position]
  cases Elaboration.stringValue source <;> rfl

section Literal

variable {delimiter : Char} {body : List Char}

theorem body_literal : StringLiteral.body (literal delimiter body).toList = body := by
  simp [literal, StringLiteral.body]

theorem isString_literal (isDelimiter : delimiter = '"' ∨ delimiter = '\'')
    (isBody : IsStringBody delimiter body) :
    IsString (literal delimiter body).toList := by
  rw [literal, String.toList_ofList]
  exact ⟨delimiter, body, isDelimiter, isBody, rfl⟩

theorem ofText_of_writes (sourceName : String)
    (isDelimiter : delimiter = '"' ∨ delimiter = '\'') {text : List Char}
    (writes : Writes delimiter text body) :
    ofText sourceName (literal delimiter body) =
      .ok (ofString sourceName (String.ofList text)) := by
  rw [ofText_string sourceName (isString_literal isDelimiter writes.isBody),
    Elaboration.stringValue, body_literal, writes.decode]
  rfl

theorem ofText_of_unknown (sourceName : String)
    (isDelimiter : delimiter = '"' ∨ delimiter = '\'')
    (isBody : IsStringBody delimiter body) {letter : Char}
    (unknown : decode body = .error (.unknown letter)) :
    ofText sourceName (literal delimiter body) =
      .error (.error ⟨.unknownEscape letter, ⟨sourceName, .start⟩⟩) := by
  rw [ofText_string sourceName (isString_literal isDelimiter isBody),
    Elaboration.stringValue, body_literal, unknown]
  rfl

end Literal

/-- Each way to write a text as a literal is the program that pushes this text. A literal
is a way to write the text that it pushes, or it is refused for an escape that stands for
nothing, and it is so exactly when it has one. -/
theorem ofText_literal (sourceName : String) {delimiter : Char}
    (isDelimiter : delimiter = '"' ∨ delimiter = '\'') :
    (∀ text body, Writes delimiter text body →
      ofText sourceName (literal delimiter body) =
        .ok (ofString sourceName (String.ofList text))) ∧
    ∀ body, IsStringBody delimiter body →
      ((∃ text, Writes delimiter text body ∧
          ofText sourceName (literal delimiter body) =
            .ok (ofString sourceName (String.ofList text))) ∨
        ∃ letter, ofText sourceName (literal delimiter body) =
          .error (.error ⟨.unknownEscape letter, ⟨sourceName, .start⟩⟩)) ∧
      ((∃ letter, ofText sourceName (literal delimiter body) =
          .error (.error ⟨.unknownEscape letter, ⟨sourceName, .start⟩⟩)) ↔
        HasUnknownEscape body) := by
  refine ⟨fun text body => ofText_of_writes sourceName isDelimiter, fun body isBody => ?_⟩
  rcases decode_cases isBody with ⟨text, writes, known⟩ | ⟨⟨letter, failed⟩, unknown⟩
  · have pushed := ofText_of_writes sourceName isDelimiter writes
    refine ⟨.inl ⟨text, writes, pushed⟩, iff_of_false ?_ known⟩
    rintro ⟨letter, refused⟩
    cases pushed.symm.trans refused
  · have refused := ofText_of_unknown sourceName isDelimiter isBody failed
    exact ⟨.inr ⟨letter, refused⟩, iff_of_true ⟨letter, refused⟩ unknown⟩

theorem ofText_literal_quotes :
    Writes '"' ['"', '\'', '\n', '\\'] ['\\', '"', '\'', '\\', 'n', '\\', '\\'] ∧
      ofText "a" (literal '"' ['\\', '"', '\'', '\\', 'n', '\\', '\\']) =
        .ok (ofString "a" "\"'\n\\") ∧
      IsStringBody '"' ['\\', 'q'] ∧ HasUnknownEscape ['\\', 'q'] ∧
      ∃ letter, ofText "a" (literal '"' ['\\', 'q']) =
        .error (.error ⟨.unknownEscape letter, ⟨"a", .start⟩⟩) := by
  have writes :
      Writes '"' ['"', '\'', '\n', '\\'] ['\\', '"', '\'', '\\', 'n', '\\', '\\'] :=
    .escape .doubleQuote <| .plain (by decide) (by decide) <| .escape .lineFeed <|
      .escape .backslash .nil
  have isBody : IsStringBody '"' ['\\', 'q'] := .escape (by decide) .nil
  have unknown : HasUnknownEscape ['\\', 'q'] := ⟨'q', .here, by rintro meant ⟨⟩⟩
  have law := @ofText_literal "a" '"' (.inl rfl)
  exact ⟨writes, law.1 _ _ writes, isBody, unknown, (law.2 _ isBody).2.mpr unknown⟩

end Program

end StackLanguage
