import Mathlib
import StackLanguage.Proofs.SyntaxTree.Standing
import StackLanguage.Proofs.Token.Cuts

namespace StackLanguage

/-! Whether keywords and names are read to their ends. The kinds of tokens that are looked
for depend on the beginning of the item that is being read, and a keyword is the front of
a longer word only where no name is looked for: that is the case for the literals after
the equality sign of a variable binding and for nothing else. -/

namespace Reading

theorem Reads.lexemes_isPrefix {reading : Reading} {last position : Position}
    {characters : List Char} {items : List Item}
    (reads : reading.Reads last position characters (.ok items))
    (valid : reading.beginning.IsValid) : reading.lexemes <+: Item.listLexemes items := by
  generalize resultIs : Except.ok items = result at reads
  induction reads with
  | finished _ finished =>
      cases resultIs
      exact finish?_lexemes finished ▸ List.prefix_rfl
  | unfinished => cases resultIs
  | @token reading next last position characters rest token result skipped scanned
      stepped _ induction =>
      have proper : token.lexeme.IsProper := Scan.tokenAt?_isProper scanned
      rcases step?_lexemes valid proper stepped with ⟨nextValid, lexemes⟩
      exact (List.prefix_append _ _).trans (lexemes ▸ induction nextValid resultIs)
  | refused => cases resultIs

theorem Reads.exists_scanned {reading : Reading} {last position : Position}
    {characters : List Char} {items : List Item}
    (reads : reading.Reads last position characters (.ok items))
    (valid : reading.beginning.IsValid) {before : List Lexeme} {word : Lexeme}
    {front back : List Char} (precedes : Precedes before front)
    (whole : characters = front ++ (word.text.toList ++ back))
    (isPrefix : reading.lexemes ++ (before ++ [word]) <+: Item.listLexemes items) :
    ∃ earlier : Reading, earlier.lexemes = reading.lexemes ++ before ∧
      Scan.tokenAt? earlier.beginning.allows (word.text.toList ++ back) =
        some (word.terminal, word.text.toList.length) := by
  generalize resultIs : Except.ok items = result at reads
  induction reads generalizing before front with
  | finished _ finished =>
      cases resultIs
      rw [finish?_lexemes finished] at isPrefix
      have bound := isPrefix.length_le
      simp only [List.length_append, List.length_singleton] at bound
      omega
  | unfinished => cases resultIs
  | @token reading next last position characters rest token result skipped scanned stepped
      moreReads induction =>
      have proper : token.lexeme.IsProper := Scan.tokenAt?_isProper scanned
      rcases step?_lexemes valid proper stepped with ⟨nextValid, nextLexemes⟩
      subst resultIs
      have isNext : reading.lexemes ++ [token.lexeme] <+: Item.listLexemes items :=
        nextLexemes ▸ moreReads.lexemes_isPrefix nextValid
      -- The next lexeme of the text is the token, so what is skipped before
      -- it is the same.
      have isToken {first : Lexeme} {more : List Lexeme}
          (isPrefix : reading.lexemes ++ first :: more <+: Item.listLexemes items) :
          first = token.lexeme := by
        have shorter : reading.lexemes ++ [token.lexeme] <+:
            reading.lexemes ++ first :: more :=
          List.prefix_of_prefix_length_le isNext isPrefix (by simp)
        simpa [eq_comm] using shorter
      have skips {gap after : List Char} (trivia : IsTrivia gap)
          (same : characters = gap ++ (token.lexeme.text.toList ++ after)) : after =
          rest := by
        rw [same, Scan.skipTrivia_complete trivia,
          Scan.skipTrivia_lexeme proper] at skipped
        exact List.append_cancel_left (congrArg Prod.snd skipped)
      cases precedes with
      | last trivia =>
          obtain rfl := isToken isPrefix
          exact ⟨reading, by simp, (skips trivia whole).symm ▸ scanned⟩
      | @next first others gap text trivia precedes =>
          obtain rfl := isToken isPrefix
          rcases induction nextValid precedes
            (skips trivia (by simpa using whole)).symm (by
              simpa [nextLexemes] using isPrefix) rfl with ⟨earlier, lexemes, found⟩
          exact ⟨earlier, by simp [lexemes, nextLexemes], found⟩
  | refused => cases resultIs

/-- A keyword is looked for without names only where the value of a variable must
follow. -/
theorem allows_keyword {beginning : Beginning} {keyword : Keyword}
    (allowsKeyword : beginning.allows (.keyword keyword) = true)
    (noName : beginning.allows .name = false) :
    (∃ start name type, beginning = .letEqual start name type) ∧
      (keyword = .trueWord ∨ keyword = .falseWord) := by
  cases beginning <;> cases keyword <;>
    first
      | (cases noName; done)
      | (cases allowsKeyword; done)
      | simp

theorem lexemes_getLast?_letEqual {reading : Reading} {start : Position}
    {name type : Spelling} (isLetEqual : reading.beginning = .letEqual start name type) :
    reading.lexemes.getLast? = some (.punctuation .equal) := by
  simp [lexemes, isLetEqual, Beginning.lexemes, Item.letLexemes]

end Reading

def Lexeme.IsWord (lexeme : Lexeme) : Prop :=
  lexeme.terminal = .name ∨ ∃ keyword, lexeme.terminal = .keyword keyword

def Lexeme.IsInitialTruth (before : List Lexeme) (lexeme : Lexeme) : Prop :=
  before.getLast? = some (.punctuation .equal) ∧
    (lexeme = .keyword .trueWord ∨ lexeme = .keyword .falseWord)

namespace Item

theorem ofText_isInitialTruth {source : String} {items : List Item}
    (read : ofText source = .ok items) {before : List Lexeme} {word : Lexeme}
    {front back : List Char} (isWord : word.IsWord)
    (stands : word.Stands (listLexemes items) source.toList before front back)
    (isCut : back.head?.any Scan.isNamePart = true) : word.IsInitialTruth before := by
  have reads := Reading.reads_readText .start .start .start source.toList
  rw [← ofText, read] at reads
  rcases reads.exists_scanned trivial stands.precedes stands.whole
    (by simpa [Reading.lexemes_start] using stands.isPrefix) with
    ⟨earlier, lexemes, scanned⟩
  rw [Reading.lexemes_start, List.nil_append] at lexemes
  have proper : word.IsProper := Scan.tokenAt?_isProper scanned
  rcases Scan.tokenAt?_cases scanned with ⟨allowed, kind⟩
  have found : Scan.wordAt? earlier.beginning.allows (word.text.toList ++ back) =
      some (word.terminal, word.text.toList.length) := by
    rcases isWord with isName | ⟨keyword, isKeyword⟩
    · simpa [isName] using kind
    · simpa [isKeyword] using kind
  cases allowsName : earlier.beginning.allows .name with
  | true =>
      have longest := (Scan.wordAt?_longest allowsName found).2
      rw [isCut] at longest
      cases longest
  | false =>
      rcases isWord with isName | ⟨keyword, isKeyword⟩
      · rw [isName, allowsName] at allowed
        cases allowed
      · rw [isKeyword] at allowed
        rcases Reading.allows_keyword allowed allowsName with
          ⟨⟨start, name, type, isLet⟩, isTruth⟩
        rw [proper.eq_keyword isKeyword]
        refine ⟨lexemes ▸ Reading.lexemes_getLast?_letEqual isLet, ?_⟩
        exact isTruth.imp (congrArg _) (congrArg _)

/-- The lexemes of a text that are of some kind, given the lexemes before them, are not
directly followed by a letter, a digit or an underscore. -/
def ReadsWhole (source : String) (items : List Item)
    (IsKind : List Lexeme → Lexeme → Prop) : Prop :=
  ∀ before front word back, IsKind before word →
    Lexeme.Stands (listLexemes items) source.toList before front word back →
    back.head?.any Scan.isNamePart = false

/-- The keywords and names of a text are all read to their ends if and only if the
literals that variables start with are: nowhere else is a keyword taken from the front of
a longer word. -/
theorem ofText_words_iff {source : String} {items : List Item}
    (read : ofText source = .ok items) :
    ReadsWhole source items (fun _ word => word.IsWord) ↔
      ReadsWhole source items fun before word => word.IsInitialTruth before := by
  constructor
  · intro whole before front word back isTruth
    refine whole before front word back (.inr ?_)
    rcases isTruth.2 with rfl | rfl
    · exact ⟨.trueWord, rfl⟩
    · exact ⟨.falseWord, rfl⟩
  · intro whole before front word back isWord stands
    by_contra isCut
    rw [Bool.not_eq_false] at isCut
    have isTruth := ofText_isInitialTruth read isWord stands isCut
    rw [whole before front word back isTruth stands] at isCut
    cases isCut

theorem ofText_words_letter :
    ∃ items, ofText "letter iffy" = .ok items ∧
      ReadsWhole "letter iffy" items fun _ word => word.IsWord := by
  have read : ofText "letter iffy" =
      .ok [.word ⟨"letter", .start⟩, .word ⟨"iffy", ⟨1, 8⟩⟩] := by cbv
  refine ⟨_, read, (ofText_words_iff read).mpr ?_⟩
  intro before front word back isTruth stands
  have member : Lexeme.punctuation .equal ∈
      listLexemes [.word ⟨"letter", .start⟩, .word ⟨"iffy", ⟨1, 8⟩⟩] :=
    ((List.prefix_append _ _).trans stands.isPrefix).subset
      (List.mem_of_getLast? isTruth.1)
  simp [listLexemes, lexemes, Lexeme.punctuation, Lexeme.name] at member

theorem ofText_words_cutLiteral :
    ∃ items, ofText "let x: bool = truex" = .ok items ∧
      ¬ ReadsWhole "let x: bool = truex" items fun _ word => word.IsWord := by
  have read : ofText "let x: bool = truex" =
      .ok [.letBinding .start ⟨"x", ⟨1, 5⟩⟩ ⟨"bool", ⟨1, 8⟩⟩
        (some (.literal (.truth true ⟨1, 15⟩))), .word ⟨"x", ⟨1, 19⟩⟩] := by cbv
  have blank : IsTrivia [' '] := .layout rfl .nil
  have precedes : Precedes
      [.keyword .letWord, ⟨.name, "x"⟩, .punctuation .colon, ⟨.name, "bool"⟩,
        .punctuation .equal]
      "let x: bool = ".toList :=
    .next .nil <| .next blank <| .next .nil <| .next blank <| .next blank <| .last blank
  refine ⟨_, read, fun whole => ?_⟩
  have notCut := whole _ _ (.keyword .trueWord) ['x'] (.inr ⟨_, rfl⟩)
    ⟨⟨[⟨.name, "x"⟩], ?_⟩, ?_, precedes⟩
  · cases notCut
  · simp [listLexemes, lexemes, letLexemes, Initializer.lexemes, Literal.lexeme,
      Lexeme.name]
  · rfl

end Item

end StackLanguage
