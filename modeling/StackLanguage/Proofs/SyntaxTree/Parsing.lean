import StackLanguage.Proofs.SyntaxTree.GrammarItems
import StackLanguage.Proofs.SyntaxTree.ReadItems
import StackLanguage.Proofs.SyntaxTree.ReadLexemes

namespace StackLanguage

/-! The texts that are read are those that the grammar derives, and the tree that is read
is the derivation. -/

open StackLanguage.Derivation (ofItem ofItems)

namespace Derives

theorem allProper {symbol : Symbol} {trees : List Derivation} {lexemes : List Lexeme}
    (derives : Derives symbol trees lexemes) : AllProper lexemes := by
  have keyword (word : Keyword) : (Lexeme.keyword word).IsProper := rfl
  have punctuation (mark : Punctuation) : (Lexeme.punctuation mark).IsProper := rfl
  have nothing : AllProper [] := by simp [AllProper]
  induction derives <;>
    simp_all [AllProper.cons_iff, AllProper.append_iff, Lexeme.IsProper, Lexeme.name,
      Terminal.Matches]

end Derives

namespace Reading

theorem steps?_lexemes {reading final : Reading} (valid : reading.beginning.IsValid)
    {tokens : List Token} (proper : ∀ token ∈ tokens, token.lexeme.IsProper)
    (steps : reading.steps? tokens = some final) :
    final.lexemes = reading.lexemes ++ tokens.map Token.lexeme := by
  induction tokens generalizing reading with
  | nil =>
      cases steps
      simp
  | cons token rest induction =>
      rcases Option.bind_eq_some_iff.mp steps with ⟨next, stepped, moreSteps⟩
      rw [List.forall_mem_cons] at proper
      rcases step?_lexemes valid proper.1 stepped with ⟨nextValid, same⟩
      simp [induction nextValid proper.2 moreSteps, same]

theorem steps?_items (list : List Item) {tokens : List Token}
    (same : tokens.map Token.lexeme = Item.listLexemes list) :
    ∃ final items, start.steps? tokens = some final ∧ final.finish? = some items ∧
      (ofItems items).unplaced = (ofItems list).unplaced := by
  rcases areReadBack list start [] [] tokens rfl same with
    ⟨final, read, steps, settles, shapes⟩
  refine ⟨final, read, steps, ?_, ?_⟩
  · rw [finish?, settles]
    simp [betweenItems]
  · simp only [ofItems, Derivation.unplaced, List.map_map]
    exact congrArg _ shapes

end Reading

namespace Item

theorem ofText_complete {tree : Derivation} {lexemes : List Lexeme} {text : List Char}
    (derives : Derives .start [tree] lexemes)
    (noKeyword : ∀ lexeme ∈ lexemes, lexeme.terminal = .name →
      ∀ keyword : Keyword, lexeme.text ≠ keyword.text)
    (spaces : Spaces lexemes text) :
    ∃ items, ofText (String.ofList text) = .ok items ∧
      (ofItems items).unplaced = tree.unplaced := by
  rcases derives.denotes with ⟨list, same, rfl⟩
  cases same
  have accepts : Reading.start.AcceptsAll (listLexemes list) := by
    intro tokens same
    rcases Reading.steps?_items list same with ⟨final, items, steps, finished, _⟩
    exact ⟨final, items, steps, finished⟩
  rcases Reading.readText_complete spaces derives.allProper noKeyword .nil
    Reading.start .start .start accepts with
    ⟨tokens, final, items, same, steps, finished, read⟩
  rcases Reading.steps?_items list same with ⟨_, _, stepsAgain, finishedAgain, shape⟩
  cases steps.symm.trans stepsAgain
  cases finished.symm.trans finishedAgain
  refine ⟨items, ?_, shape⟩
  rw [ofText, String.toList_ofList]
  exact read

theorem ofText_lexemes {source : String} {items : List Item}
    (read : ofText source = .ok items) :
    AllProper (listLexemes items) ∧ Interleaves (listLexemes items) source.toList := by
  rcases Reading.readText_sound _ _ _ _ read with
    ⟨tokens, final, placed, proper, steps, finished⟩
  have valid : Reading.start.beginning.IsValid := trivial
  have same := Reading.steps?_lexemes valid proper steps
  rw [Reading.lexemes_start, ← Reading.finish?_lexemes finished, List.nil_append] at same
  rw [same]
  exact ⟨List.forall_mem_map.mpr proper, placed.interleaves⟩

theorem ofText_sound {source : String} {items : List Item}
    (read : ofText source = .ok items) :
    ∃ lexemes,
      Derives .start [ofItems items] lexemes ∧ Interleaves lexemes source.toList := by
  rcases ofText_lexemes read with ⟨proper, interleaves⟩
  exact ⟨listLexemes items, .start (listDerives items proper), interleaves⟩

/-- The grammar and nothing else is read. A derivation written with white space or a
comment after every token is read back as itself, and what is read from any text is a
derivation of it. -/
theorem ofText_iff_derives :
    (∀ tree lexemes text, Derives .start [tree] lexemes →
      (∀ lexeme ∈ lexemes, lexeme.terminal = .name →
        ∀ keyword : Keyword, lexeme.text ≠ keyword.text) →
      Spaces lexemes text →
      ∃ items, ofText (String.ofList text) = .ok items ∧
        (ofItems items).unplaced = tree.unplaced) ∧
    (∀ source items, ofText source = .ok items →
      ∃ lexemes,
        Derives .start [ofItems items] lexemes ∧ Interleaves lexemes source.toList) :=
  ⟨fun _ _ _ => ofText_complete, fun _ _ => ofText_sound⟩

theorem ofText_reads_conversion :
    ∃ items lexemes, ofText "let x : any = 1 @ str\nx #\n" = .ok items ∧
      (ofItems items).unplaced =
        .rule "start" [
          .rule "let_stmt" [.leaf .name ⟨"x", .start⟩, .leaf .name ⟨"any", .start⟩,
            .rule "conversion" [.rule "number" [.leaf .number ⟨"1", .start⟩],
              .leaf .name ⟨"str", .start⟩]],
          .rule "word" [.leaf .name ⟨"x", .start⟩]] ∧
      Derives .start [ofItems items] lexemes := by
  have isName (character : Char) (starts : Scan.isNameStart character = true)
      (rest : List Char) (continues : rest.all Scan.isNamePart = true) :
      Terminal.IsName (character :: rest) :=
    ⟨character, rest, rfl, starts, List.all_eq_true.mp continues⟩
  have isNumber : Terminal.IsNumber "1".toList :=
    .inr (.inr ⟨'1', [], [], [], rfl, rfl, by simp, .inl rfl, .inl rfl⟩)
  have derives := Derives.start <| .moreItems
    (.itemLet (@Derives.letStatement ⟨"x", .start⟩ ⟨"any", .start⟩ _ _
      (isName 'x' rfl [] rfl) (isName 'a' rfl ['n', 'y'] rfl)
      (.someInitializer <| .initializerConversion <|
        @Derives.conversion _ _ ⟨"str", .start⟩
          (@Derives.number ⟨"1", .start⟩ isNumber) (isName 's' rfl ['t', 'r'] rfl))))
    (.moreItems (.itemWord (@Derives.word ⟨"x", .start⟩ (isName 'x' rfl [] rfl))) .noItem)
  have blank : IsTrivia [' '] := .layout rfl .nil
  have lineFeed : IsTrivia ['\n'] := .layout rfl .nil
  have comment : IsTrivia [' ', '#', '\n'] := .layout rfl (.comment [] (by simp) .nil)
  have noKeyword (text : String)
      (isOther : text ∉ ["let", "fun", "if", "else", "true", "false"])
      (keyword : Keyword) : text ≠ keyword.text := by
    rintro rfl
    cases keyword <;> exact isOther (by decide)
  rcases ofText_iff_derives.1 _ _ _ derives
    (by simp [Lexeme.keyword, Lexeme.name, Lexeme.punctuation, noKeyword]) <|
    .next blank (by simp) <| .next blank (by simp) <| .next blank (by simp) <|
    .next blank (by simp) <| .next blank (by simp) <| .next blank (by simp) <|
    .next blank (by simp) <| .next lineFeed (by simp) <| .next comment (by simp) .nil
    with ⟨items, read, shape⟩
  rcases ofText_iff_derives.2 _ items read with ⟨lexemes, derivesItems, _⟩
  refine ⟨items, lexemes, read, ?_, derivesItems⟩
  rw [shape]
  simp [Derivation.unplaced, Derivation.leaf]

end Item

end StackLanguage
