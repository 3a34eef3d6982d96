import StackLanguage.Proofs.Program.Items
import StackLanguage.Proofs.Program.WellFormed
import StackLanguage.Proofs.SyntaxTree.Parsing
import StackLanguage.Proofs.SyntaxTree.Places

namespace StackLanguage

/-! What is known of the program that a text is: its statements are well formed, and every
statement at any depth has a place of its own. -/

open Statement (everyNested AllWellFormed)

theorem Operator.isSome_ofSymbol? {symbol : String}
    (isOperator : symbol ∈ Terminal.operatorTexts) : (ofSymbol? symbol).isSome = true :=
  List.all_eq_true.mp
    (by decide : Terminal.operatorTexts.all (ofSymbol? · |>.isSome)) symbol isOperator

namespace Elaboration

/-- The statements at every depth that come from items: they have the places of the items,
and are well formed where the lexemes of the items match their terminals. -/
structure Yields (file : String) (starts : List Position) (lexemes : List Lexeme)
    (nested : List Statement) : Prop where
  locations : nested.map Statement.location = starts.map (⟨file, ·⟩)
  wellFormed : AllProper lexemes → ∀ statement ∈ nested, statement.IsWellFormed

namespace Yields

variable {file : String} {starts moreStarts : List Position}
    {lexemes moreLexemes : List Lexeme}
variable {nested moreNested : List Statement}

theorem nil : Yields file [] lexemes [] := ⟨rfl, fun _ => by simp⟩

theorem append (first : Yields file starts lexemes nested)
    (second : Yields file moreStarts moreLexemes moreNested) :
    Yields file (starts ++ moreStarts) (lexemes ++ moreLexemes)
      (nested ++ moreNested) := by
  refine ⟨by simp [first.locations, second.locations], fun proper => ?_⟩
  rw [AllProper.append_iff] at proper
  exact List.forall_mem_append.mpr ⟨first.wellFormed proper.1, second.wellFormed proper.2⟩

theorem cons {statement : Statement} {start : Position}
    (yields : Yields file starts lexemes nested)
    (location : statement.location = ⟨file, start⟩)
    (allProper : AllProper moreLexemes → AllProper lexemes)
    (wellFormed : AllProper moreLexemes → statement.IsWellFormed) :
    Yields file (start :: starts) moreLexemes (statement :: nested) :=
  ⟨by simp [location, yields.locations], fun proper =>
    List.forall_mem_cons.mpr ⟨wellFormed proper, yields.wellFormed (allProper proper)⟩⟩

theorem single {statement : Statement} {start : Position}
    (location : statement.location = ⟨file, start⟩)
    (wellFormed : AllProper lexemes → statement.IsWellFormed) :
    Yields file [start] lexemes [statement] :=
  nil.cons location id wellFormed

end Yields

variable {file : String}

section Bodies

variable {body : List Item → Except SourceFailure (List Statement)}

def BodiesYield (file : String)
    (body : List Item → Except SourceFailure (List Statement)) : Prop :=
  ∀ items list, body items = .ok list →
    Yields file (Item.listStarts items) (Item.listLexemes items) (everyNested list)

theorem allProper_of_block {items : List Item}
    (proper : AllProper (Item.blockLexemes items)) :
    AllProper (Item.listLexemes items) := by
  simp only [Item.blockLexemes, AllProper.append_iff, AllProper.cons_iff] at proper
  exact proper.1.2

theorem statement_yields (bodies : BodiesYield file body) {item : Item}
    {result : Statement} (succeeded : statement file body item = .ok result) :
    Yields file item.starts item.lexemes result.withNested := by
  cases item with
  | letBinding start name type initial =>
      rcases letBinding_ok succeeded with ⟨value, declared, bound, _, _, _, accepted, rfl⟩
      simp only [Statement.withNested, Item.starts]
      refine .single rfl fun _ => ?_
      cases value with
      | none => trivial
      | some found => exact accepted found rfl
  | function header items =>
      rcases function_ok succeeded with ⟨_, list, _, _, _, inside, _, _, rfl⟩
      simp only [Statement.withNested, Item.starts, Item.lexemes]
      exact (bodies items list inside).cons rfl
        (fun proper => allProper_of_block (AllProper.append_iff.mp proper).2)
        fun _ => trivial
  | ifThen start thenBody =>
      rcases ifThen_ok succeeded with ⟨list, inside, rfl⟩
      simp only [Statement.withNested, Item.starts, Item.lexemes]
      exact (bodies thenBody list inside).cons rfl
        (fun proper => allProper_of_block (AllProper.cons_iff.mp proper).2)
        fun _ => trivial
  | ifThenElse start thenBody elseBody =>
      rcases ifThenElse_ok succeeded with
        ⟨thenList, elseList, thenInside, elseInside, rfl⟩
      simp only [Statement.withNested, Item.starts, Item.lexemes]
      refine ((bodies thenBody thenList thenInside).append
        (bodies elseBody elseList elseInside)).cons rfl (fun proper => ?_)
        fun _ => trivial
      simp only [List.cons_append, AllProper.append_iff, AllProper.cons_iff] at proper
      exact AllProper.append_iff.mpr
        ⟨allProper_of_block proper.2.1, allProper_of_block proper.2.2.2⟩
  | literal value =>
      rcases literal_ok succeeded with ⟨pushed, _, rfl⟩
      simp only [Statement.withNested, Item.starts]
      exact .single rfl fun _ => trivial
  | conversion value target =>
      rcases conversion_ok succeeded with ⟨pushed, _, rfl⟩
      simp only [Statement.withNested, Item.starts]
      exact .single rfl fun _ => trivial
  | call name =>
      rcases call_ok succeeded with ⟨_, rfl⟩
      simp only [Statement.withNested, Item.starts]
      exact .single rfl fun _ => trivial
  | word name =>
      rcases word_ok succeeded with ⟨_, rfl⟩ | ⟨_, rfl⟩ <;>
        simp only [Statement.withNested, Item.starts] <;>
        exact .single rfl fun _ => trivial
  | operator symbol =>
      cases succeeded
      simp only [Statement.withNested, Item.starts, Item.lexemes]
      exact .single rfl fun proper =>
        Operator.isSome_ofSymbol? (AllProper.cons_iff.mp proper).1
  | block start items =>
      rcases block_ok succeeded with ⟨list, inside, rfl⟩
      simp only [Statement.withNested, Item.starts, Item.lexemes]
      exact (bodies items list inside).cons rfl allProper_of_block fun _ => trivial

theorem mapM_yields (bodies : BodiesYield file body) :
    BodiesYield file (·.mapM (statement file body)) := by
  intro items
  induction items with
  | nil =>
      intro list succeeded
      cases succeeded
      simp only [Item.listStarts]
      exact .nil
  | cons item rest induction =>
      intro list succeeded
      simp only [List.mapM_cons] at succeeded
      rcases of_bind_ok succeeded with ⟨first, isFirst, succeeded⟩
      rcases of_bind_ok succeeded with ⟨others, areOthers, succeeded⟩
      cases succeeded
      simp only [Item.listStarts, Item.listLexemes, everyNested]
      exact (statement_yields bodies isFirst).append (induction others areOthers)

end Bodies

theorem statements_yield (file : String) (room : Nat) :
    BodiesYield file (statements file room) := by
  induction room with
  | zero => exact fun _ _ succeeded => nomatch succeeded
  | succ room bodies => exact mapM_yields bodies

end Elaboration

namespace Program

variable {sourceName source : String} {program : Program}

theorem ofText_ok (read : ofText sourceName source = .ok program) :
    ∃ items, Item.ofText source = .ok items ∧
      Elaboration.statements sourceName nestingLimit items = .ok program.statements := by
  unfold ofText at read
  split at read
  · cases read
  · next items isRead =>
      rcases Elaboration.of_bind_ok read with ⟨statements, elaborated, same⟩
      cases same
      exact ⟨items, isRead, elaborated⟩

theorem ofText_sourceName (read : ofText sourceName source = .ok program) :
    program.sourceName = sourceName := by
  unfold ofText at read
  split at read
  · cases read
  · rcases Elaboration.of_bind_ok read with ⟨statements, _, same⟩
    cases same
    rfl

theorem ofText_allWellFormed (read : ofText sourceName source = .ok program) :
    AllWellFormed program.statements := by
  rcases ofText_ok read with ⟨items, isRead, elaborated⟩
  exact (Elaboration.statements_yield sourceName nestingLimit items _
    elaborated).wellFormed
    (Item.ofText_lexemes isRead).1

theorem ofText_locations_nodup (read : ofText sourceName source = .ok program) :
    ((everyNested program.statements).map Statement.location).Nodup := by
  rcases ofText_ok read with ⟨items, isRead, elaborated⟩
  rw [(Elaboration.statements_yield sourceName nestingLimit items _ elaborated).locations]
  refine List.Pairwise.map _ (fun first second different same => ?_)
    (Item.ofText_nodup isRead)
  cases same
  exact different rfl

end Program

end StackLanguage
