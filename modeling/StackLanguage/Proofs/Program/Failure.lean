import StackLanguage.Proofs.Number.Nearest
import StackLanguage.Proofs.Program.Elaboration

namespace StackLanguage

/-! How a text can fail to be a program. What is wrong with a text is an error with a
place, except where a conversion takes an integer beyond the doubles to `float`: that is
no error but a fault. The first failure ends the elaboration, so the conversions that
count are the ones that it reaches. -/

theorem map_error_iff {Cause Source Result : Type} {outcome : Except Cause Source}
    {change : Source → Result} {cause : Cause} :
    outcome.map change = .error cause ↔ outcome = .error cause := by
  cases outcome <;> simp [Except.map]

theorem StringLiteral.decode_ne_missing {delimiter : Char} {characters : List Char}
    (isBody : Terminal.IsStringBody delimiter characters) :
    decode characters ≠ .error .missing := by
  induction isBody with
  | nil => nofun
  | plain _ noEscape _ induction =>
      rw [decode]
      · rwa [ne_eq, map_error_iff]
      · exact fun same => absurd same noEscape
      · exact fun _ _ same => absurd same noEscape
  | escape _ _ induction =>
      rw [decode]
      split
      · rwa [ne_eq, map_error_iff]
      · nofun

/-! ## Conversions beyond the doubles -/

theorem ValueType.ofName?_eq_float_iff {name : String} :
    ofName? name = some float ↔ name = "float" := by
  constructor
  · exact fun found => (ofName?_name found).symm
  · rintro rfl
    decide

namespace Value

theorem toInt_ne_overflow (value : Value) : value.toInt ≠ .error .overflow := by
  cases value with
  | int => nofun
  | float number =>
      simp only [toInt]
      split <;> nofun
  | string text =>
      simp only [toInt, Conversion.integerOfText]
      split
      · nofun
      · split <;> nofun
  | bool => nofun

theorem toFloat_overflow_iff {value : Value} :
    value.toFloat = .error .overflow ↔
      ∃ number, value = .int number ∧ Double.integerBound ≤ number.natAbs := by
  cases value with
  | int number =>
      simp only [toFloat, Value.int.injEq,
        exists_eq_left', ← Double.ofInteger?_eq_none_iff]
      split <;> simp_all
  | float => simp [toFloat]
  | string text =>
      simp only [toFloat]
      split <;> simp
  | bool => simp [toFloat]

theorem convert_overflow_iff {value : Value} {target : ValueType} :
    value.convert target = .error .overflow ↔
      target = .float ∧ ∃ number, value = .int number ∧
        Double.integerBound ≤ number.natAbs := by
  unfold convert
  split
  · next kept =>
      refine iff_of_false nofun ?_
      rintro ⟨rfl, number, rfl, _⟩
      rcases kept with same | same <;> cases same
  · split
    · next isString =>
        subst isString
        refine iff_of_false ?_ (fun conversion => nomatch conversion.1)
        split <;> nofun
    · split
      · next isInt =>
          subst isInt
          rw [map_error_iff]
          exact iff_of_false value.toInt_ne_overflow
            (fun conversion => nomatch conversion.1)
      · split
        · next isFloat => rw [map_error_iff, toFloat_overflow_iff, and_iff_right isFloat]
        · next notFloat =>
            exact iff_of_false nofun (fun conversion => notFloat conversion.1)

end Value

namespace Literal

def IsOversized (literal : Literal) : Prop :=
  ∃ spelling number, literal = .number spelling ∧
    Elaboration.numberValue? spelling.text.toList = some (.int number) ∧
    Double.integerBound ≤ number.natAbs

end Literal

def Item.Overflows : Item → Prop
  | .conversion value target => value.IsOversized ∧ target.text = "float"
  | .letBinding _ _ _ (some (.conversion value target)) =>
      value.IsOversized ∧ target.text = "float"
  | _ => False

namespace Elaboration

/-! ## Where faults come from -/

variable {file : String} {fault : Fault}

def NeverFaults {Result : Type} (outcome : Except SourceFailure Result) : Prop :=
  ∀ fault, outcome ≠ .error (.fault fault)

section NeverFaults

variable {First Second : Type} {first : Except SourceFailure First}
variable {second : First → Except SourceFailure Second}

theorem NeverFaults.ok (result : First) : NeverFaults (.ok result) := nofun

theorem NeverFaults.locate {position : Position} {found : Except SyntaxError First} :
    NeverFaults (locate file position found) := by
  cases found <;> exact nofun

theorem bind_error_iff {failure : SourceFailure} :
    (first >>= second) = .error failure ↔
      first = .error failure ∨
        ∃ between, first = .ok between ∧ second between = .error failure := by
  cases first <;> simp [bind, Except.bind]

theorem NeverFaults.bind (never : NeverFaults first)
    (neverAfter : ∀ between, NeverFaults (second between)) :
    NeverFaults (first >>= second) := by
  intro fault fails
  rcases bind_error_iff.mp fails with fails | ⟨between, _, fails⟩
  · exact never fault fails
  · exact neverAfter between fault fails

theorem NeverFaults.mapM {Source : Type} {make : Source → Except SourceFailure First}
    (never : ∀ source, NeverFaults (make source)) (sources : List Source) :
    NeverFaults (sources.mapM make) := by
  induction sources with
  | nil => exact .ok []
  | cons source rest induction =>
      rw [List.mapM_cons]
      exact (never source).bind fun _ => induction.bind fun _ => .ok _

theorem NeverFaults.optional {Source : Type} {make : Source → Except SourceFailure First}
    (never : ∀ source, NeverFaults (make source)) (source : Option Source) :
    NeverFaults (source.mapM make) := by
  cases source with
  | none => exact .ok none
  | some source => exact (never source).bind fun _ => .ok _

theorem NeverFaults.bind_fault_iff (never : NeverFaults first) :
    (first >>= second) = .error (.fault fault) ↔
      ∃ between, first = .ok between ∧ second between = .error (.fault fault) :=
  bind_error_iff.trans (or_iff_right (never fault))

theorem bind_fault_iff (neverAfter : ∀ between, NeverFaults (second between)) :
    (first >>= second) = .error (.fault fault) ↔ first = .error (.fault fault) :=
  bind_error_iff.trans
    (or_iff_left fun ⟨between, _, fails⟩ => neverAfter between fault fails)

end NeverFaults

theorem literalValue_neverFaults (literal : Literal) :
    NeverFaults (literalValue file literal) :=
  .locate

theorem typeNamed_neverFaults (name : Spelling) : NeverFaults (typeNamed file name) :=
  .locate

theorem boundName_neverFaults (name : Spelling) : NeverFaults (boundName file name) :=
  .locate

theorem literalValue_int_iff {literal : Literal} {number : Int} :
    literalValue file literal = .ok (.int number) ↔
      ∃ spelling, literal = .number spelling ∧
        numberValue? spelling.text.toList = some (.int number) := by
  cases literal with
  | string spelling =>
      cases decoded : stringValue spelling.text <;>
        simp [literalValue, locate, decoded, Except.map]
  | number spelling =>
      cases found : numberValue? spelling.text.toList <;>
        simp [literalValue, locate, numberValue, found]
  | truth => simp [literalValue, locate]

theorem typeNamed_float_iff {target : Spelling} :
    typeNamed file target = .ok .float ↔ target.text = "float" := by
  rw [← ValueType.ofName?_eq_float_iff]
  cases found : ValueType.ofName? target.text <;> simp [typeNamed, locate, found]

theorem convertedValue_fault_iff {literal : Literal} {target : Spelling} :
    convertedValue file literal target = .error (.fault fault) ↔
      fault = .literalOverflow ∧ literal.IsOversized ∧ target.text = "float" := by
  unfold convertedValue
  rw [(literalValue_neverFaults literal).bind_fault_iff]
  constructor
  · rintro ⟨value, isValue, failsAfter⟩
    rcases (typeNamed_neverFaults target).bind_fault_iff.mp failsAfter with
      ⟨type, isType, fails⟩
    split at fails
    · cases fails
    · next overflows =>
        rcases Value.convert_overflow_iff.mp overflows with ⟨rfl, number, rfl, isBeyond⟩
        rcases literalValue_int_iff.mp isValue with ⟨spelling, isNumber, isInteger⟩
        cases fails
        exact ⟨rfl, ⟨spelling, number, isNumber, isInteger, isBeyond⟩,
          typeNamed_float_iff.mp isType⟩
    · exact absurd fails (NeverFaults.locate _)
  · rintro ⟨rfl, ⟨spelling, number, isNumber, isInteger, isBeyond⟩, isFloat⟩
    refine ⟨.int number, literalValue_int_iff.mpr ⟨spelling, isNumber, isInteger⟩, ?_⟩
    refine (typeNamed_neverFaults target).bind_fault_iff.mpr
      ⟨.float, typeNamed_float_iff.mpr isFloat, ?_⟩
    rw [Value.convert_overflow_iff.mpr ⟨rfl, number, rfl, isBeyond⟩]

theorem parameters_neverFault (items : List ParameterItem) :
    NeverFaults (parameters file items) := by
  have parameter_neverFaults (item : ParameterItem) : NeverFaults (parameter file item) :=
    (typeNamed_neverFaults item.type).bind fun _ =>
      (NeverFaults.optional boundName_neverFaults item.name).bind fun _ => .ok _
  refine (NeverFaults.mapM parameter_neverFaults items).bind fun list => ?_
  dsimp only
  split
  · exact .locate
  · split
    · exact .locate
    · exact .ok list

/-! ## Conversions that are reached -/

inductive Enters (file : String)
    (body : List Item → Except SourceFailure (List Statement)) :
    Item → List Item → Prop
  | definition {header items list} (made : parameters file header.parameters = .ok list) :
      Enters file body (.function header items) items
  | onlyBranch {start thenBody} : Enters file body (.ifThen start thenBody) thenBody
  | thenBranch {start thenBody elseBody} :
      Enters file body (.ifThenElse start thenBody elseBody) thenBody
  | elseBranch {start thenBody elseBody statements}
      (made : body thenBody = .ok statements) :
      Enters file body (.ifThenElse start thenBody elseBody) elseBody
  | block {start items} : Enters file body (.block start items) items

/-- While items are elaborated, an item among them, at any depth, is taken: everything
before it has become statements. -/
inductive Reaches (file : String) : (room : Nat) → List Item → Item → Prop
  | here {room item rest} : Reaches file (room + 1) (item :: rest) item
  | inside {room item rest items reached}
      (enters : Enters file (statements file room) item items)
      (reaches : Reaches file room items reached) :
      Reaches file (room + 1) (item :: rest) reached
  | later {room item rest result reached}
      (made : statement file (statements file room) item = .ok result)
      (reaches : Reaches file (room + 1) rest reached) :
      Reaches file (room + 1) (item :: rest) reached

theorem initializerValue_fault_iff {initial : Initializer} :
    initializerValue file initial = .error (.fault fault) ↔
      fault = .literalOverflow ∧ ∃ value target, initial = .conversion value target ∧
        value.IsOversized ∧ target.text = "float" := by
  cases initial with
  | literal value =>
      have never : NeverFaults (initializerValue file (.literal value)) :=
        (literalValue_neverFaults value).bind fun found => .ok (found, value.position)
      exact iff_of_false (never fault) (by simp)
  | conversion value target =>
      refine (bind_fault_iff fun _ => .ok _).trans ?_
      simp [convertedValue_fault_iff]

section Bodies

variable {body : List Item → Except SourceFailure (List Statement)}

theorem letBinding_fault_iff {start : Position} {name type : Spelling}
    {initial : Option Initializer} :
    statement file body (.letBinding start name type initial) = .error (.fault fault) ↔
      fault = .literalOverflow ∧ (Item.letBinding start name type initial).Overflows := by
  refine (bind_fault_iff fun value => ?_).trans ?_
  · refine (typeNamed_neverFaults type).bind fun declared => ?_
    have bound : NeverFaults (do
        let bound ← boundName file name
        pure (Statement.bind ⟨file, start⟩ bound declared (value.map (·.1)))) :=
      (boundName_neverFaults name).bind fun _ => .ok _
    cases value with
    | none => exact bound
    | some found =>
        dsimp only
        split
        · exact bound
        · exact NeverFaults.locate.bind fun _ => bound
  · rcases initial with _ | (value | ⟨value, target⟩)
    · exact iff_of_false (NeverFaults.ok none fault) (fun overflow => overflow.2)
    · refine (bind_fault_iff fun _ => .ok _).trans (initializerValue_fault_iff.trans ?_)
      simp [Item.Overflows]
    · refine (bind_fault_iff fun _ => .ok _).trans (initializerValue_fault_iff.trans ?_)
      simp [Item.Overflows]

theorem statement_fault_iff {item : Item} :
    statement file body item = .error (.fault fault) ↔
      fault = .literalOverflow ∧ item.Overflows ∨
        ∃ items, Enters file body item items ∧ body items = .error (.fault fault) := by
  cases item with
  | letBinding start name type initial =>
      rw [letBinding_fault_iff, or_iff_left]
      exact fun ⟨_, enters, _⟩ => nomatch enters
  | function header items =>
      simp only [Item.Overflows, and_false, false_or]
      refine (parameters_neverFault header.parameters).bind_fault_iff.trans ?_
      have neverAfter (list : List Parameter) (statements : List Statement) :
          NeverFaults (do
            let result ← header.result.mapM (typeNamed file)
            let name ← boundName file header.name
            pure (Statement.define ⟨file, header.start⟩ name list result statements)) :=
        (NeverFaults.optional typeNamed_neverFaults header.result).bind fun _ =>
          (boundName_neverFaults header.name).bind fun _ => .ok _
      constructor
      · rintro ⟨list, made, fails⟩
        exact ⟨items, .definition made, (bind_fault_iff (neverAfter list)).mp fails⟩
      · rintro ⟨_, enters, fails⟩
        cases enters with
        | definition made => exact ⟨_, made, (bind_fault_iff (neverAfter _)).mpr fails⟩
  | ifThen start thenBody =>
      simp only [Item.Overflows, and_false, false_or]
      refine (bind_fault_iff fun _ => .ok _).trans
        ⟨fun fails => ⟨_, .onlyBranch, fails⟩, ?_⟩
      rintro ⟨_, enters, fails⟩
      cases enters
      exact fails
  | ifThenElse start thenBody elseBody =>
      simp only [Item.Overflows, and_false, false_or]
      refine bind_error_iff.trans ⟨?_, ?_⟩
      · rintro (fails | ⟨statements, made, fails⟩)
        · exact ⟨_, .thenBranch, fails⟩
        · exact ⟨_, .elseBranch made, (bind_fault_iff fun _ => .ok _).mp fails⟩
      · rintro ⟨_, enters, fails⟩
        cases enters with
        | thenBranch => exact .inl fails
        | elseBranch made =>
            exact .inr ⟨_, made, (bind_fault_iff fun _ => .ok _).mpr fails⟩
  | literal value =>
      refine iff_of_false
        ((literalValue_neverFaults value).bind (fun _ => .ok _) fault) ?_
      rintro (⟨_, ⟨⟩⟩ | ⟨_, ⟨⟩, _⟩)
  | conversion value target =>
      refine (bind_fault_iff fun _ => .ok _).trans (convertedValue_fault_iff.trans ?_)
      rw [or_iff_left (fun ⟨_, enters, _⟩ => nomatch enters)]
      exact .rfl
  | call name =>
      refine iff_of_false (NeverFaults.locate fault) ?_
      rintro (⟨_, ⟨⟩⟩ | ⟨_, ⟨⟩, _⟩)
  | word name =>
      refine iff_of_false (NeverFaults.locate fault) ?_
      rintro (⟨_, ⟨⟩⟩ | ⟨_, ⟨⟩, _⟩)
  | operator symbol =>
      refine iff_of_false (NeverFaults.ok _ fault) ?_
      rintro (⟨_, ⟨⟩⟩ | ⟨_, ⟨⟩, _⟩)
  | block start items =>
      simp only [Item.Overflows, and_false, false_or]
      refine (bind_fault_iff fun _ => .ok _).trans ⟨fun fails => ⟨_, .block, fails⟩, ?_⟩
      rintro ⟨_, enters, fails⟩
      cases enters
      exact fails

end Bodies

theorem statements_fault_iff {room : Nat} {items : List Item} :
    statements file room items = .error (.fault fault) ↔
      fault = .literalOverflow ∧ ∃ item, Reaches file room items item ∧
        item.Overflows := by
  induction room generalizing items with
  | zero => exact iff_of_false nofun (fun ⟨_, _, reaches, _⟩ => nomatch reaches)
  | succ room within =>
      induction items with
      | nil => exact iff_of_false nofun (fun ⟨_, _, reaches, _⟩ => nomatch reaches)
      | cons item rest later =>
          have split : statements file (room + 1) (item :: rest) =
              statement file (statements file room) item >>= fun first =>
                statements file (room + 1) rest >>= fun others =>
                  pure (first :: others) :=
            List.mapM_cons
          rw [split, bind_error_iff, statement_fault_iff]
          constructor
          · rintro ((⟨isOverflow, overflows⟩ | ⟨items, enters, fails⟩) |
              ⟨result, made, fails⟩)
            · exact ⟨isOverflow, item, .here, overflows⟩
            · rcases within.mp fails with ⟨isOverflow, reached, reaches, overflows⟩
              exact ⟨isOverflow, reached, .inside enters reaches, overflows⟩
            · rcases later.mp ((bind_fault_iff fun _ => .ok _).mp fails) with
                ⟨isOverflow, reached, reaches, overflows⟩
              exact ⟨isOverflow, reached, .later made reaches, overflows⟩
          · rintro ⟨isOverflow, reached, reaches, overflows⟩
            cases reaches with
            | here => exact .inl (.inl ⟨isOverflow, overflows⟩)
            | inside enters reaches =>
                have fails := within.mpr ⟨isOverflow, reached, reaches, overflows⟩
                exact .inl (.inr ⟨_, enters, fails⟩)
            | later made reaches =>
                have fails := later.mpr ⟨isOverflow, reached, reaches, overflows⟩
                exact .inr ⟨_, made, (bind_fault_iff fun _ => .ok _).mpr fails⟩

end Elaboration

namespace Program

variable {sourceName source : String}

theorem ofText_fault_iff {fault : Fault} :
    ofText sourceName source = .error (.fault fault) ↔
      fault = .literalOverflow ∧ ∃ items item, Item.ofText source = .ok items ∧
        Elaboration.Reaches sourceName nestingLimit items item ∧ item.Overflows := by
  unfold ofText
  cases Item.ofText source with
  | error failure => simp
  | ok items =>
      refine (Elaboration.bind_fault_iff fun _ => .ok _).trans ?_
      simp [Elaboration.statements_fault_iff]

/-- Every text is a program or has an error, unless elaboration reaches a conversion of an
integer literal beyond the doubles to `float`. Nothing else escapes: every fault is such
an overflow, and no escape of a string is cut off. -/
theorem ofText_answers_iff (sourceName source : String) :
    (((∃ program, ofText sourceName source = .ok program) ∨
        ∃ error, ofText sourceName source = .error (.error error)) ↔
      ∀ items item, Item.ofText source = .ok items →
        Elaboration.Reaches sourceName nestingLimit items item → ¬ item.Overflows) ∧
    (∀ fault,
      ofText sourceName source = .error (.fault fault) → fault = .literalOverflow) ∧
    ∀ items, Item.ofText source = .ok items → ∀ lexeme ∈ Item.listLexemes items,
      lexeme.terminal = .string →
        StringLiteral.decode (StringLiteral.body lexeme.text.toList) ≠
          .error .missing := by
  refine ⟨⟨?_, fun noOverflow => ?_⟩, fun fault fails => (ofText_fault_iff.mp fails).1,
    ?_⟩
  · intro answered items item read reaches overflows
    have fails : ofText sourceName source = .error (.fault .literalOverflow) :=
      ofText_fault_iff.mpr ⟨rfl, items, item, read, reaches, overflows⟩
    rcases answered with ⟨program, same⟩ | ⟨error, same⟩ <;> rw [same] at fails <;>
      cases fails
  · cases outcome : ofText sourceName source with
    | ok program => exact .inl ⟨program, rfl⟩
    | error failure =>
        cases failure with
        | error error => exact .inr ⟨error, rfl⟩
        | fault fault =>
            rcases ofText_fault_iff.mp outcome with
              ⟨_, items, item, read, reaches, overflows⟩
            exact absurd overflows (noOverflow items item read reaches)
  · intro items read lexeme member isString
    have proper := (Item.ofText_lexemes read).1 lexeme member
    rcases lexeme with ⟨terminal, text⟩
    cases isString
    rcases (show Terminal.IsString text.toList from proper) with
      ⟨delimiter, body, _, isBody, same⟩
    have inside : StringLiteral.body text.toList = body := by
      simp [StringLiteral.body, same]
    rw [inside]
    exact StringLiteral.decode_ne_missing isBody

theorem ofText_overflow :
    ofText defaultSourceName (String.ofList
        ('0' :: 'x' :: List.replicate 256 'f' ++
          [' ', '@', ' ', 'f', 'l', 'o', 'a', 't'])) =
      .error (.fault .literalOverflow) := by
  have reads : Reading.start.readText .start .start
      ('0' :: 'x' :: List.replicate 256 'f' ++ [' ', '@', ' ', 'f', 'l', 'o', 'a', 't']) =
        .ok [.conversion
          (.number ⟨String.ofList ('0' :: 'x' :: List.replicate 256 'f'), .start⟩)
          ⟨"float", ⟨1, 262⟩⟩] := by
    set_option maxRecDepth 2000 in cbv
  have value : Elaboration.numberValue? ('0' :: 'x' :: List.replicate 256 'f') =
      some (.int (2 ^ 1024 - 1)) := by
    decide +kernel
  rw [ofText_fault_iff]
  unfold Item.ofText
  rw [String.toList_ofList]
  refine ⟨rfl, _, _, reads, .here, ⟨_, 2 ^ 1024 - 1, rfl, ?_, by decide +kernel⟩, rfl⟩
  rw [String.toList_ofList, value]

end Program

end StackLanguage
