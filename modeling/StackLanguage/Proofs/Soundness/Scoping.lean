import StackLanguage.Proofs.Soundness.Programs
import StackLanguage.Proofs.Typing.Occurrences

namespace StackLanguage

/-! Lexical scoping: at every moment of a run, a name is found to be what the checker
found it to be at the same place of the text. The scopes around the definition of a
function may grow before it is called, and a name that the body had further out can be
overtaken by then. Nothing else can go wrong. -/

open Statement (NestedInTime)

namespace Program

def IsCarriedOut (program : Program) (limit : Nat) (machine : Machine)
    (current : Statement) (now : Machine) : Prop :=
  Run.Moment limit nestingLimit program.statements machine current now

/-- The checker came to the statement in one state only, and what the statement uses is
now found to be what it was in that state. -/
def FindsChecked (program : Program) (current : Statement) (now : Machine) : Prop :=
  ∃ state,
    (∀ other, program.IsVisited current other ↔ other = state) ∧ Fits state now current

section Runs

variable {sourceName source : String} {program : Program}
variable (read : ofText sourceName source = .ok program)
variable (accepted : (Typing.checkProgram [.empty] program).1 = .ok ())
variable {limit : Nat} {machine : Machine} (stack : machine.stack = [])
variable (scopes : machine.scopes = [.empty])

include read in
theorem isVisited_unique {current : Statement} {state other : Typing.State}
    (visited : program.IsVisited current state)
    (again : program.IsVisited current other) : other = state :=
  Typing.Visits.unique visited (ofText_locations_nodup read) again

include read accepted stack scopes

theorem findsChecked_of_harmless
    (harmless : NestedInTime program.statements ∨ ∀ current now state,
      program.IsCarriedOut limit machine current now → program.IsVisited current state →
        IsOvertaken state now current → Fits state now current)
    {current : Statement} {now : Machine}
    (moment : program.IsCarriedOut limit machine current now) :
    program.FindsChecked current now := by
  let premises : Premises := ⟨NestedInTime program.statements, program.IsVisited⟩
  have allVisited current state (visited : program.IsVisited current state) :
      premises.visited current state := visited
  rcases isChecked_of_accepted read accepted allVisited with ⟨after, isChecked, _⟩
  have agrees : Agrees premises [] [] program.statements ⟨[], [.empty]⟩ machine :=
    .clean stack scopes id
  rcases moment.agreesAt isChecked agrees harmless with ⟨state, agreesAt⟩
  refine ⟨state, fun other => ⟨isVisited_unique read agreesAt.visited, ?_⟩, agreesAt.fits⟩
  rintro rfl
  exact agreesAt.visited

/-- A run finds what was checked at every moment if lists inside statements declare in
time, and in any case exactly if it does so wherever a name was overtaken. -/
theorem findsChecked_iff :
    (NestedInTime program.statements → ∀ current now,
      program.IsCarriedOut limit machine current now → program.FindsChecked current now) ∧
    ((∀ current now, program.IsCarriedOut limit machine current now →
        program.FindsChecked current now) ↔
      ∀ current now state, program.IsCarriedOut limit machine current now →
        program.IsVisited current state → IsOvertaken state now current →
          Fits state now current) := by
  refine ⟨fun inTime current now => ?_,
    fun finds current now state moment visited _ => ?_,
    fun overtaken current now => ?_⟩
  · exact findsChecked_of_harmless read accepted stack scopes (.inl inTime)
  · rcases finds current now moment with ⟨checked, unique, fits⟩
    rw [(unique state).mp visited]
    exact fits
  · exact findsChecked_of_harmless read accepted stack scopes (.inr overtaken)

end Runs

theorem findsChecked_scopedCall : ∃ now,
    scopedCall.IsCarriedOut 100 (.initial []) (.load ⟨"<input>", ⟨2, 18⟩⟩ "x") now ∧
      scopedCall.FindsChecked (.load ⟨"<input>", ⟨2, 18⟩⟩ "x") now := by
  have moment :
      scopedCall.IsCarriedOut 100 (.initial []) (.load ⟨"<input>", ⟨2, 18⟩⟩ "x") _ :=
    .later rfl
      (.inside .block (.later rfl (.inside (.call rfl (by decide) (by decide)) .here)))
  exact ⟨_, moment, (findsChecked_iff ofText_scopedCall checkProgram_scopedCall rfl rfl).1
    nestedInTime_scopedCall _ _ moment⟩

/-! ## A name that is overtaken -/

/-- The body of the function was checked with the outer variable. When it runs, the block
has declared another one with a type of its own. -/
def lateShadow : Program where
  statements :=
    [.bind ⟨"<input>", ⟨1, 1⟩⟩ "x" .int (some (.int 1)),
     .block ⟨"<input>", ⟨2, 1⟩⟩
       [.define ⟨"<input>", ⟨2, 3⟩⟩ "f" [] (some .int) [.load ⟨"<input>", ⟨2, 18⟩⟩ "x"],
        .bind ⟨"<input>", ⟨2, 22⟩⟩ "x" .string (some (.string "a")),
        .call ⟨"<input>", ⟨2, 42⟩⟩ "f",
        .word ⟨"<input>", ⟨2, 46⟩⟩ "println"]]
  sourceName := "<input>"

theorem lateShadow_not_findsChecked :
    ofText "<input>"
      "let x: int = 1\n\x7b fun f -> int \x7b x \x7d let x: string = \"a\" f() println \x7d" =
      .ok lateShadow ∧
    (Typing.checkProgram [.empty] lateShadow).1 = .ok () ∧
    ∃ now,
      lateShadow.IsCarriedOut 100 (.initial []) (.load ⟨"<input>", ⟨2, 18⟩⟩ "x") now ∧
      ¬ lateShadow.FindsChecked (.load ⟨"<input>", ⟨2, 18⟩⟩ "x") now := by
  have visited : lateShadow.IsVisited (.load ⟨"<input>", ⟨2, 18⟩⟩ "x") _ :=
    .later rfl (.inside .block (.inside (.definition rfl ⟨rfl, rfl⟩) .here))
  have moment :
      lateShadow.IsCarriedOut 100 (.initial []) (.load ⟨"<input>", ⟨2, 18⟩⟩ "x") _ :=
    .later rfl (.inside .block (.later rfl (.later rfl
      (.inside (.call rfl (by decide) (by decide)) .here))))
  refine ⟨by cbv, by cbv, _, moment, ?_⟩
  rintro ⟨state, unique, type, value, isType, isValue, accepted⟩
  cases (unique _).mp visited
  cases isType
  cases isValue
  cases accepted

end Program

end StackLanguage
