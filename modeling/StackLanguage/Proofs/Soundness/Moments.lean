import StackLanguage.Proofs.Soundness.Simulation

namespace StackLanguage

/-! Every moment of a run of statements that check: the statement that is carried out was
visited by the checker in a state that the machine agrees with, and finds what it was
checked with. -/

open Typing (IsChecked State)

variable {premises : Premises} {limit room : Nat}

/-- The checker has visited a statement, and the machine on which it is carried out agrees
with the state of the visit. -/
structure AgreesAt (premises : Premises) (current : Statement) (now : Machine)
    (state : State) : Prop where
  visited : premises.visited current state
  fits : Fits state now current
  agrees : ∃ known outer rest, Agrees premises known outer (current :: rest) state now

theorem enters_sound {known : List Typing.Scope} {outer : List Scope}
    {statement : Statement} {rest : List Statement} {state after : State}
    {machine : Machine}
    (checked : IsChecked premises.visited (statement :: rest) state after)
    (agrees : Agrees premises known outer (statement :: rest) state machine)
    (fits : Fits state machine statement) {body : List Statement} {bodyMachine : Machine}
    (enters : Run.Enters limit statement machine body bodyMachine) :
    ∃ bodyKnown bodyOuter bodyState bodyAfter,
      IsChecked premises.visited body bodyState bodyAfter ∧
      Agrees premises bodyKnown bodyOuter body bodyState bodyMachine := by
  rcases checked.cons with ⟨_, _, checkRoom, between, first, _, bodies⟩
  cases enters with
  | call found allowed supplied =>
      rcases agrees.callee fits first with
        ⟨function, inner, defining, bodyKnown, types, scope,
          bodyAfter, _, isFound, _, checks, entered, _⟩
      rw [found] at isFound
      cases isFound
      exact ⟨_, _, _, bodyAfter, checks.checked, entered⟩
  | onlyBranch popped holds =>
      rcases Typing.Check.ifThen_ok first with ⟨stack, inner, dropped, bodyChecked, _⟩
      rcases agrees.pops dropped with ⟨value, values, valuesAre, _, stackFits⟩
      rw [popped] at valuesAre
      cases valuesAre
      exact ⟨_, _, _, _, bodies (.onlyBranch dropped) bodyChecked,
        agrees.inner (.head _) stackFits⟩
  | thenBranch popped holds =>
      rcases Typing.Check.ifThenElse_ok first with
        ⟨stack, inner, _, dropped, bodyChecked, _⟩
      rcases agrees.pops dropped with ⟨value, values, valuesAre, _, stackFits⟩
      rw [popped] at valuesAre
      cases valuesAre
      exact ⟨_, _, _, _, bodies (.thenBranch dropped) bodyChecked,
        agrees.inner (.head _) stackFits⟩
  | elseBranch popped fails =>
      rcases Typing.Check.ifThenElse_ok first with
        ⟨stack, thenInner, _, dropped, thenChecked, bodyChecked, _⟩
      rcases agrees.pops dropped with ⟨value, values, valuesAre, _, stackFits⟩
      rw [popped] at valuesAre
      cases valuesAre
      rw [Typing.checkStatements_tail thenChecked] at bodyChecked
      exact ⟨_, _, _, _, bodies (.elseBranch dropped) bodyChecked,
        agrees.inner (.tail _ (.head _)) stackFits⟩
  | block =>
      rcases Typing.Check.block_ok first with ⟨inner, bodyChecked, _⟩
      exact ⟨_, _, _, _, bodies .block bodyChecked, agrees.inner (.head _) agrees.stack⟩

theorem Run.Moment.agreesAt {list : List Statement} {machine now : Machine}
    {current : Statement} (moment : Run.Moment limit room list machine current now)
    {known : List Typing.Scope} {outer : List Scope} {state after : State}
    (checked : IsChecked premises.visited list state after)
    (agrees : Agrees premises known outer list state machine)
    (harmless : IsHarmless premises limit room list machine) :
    ∃ currentState, AgreesAt premises current now currentState := by
  induction moment generalizing known outer state after with
  | here =>
      rcases checked.cons with ⟨visited, _, _, _, first, _⟩
      exact ⟨state, visited, harmless.fits agrees first visited, known, outer, _, agrees⟩
  | inside enters _ induction =>
      rcases checked.cons with ⟨visited, _, _, _, first, _⟩
      rcases enters_sound checked agrees (harmless.fits agrees first visited) enters with
        ⟨_, _, _, _, bodyChecked, bodyAgrees⟩
      exact induction bodyChecked bodyAgrees (harmless.inside enters)
  | later ran _ induction =>
      rcases checked.cons with ⟨visited, wellFormed, _, _, first, remaining, bodies⟩
      have ends :=
        statement_sound (runsSoundly premises limit _) agrees visited wellFormed first
          bodies harmless
      unfold Ends at ends
      rw [ran] at ends
      exact induction remaining ends (harmless.later ran)

end StackLanguage
