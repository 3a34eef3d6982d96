import StackLanguage.Proofs.Ends
import StackLanguage.Proofs.Evaluation.SharedScopes

namespace StackLanguage

/-! What a run on shared scopes leaves of the scopes that were there before it. Bodies run
in new scopes and declare there, whatever they call, so that only a declaration changes an
older scope: the one it stands in, at its own name. -/

namespace Store

def OthersKeptIn (here : Nat) (store larger : Store) : Prop :=
  ∀ address cell,
    address ≠ here → get? store address = some cell → get? larger address = some cell

theorem OthersKeptIn.of_new {cell : Cell} {older larger : Store}
    (kept : OthersKeptIn older.length (cell :: older) larger) : KeptIn older larger := by
  intro address old found
  exact kept address old (Nat.ne_of_lt (lt_of_get? found))
    (keptIn_cons cell older address old found)

end Store

namespace SharedMachine

def KeepsScopes (before left : SharedMachine) : Prop :=
  Store.KeptIn before.store left.store

instance KeepsScopes.isPreorder : IsPreorder SharedMachine KeepsScopes where
  refl _ _ _ found := found
  trans _ _ _ first second address cell found :=
    second address cell (first address cell found)

def KeepsOthers (here : Nat) (before left : SharedMachine) : Prop :=
  Store.OthersKeptIn here before.store left.store

instance KeepsOthers.isPreorder (here : Nat) :
    IsPreorder SharedMachine (KeepsOthers here) where
  refl _ _ _ _ found := found
  trans _ _ _ first second address cell different found :=
    second address cell different (first address cell different found)

/-- Every scope is as it was, but for the entry of what a statement declares in the scope
that it runs in. -/
def Leaves (statement : Statement) (here : Nat) (before left : SharedMachine) : Prop :=
  ∀ address cell, Store.get? before.store address = some cell →
    ∃ cellLeft, Store.get? left.store address = some cellLeft ∧
      (cellLeft = cell ∨ address = here ∧
        ∃ identifier,
          statement.declared? = some identifier ∧ cell.SameBut identifier cellLeft)

variable {statement : Statement} {here : Nat} {before left : SharedMachine}

theorem Leaves.of_keeps (kept : KeepsScopes before left) :
    Leaves statement here before left :=
  fun address cell found => ⟨cell, kept address cell found, .inl rfl⟩

theorem Leaves.keepsOthers (leaves : Leaves statement here before left) :
    KeepsOthers here before left := by
  intro address cell different found
  obtain ⟨cellLeft, isLeft, rfl | ⟨same, -⟩⟩ := leaves address cell found
  · exact isLeft
  · exact absurd same different

theorem Leaves.keepsScopes (leaves : Leaves statement here before left)
    (declaresNothing : statement.declared? = none) : KeepsScopes before left := by
  intro address cell found
  obtain ⟨cellLeft, isLeft, rfl | ⟨-, identifier, declares, -⟩⟩ := leaves address
    cell found
  · exact isLeft
  · cases declares.symm.trans declaresNothing

theorem Leaves.of_change {between : SharedMachine} (kept : KeepsScopes before between)
    {edit : Cell → Cell} {identifier : Identifier}
    (declares : statement.declared? = some identifier)
    (sameBut : ∀ cell : Cell, cell.SameBut identifier (edit cell)) :
    Leaves statement here before
      { between with store := Store.change edit between.store here } := by
  intro address cell found
  have isBetween := kept address cell found
  simp only [Store.get?_change]
  by_cases same : address = here
  · subst same
    rw [if_pos rfl, isBetween]
    exact ⟨edit cell, rfl, .inr ⟨rfl, identifier, declares, sameBut cell⟩⟩
  · rw [if_neg same]
    exact ⟨cell, isBetween, .inl rfl⟩

end SharedMachine

namespace SharedRun

open SharedMachine

variable {Result : Type} {limit here : Nat}

theorem unscoped_keeps (here : Nat) (run : Run Result) :
    Keeps KeepsScopes (unscoped here run) := by
  intro shared
  unfold Ends unscoped
  cases run (shared.view here) <;> exact fun _ _ found => found

theorem inScope_keeps {run : Nat → SharedRun Unit}
    (keeps : ∀ inner, Keeps (KeepsOthers inner) (run inner)) :
    Keeps KeepsScopes (inScope here run) := by
  intro shared
  have kept := keeps shared.store.length
    { shared with store := .within here .empty :: shared.store }
  exact kept.mono (fun _ _ => Store.OthersKeptIn.of_new)
    fun _ _ => Store.OthersKeptIn.of_new

theorem inFrame_keeps (frame : List Value) (scope : Scope) (home : Nat)
    {run : Nat → SharedRun Unit}
    (keeps : ∀ inner, Keeps (KeepsOthers inner) (run inner)) :
    Keeps KeepsScopes (inFrame frame scope home run) := by
  intro shared
  have kept := keeps shared.store.length
    { shared with
      stack := frame, store := .within home scope.bindings :: shared.store,
      calls := shared.calls + 1, depth := shared.depth + 1 }
  unfold Ends at kept ⊢
  unfold inFrame
  generalize run _ _ = outcome at kept
  cases outcome <;> exact Store.OthersKeptIn.of_new kept

section Bodies

variable {body : Nat → List Statement → SharedRun Unit}
variable (bodyKeeps : ∀ inner list, Keeps (KeepsOthers inner) (body inner list))

include bodyKeeps

theorem call_keeps (location : Location) (name : String) :
    Keeps KeepsScopes (call body limit here location name) := by
  unfold call
  refine .get fun shared => ?_
  rcases Store.lookupClosure? shared.store here name with _ | ⟨function, home⟩
  · exact .throw _
  · refine .ite (.throw _) (.bind (unscoped_keeps here _) fun arguments => ?_)
    refine .bind (inFrame_keeps _ _ home fun inner => bodyKeeps inner function.body)
      fun left => ?_
    refine .ite ?_ (.pure ())
    cases left with
    | nil => exact .throw _
    | cons top rest => exact unscoped_keeps here _

theorem statement_ends (statement : Statement) (shared : SharedMachine) :
    Ends (SharedRun.statement body limit here statement) shared
      (fun _ left => shared.Leaves statement here left)
      fun _ left => shared.KeepsScopes left := by
  have ofKeeps
      (keeps : Keeps KeepsScopes (SharedRun.statement body limit here statement)) :
      Ends (SharedRun.statement body limit here statement) shared
        (fun _ left => shared.Leaves statement here left)
        fun _ left => shared.KeepsScopes left :=
    (keeps shared).mono (fun _ _ kept => .of_keeps kept) fun _ _ kept => kept
  cases statement with
  | push location value => exact ofKeeps (unscoped_keeps here (Run.push value))
  | word location name =>
      apply ofKeeps
      unfold SharedRun.statement
      dsimp only
      cases BuiltinWord.ofName? name with
      | none => exact .throw _
      | some builtin => exact unscoped_keeps here _
  | operator location symbol => exact ofKeeps (unscoped_keeps here _)
  | load location name =>
      refine ofKeeps (.get fun shared => ?_)
      cases lookupVariable? (Store.scopes shared.store here) name with
      | none => exact .throw _
      | some value => exact unscoped_keeps here _
  | call location name => exact ofKeeps (call_keeps bodyKeeps location name)
  | bind location name type initial =>
      have declares (value : Value) {between : SharedMachine}
          (kept : shared.KeepsScopes between) :
          shared.Leaves (.bind location name type initial) here
            { between with
              store := Store.change (·.bind name ⟨type, value⟩) between.store here } :=
        .of_change kept rfl fun cell => cell.sameBut_bind name _
      cases initial with
      | none =>
          refine Ends.bind ((unscoped_keeps here _ shared).mono ?_ fun _ _ kept => kept)
          exact fun value between kept => declares value kept
      | some value => exact declares value (refl_of KeepsScopes shared)
  | define location name parameters result statements =>
      exact Leaves.of_change (refl_of KeepsScopes shared) rfl fun cell =>
        cell.sameBut_define name _
  | ifThen location thenBody =>
      exact ofKeeps (.bind (unscoped_keeps here _) fun _ =>
        .ite (inScope_keeps fun inner => bodyKeeps inner thenBody) (.pure ()))
  | ifThenElse location thenBody elseBody =>
      exact ofKeeps (.bind (unscoped_keeps here _) fun _ =>
        .ite (inScope_keeps fun inner => bodyKeeps inner thenBody)
          (inScope_keeps fun inner => bodyKeeps inner elseBody))
  | block location statements =>
      exact ofKeeps (inScope_keeps fun inner => bodyKeeps inner statements)
  | unknown location kind => exact ofKeeps (.throw _)

end Bodies

theorem statements_keepsOthers (limit room here : Nat) (list : List Statement) :
    Keeps (KeepsOthers here) (statements limit room here list) := by
  -- Induction on the room for bodies, inside it on the list.
  induction room generalizing here list with
  | zero => exact .throw _
  | succ room bodyKeeps =>
      induction list with
      | nil => exact .pure ()
      | cons statement rest induction =>
          refine .bind (fun shared => ?_) fun _ => induction
          exact (statement_ends bodyKeeps statement shared).mono
            (fun _ _ leaves => leaves.keepsOthers) fun _ _ kept address cell _ found =>
              kept address cell found

end SharedRun

end StackLanguage
