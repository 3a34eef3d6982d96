import StackLanguage.Proofs.Evaluation.Room
import StackLanguage.Proofs.Typing.Declaring

namespace StackLanguage

/-! The scopes that a run leaves, however it comes to an end. The innermost one holds what
the statements declare that were carried out to their end, and the scopes around it are as
they were. -/

namespace Statement.LeavesScopes

variable {statement : Statement} {machine left : Machine}

theorem outer (leaves : statement.LeavesScopes machine left.scopes) :
    left.scopes.tail = machine.scopes.tail := by
  cases statement with
  | bind =>
      rcases leaves with ⟨value, leaves⟩
      rw [leaves]
      rfl
  | define => rw [show left.scopes = _ from leaves]; rfl
  | _ => rw [show left.scopes = machine.scopes from leaves]

theorem declarations (leaves : statement.LeavesScopes machine left.scopes) :
    left.scope.declarations = machine.scope.declarations.declaring statement := by
  cases statement with
  | bind =>
      rcases leaves with ⟨value, leaves⟩
      rw [Machine.scope, leaves]
      exact Scope.declarations_bind _ _ _
  | define =>
      rw [Machine.scope, show left.scopes = _ from leaves]
      exact Scope.declarations_define _ _ _
  | _ => rw [Machine.scope, show left.scopes = machine.scopes from leaves]; rfl

end Statement.LeavesScopes

namespace Run

variable {limit room : Nat} {statement : Statement} {machine : Machine}

theorem after_outer (limit room : Nat) (list : List Statement) (machine : Machine) :
    ((statements limit room list).after machine).scopes.tail = machine.scopes.tail := by
  apply after_induction fun _ machine left => left.scopes.tail = machine.scopes.tail
  case nothing => exact fun _ _ => rfl
  case apart =>
    intro statement machine left isApart
    rcases isApart.scopes with same | leaves
    · rw [same]
    · exact leaves.outer
  case back =>
    exact fun _ _ _ _ _ _ _ same isBack => congrArg List.tail (isBack.scopes same)
  case early => exact fun _ _ _ _ same => same
  case later => exact fun _ _ _ _ _ same again => again.trans same

theorem statements_ends_outer (limit room : Nat) (list : List Statement)
    (machine : Machine) :
    Ends (statements limit room list) machine
      (fun _ left => left.scopes.tail = machine.scopes.tail)
      fun _ left => left.scopes.tail = machine.scopes.tail := by
  have outer := after_outer limit room list machine
  unfold after at outer
  unfold Ends
  cases outcome : statements limit room list machine <;>
    (rw [outcome] at outer; exact outer)

theorem statement_ends_scopes (limit room : Nat) (statement : Statement)
    (machine : Machine) :
    Ends (Run.statement (statements limit room) limit statement) machine
      (fun _ left => statement.LeavesScopes machine left.scopes)
      fun _ left => left.scopes = machine.scopes := by
  rcases Enters.exists_or_none limit statement machine with
    ⟨list, bodyMachine, enters⟩ | none
  · have same :=
      (statement_isBack (statements limit room) enters).scopes (after_outer _ _ _ _)
    have still : statement.LeavesScopes machine machine.scopes := by
      cases enters <;> rfl
    unfold after at same
    unfold Ends
    cases ran : Run.statement (statements limit room) limit statement machine with
    | ok _ left =>
        rw [ran] at same
        exact same ▸ still
    | error stop left =>
        rw [ran] at same
        exact same
  · exact (statement_ends_of_not_enters _ none).mono (fun _ _ ended => ended.2)
      fun _ _ stopped => stopped.2.2.2

def completed (limit room : Nat) : List Statement → Machine → List Statement
  | [], _ => []
  | statement :: rest, machine =>
      match statements limit room [statement] machine with
      | .ok _ between => statement :: completed limit room rest between
      | .error _ _ => []

theorem completed_cons (limit room : Nat) (statement : Statement) (rest : List Statement)
    (machine : Machine) :
    completed limit (room + 1) (statement :: rest) machine =
      match Run.statement (statements limit room) limit statement machine with
      | .ok _ between => statement :: completed limit (room + 1) rest between
      | .error _ _ => [] := by
  rw [completed, statements_cons]
  cases Run.statement (statements limit room) limit statement machine <;> rfl

theorem completed_of_ok {list : List Statement} {left : Machine}
    (ran : statements limit room list machine = .ok () left) :
    completed limit room list machine = list := by
  cases room with
  | zero => cases ran
  | succ room =>
      induction list generalizing machine with
      | nil => rfl
      | cons statement rest induction =>
          rw [statements_cons] at ran
          rw [completed_cons]
          cases first : Run.statement (statements limit room) limit statement machine with
          | ok _ between =>
              rw [first] at ran
              exact congrArg (statement :: ·) (induction ran)
          | error stop between =>
              rw [first] at ran
              cases ran

/-- A run leaves in the innermost scope what was declared there and what the statements
declare that it has carried out to their end. -/
theorem after_declarations (limit room : Nat) (list : List Statement)
    (machine : Machine) :
    ((statements limit room list).after machine).scope.declarations =
      machine.scope.declarations.declaringAll (completed limit room list machine) := by
  cases room with
  | zero => cases list <;> rfl
  | succ room =>
      induction list generalizing machine with
      | nil => rfl
      | cons statement rest induction =>
          have ends := statement_ends_scopes limit room statement machine
          unfold Ends at ends
          unfold after at induction ⊢
          rw [statements_cons, completed_cons]
          cases first : Run.statement (statements limit room) limit statement machine with
          | ok _ between =>
              rw [first] at ends
              exact (induction between).trans (by rw [ends.declarations]; rfl)
          | error stop left =>
              rw [first] at ends
              rw [Machine.scope, show left.scopes = machine.scopes from ends]
              rfl

end Run

end StackLanguage
