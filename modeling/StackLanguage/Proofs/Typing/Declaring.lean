import StackLanguage.Proofs.Typing.Visits

namespace StackLanguage

/-! What statements declare where they stand. A check that succeeds has declared this in
the innermost scope and nothing else. -/

namespace Typing

namespace Scope

def declaring (scope : Scope) : Statement → Scope
  | .bind _ name type _ => { scope with types := scope.types.set name type }
  | .define _ name parameters result _ =>
      { scope with signatures := scope.signatures.set name (.of parameters result) }
  | _ => scope

def declaringAll (scope : Scope) (statements : List Statement) : Scope :=
  statements.foldl declaring scope

def SameAs (scope other : Scope) : Prop :=
  ∀ identifier, scope.declaration? identifier = other.declaration? identifier

end Scope

variable {room : Nat} {state after : State}

theorem checkStatement_scope {statement : Statement}
    (checked : checkStatement (checkStatements room) statement state = .ok () after) :
    after.scope = state.scope.declaring statement := by
  cases statement with
  | push => rw [Check.push_ok checked]; rfl
  | word =>
      rcases Check.word_ok checked with ⟨_, _, _, _, rfl⟩
      rfl
  | operator =>
      rcases Check.operator_ok checked with ⟨_, _, rfl⟩
      rfl
  | load =>
      rcases Check.load_ok checked with ⟨_, _, rfl⟩
      rfl
  | call =>
      rcases Check.call_ok checked with ⟨_, _, _, _, rfl⟩
      rfl
  | bind =>
      rcases Check.bind_ok checked with ⟨_, _, _, declared, rfl⟩
      exact (Scope.declareVariable_ok declared).1
  | define =>
      rcases Check.define_ok checked with ⟨_, _, _, _, declared, _, inside, _, rfl⟩
      rw [State.scope, checkStatements_tail inside]
      exact (Scope.declareFunction_ok declared).1
  | ifThen =>
      rcases Check.ifThen_ok checked with ⟨_, _, _, inside, _, rfl⟩
      rw [State.scope, checkStatements_tail inside]
      rfl
  | ifThenElse =>
      rcases Check.ifThenElse_ok checked with ⟨_, _, _, _, thenInside, elseInside, _, rfl⟩
      rw [State.scope, checkStatements_tail elseInside]
      rw [List.tail_cons, checkStatements_tail thenInside]
      rfl
  | block =>
      rcases Check.block_ok checked with ⟨_, inside, rfl⟩
      rw [State.scope, checkStatements_tail inside]
      rfl
  | unknown => exact absurd checked Check.unknown_not_ok

theorem checkStatements_scope {statements : List Statement}
    (checked : checkStatements room statements state = .ok () after) :
    after.scope = state.scope.declaringAll statements := by
  cases room with
  | zero => cases checked
  | succ room =>
      induction statements generalizing state with
      | nil => rw [checkStatements_nil_ok checked]; rfl
      | cons statement rest induction =>
          rcases checkStatements_cons_ok checked with ⟨between, first, remaining⟩
          rw [induction remaining, checkStatement_scope first]
          rfl

end Typing

end StackLanguage
