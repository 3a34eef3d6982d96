import Mathlib.Data.List.Nodup
import StackLanguage.Proofs.Typing.Visits

namespace StackLanguage

/-! Where statements have places of their own, the checker comes to each of them in one
state at most: a statement stands for one occurrence in the text. -/

namespace Statement

def HavePlaces (statements : List Statement) : Prop :=
  ((everyNested statements).map location).Nodup

namespace HavePlaces

variable {statement inner : Statement} {rest : List Statement}

theorem tail (places : HavePlaces (statement :: rest)) : HavePlaces rest := by
  unfold HavePlaces at places ⊢
  rw [everyNested, List.map_append] at places
  exact (List.nodup_append.mp places).2.1

theorem not_mem_tail (places : HavePlaces (statement :: rest))
    (member : inner ∈ statement.withNested) : inner ∉ everyNested rest := by
  intro again
  unfold HavePlaces at places
  rw [everyNested, List.map_append] at places
  exact (List.nodup_append.mp places).2.2 _ (List.mem_map_of_mem member) _
    (List.mem_map_of_mem again) rfl

theorem bodies_nodup (places : HavePlaces (statement :: rest)) :
    statement.location ∉
      (statement.bodies.flatMap fun body => everyNested body.2).map location ∧
      ((statement.bodies.flatMap fun body => everyNested body.2).map location).Nodup := by
  unfold HavePlaces at places
  rw [everyNested, List.map_append] at places
  have inside := (List.nodup_append.mp places).1
  rw [withNested_eq, List.map_cons, List.nodup_cons] at inside
  exact inside

theorem not_mem_body (places : HavePlaces (statement :: rest)) {known : List Identifier}
    {body : List Statement} (isBody : (known, body) ∈ statement.bodies) :
    statement ∉ everyNested body := fun member =>
  places.bodies_nodup.1
    (List.mem_map_of_mem (List.mem_flatMap.mpr ⟨(known, body), isBody, member⟩))

theorem body (places : HavePlaces (statement :: rest)) {known : List Identifier}
    {body : List Statement} (isBody : (known, body) ∈ statement.bodies) :
    HavePlaces body := by
  have inside := places.bodies_nodup.2
  rw [List.map_flatMap] at inside
  exact (List.nodup_flatMap.mp inside).1 _ isBody

theorem body_unique (places : HavePlaces (statement :: rest))
    {known otherKnown : List Identifier} {body otherBody : List Statement}
    (isBody : (known, body) ∈ statement.bodies)
    (isOther : (otherKnown, otherBody) ∈ statement.bodies)
    (member : inner ∈ everyNested body) (again : inner ∈ everyNested otherBody) :
    body = otherBody := by
  have inside := places.bodies_nodup.2
  cases statement <;>
    simp only [bodies, List.mem_cons, List.not_mem_nil, or_false,
      Prod.mk.injEq] at isBody isOther
  case ifThenElse =>
    simp only [bodies, List.flatMap_cons, List.flatMap_nil, List.append_nil,
      List.map_append]
      at inside
    have apart (inThen : inner ∈ everyNested _) (inElse : inner ∈ everyNested _) :
        False :=
      (List.nodup_append.mp inside).2.2 _ (List.mem_map_of_mem inThen) _
        (List.mem_map_of_mem inElse) rfl
    rcases isBody with ⟨_, rfl⟩ | ⟨_, rfl⟩ <;> rcases isOther with ⟨_, rfl⟩ | ⟨_, rfl⟩
    · rfl
    · exact (apart member again).elim
    · exact (apart again member).elim
    · rfl
  all_goals exact isBody.2.trans isOther.2.symm

end HavePlaces

end Statement

namespace Typing

theorem StartsBody.unique {parameters : List Parameter}
    {stack otherStack : List ValueType} {scope otherScope : Scope}
    (starts : StartsBody parameters stack scope)
    (again : StartsBody parameters otherStack otherScope) :
    otherStack = stack ∧ otherScope = scope := by
  unfold StartsBody at starts again
  split at starts
  · next named =>
      rw [if_pos named] at again
      exact ⟨again.1.trans starts.1.symm, Except.ok.inj (again.2.symm.trans starts.2)⟩
  · next unnamed =>
      rw [if_neg unnamed] at again
      exact ⟨again.1.trans starts.1.symm, again.2.trans starts.2.symm⟩

theorem Enters.unique {statement : Statement} {state one other : State}
    {body : List Statement} (enters : Enters statement state body one)
    (again : Enters statement state body other) : other = one := by
  cases enters with
  | definition declared starts =>
      cases again with
      | definition declaredAgain startsAgain =>
          cases declared.symm.trans declaredAgain
          rcases starts.unique startsAgain with ⟨rfl, rfl⟩
          rfl
  | onlyBranch popped =>
      cases again with
      | onlyBranch poppedAgain => cases popped.symm.trans poppedAgain; rfl
  | thenBranch popped =>
      cases again with
      | thenBranch poppedAgain => cases popped.symm.trans poppedAgain; rfl
      | elseBranch poppedAgain => cases popped.symm.trans poppedAgain; rfl
  | elseBranch popped =>
      cases again with
      | thenBranch poppedAgain => cases popped.symm.trans poppedAgain; rfl
      | elseBranch poppedAgain => cases popped.symm.trans poppedAgain; rfl
  | block =>
      cases again with
      | block => rfl

/-- A statement with a place of its own is visited in one state at most. -/
theorem Visits.unique {room : Nat} {statements : List Statement} {state one other : State}
    {visited : Statement} (visits : Visits room statements state visited one)
    (places : Statement.HavePlaces statements)
    (again : Visits room statements state visited other) : other = one := by
  induction visits with
  | here =>
      cases again with
      | here => rfl
      | inside enters inner =>
          rcases enters.isBody with ⟨known, isBody⟩
          exact absurd inner.mem (places.not_mem_body isBody)
      | later _ remaining =>
          exact absurd remaining.mem
            (places.not_mem_tail (Statement.mem_withNested_self _))
  | inside enters visits induction =>
      rcases enters.isBody with ⟨known, isBody⟩
      cases again with
      | here => exact absurd visits.mem (places.not_mem_body isBody)
      | inside entersAgain inner =>
          rcases entersAgain.isBody with ⟨otherKnown, isOther⟩
          cases places.body_unique isBody isOther visits.mem inner.mem
          cases enters.unique entersAgain
          exact induction (places.body isBody) inner
      | later _ remaining =>
          exact absurd remaining.mem
            (places.not_mem_tail (Statement.mem_withNested_of_body isBody visits.mem))
  | later checked visits induction =>
      cases again with
      | here =>
          exact absurd visits.mem (places.not_mem_tail (Statement.mem_withNested_self _))
      | inside enters inner =>
          rcases enters.isBody with ⟨known, isBody⟩
          exact absurd visits.mem
            (places.not_mem_tail (Statement.mem_withNested_of_body isBody inner.mem))
      | later checkedAgain remaining =>
          cases checked.symm.trans checkedAgain
          exact induction places.tail remaining

end Typing

end StackLanguage
