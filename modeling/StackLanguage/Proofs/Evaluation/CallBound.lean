import Mathlib.Algebra.BigOperators.Group.Finset.Basic
import Mathlib.Algebra.BigOperators.Ring.Finset
import Mathlib.Algebra.Ring.GeomSum
import StackLanguage.Proofs.Evaluation.Room
import StackLanguage.Proofs.Program.Nesting

namespace StackLanguage

/-! How many calls a run makes. Each call that is carried out goes to a function whose
body stands in the program, so a call with `remaining` more calls allowed causes at most
`1 + count + count ^ 2 + …` calls, `remaining` summands, where no body has more than
`count` call sites. -/

namespace Statement

mutual

def callSites : Statement → Nat
  | .call _ _ => 1
  | .ifThen _ thenBody => callSitesIn thenBody
  | .ifThenElse _ thenBody elseBody => callSitesIn thenBody + callSitesIn elseBody
  | .block _ body => callSitesIn body
  | .push _ _ | .word _ _ | .operator _ _ | .load _ _ | .bind _ _ _ _ | .define _ _ _ _ _
  | .unknown _ _ => 0

def callSitesIn : List Statement → Nat
  | [] => 0
  | statement :: rest => statement.callSites + callSitesIn rest

end

theorem callSitesIn_le_of_mem_parts {statement : Statement} {list : List Statement}
    (isPart : list ∈ statement.parts) : callSitesIn list ≤ statement.callSites := by
  cases statement <;>
    simp only [parts, List.mem_cons, List.not_mem_nil, or_false] at isPart
  case ifThen => subst isPart; rw [callSites]
  case ifThenElse => rw [callSites]; rcases isPart with rfl | rfl <;> omega
  case block => subst isPart; rw [callSites]

def BodiesCallAtMost (count : Nat) (statements : List Statement) : Prop :=
  ∀ location name parameters result body,
    .define location name parameters result body ∈ everyNested statements →
      callSitesIn body ≤ count

/-- Neither the statements themselves nor the functions that are defined in them, at any
depth, have more than `count` call sites. -/
def CallAtMost (count : Nat) (statements : List Statement) : Prop :=
  callSitesIn statements ≤ count ∧ BodiesCallAtMost count statements

namespace BodiesCallAtMost

variable {count : Nat} {statement : Statement} {rest body : List Statement}

theorem head (few : BodiesCallAtMost count (statement :: rest)) :
    BodiesCallAtMost count [statement] := by
  intro location name parameters result body member
  apply few location name parameters result body
  simp only [everyNested, List.append_nil] at member
  exact mem_everyNested_head member

theorem tail (few : BodiesCallAtMost count (statement :: rest)) :
    BodiesCallAtMost count rest :=
  fun location name parameters result body member =>
    few location name parameters result body (mem_everyNested_tail member)

theorem of_body {known : List Identifier}
    (few : BodiesCallAtMost count (statement :: rest))
    (isBody : (known, body) ∈ statement.bodies) : BodiesCallAtMost count body :=
  fun location name parameters result inner member =>
    few location name parameters result inner
      (mem_everyNested_head (mem_withNested_of_body isBody member))

theorem definition {location : Location} {name : String} {parameters : List Parameter}
    {result : Option ValueType}
    (few : BodiesCallAtMost count
      (.define location name parameters result body :: rest)) : CallAtMost count body :=
  ⟨few location name parameters result body
    (mem_everyNested_head (mem_withNested_self _)),
    few.of_body (.head _)⟩

end BodiesCallAtMost

end Statement

open Statement (callSites callSitesIn BodiesCallAtMost CallAtMost)
open Finset (range)

namespace Run

def Spends (limit count : Nat) (list : List Statement) (machine left : Machine) : Prop :=
  ∀ remaining, limit ≤ machine.depth + remaining → BodiesCallAtMost count list →
    (∀ function, Knows machine.scopes function → CallAtMost count function.body) →
    left.calls ≤
        machine.calls + callSitesIn list * ∑ power ∈ range remaining, count ^ power ∧
      left.depth = machine.depth ∧
      ∀ function, Knows left.scopes function → CallAtMost count function.body

variable {limit count : Nat} {statement : Statement} {machine left : Machine}

theorem Spends.of_apart (isApart : IsApart statement machine left) :
    Spends limit count [statement] machine left := by
  intro remaining _ bodies known
  refine ⟨isApart.calls ▸ Nat.le_add_right _ _, isApart.depth, fun function knows => ?_⟩
  rcases isApart.known function knows with knows | ⟨location, rfl⟩
  · exact known function knows
  · exact bodies.definition

theorem Spends.of_body {bodyMachine inside : Machine} {list : List Statement}
    (enters : Enters limit statement machine list bodyMachine)
    (spends : Spends limit count list bodyMachine inside)
    (isBack : IsBack machine bodyMachine inside left) :
    Spends limit count [statement] machine left := by
  intro remaining within bodies known
  have back {amount : Nat} (calls : inside.calls ≤ machine.calls + amount)
      (depth : inside.depth = bodyMachine.depth)
      (knownInside : ∀ function,
        Knows inside.scopes function → CallAtMost count function.body) :
      left.calls ≤ machine.calls + amount ∧ left.depth = machine.depth ∧
        ∀ function, Knows left.scopes function → CallAtMost count function.body :=
    ⟨isBack.calls ▸ calls, isBack.depth depth, fun function knows =>
      (isBack.known function knows).elim (known function) (knownInside function)⟩
  rcases enters.call_or_part with
    ⟨location, name, function, inner, defining, rfl, found, allowed, rfl, rfl⟩ |
      ⟨isPart, stack, rfl⟩
  · rcases Nat.exists_eq_add_of_lt (show 0 < remaining by omega) with ⟨fewer, rfl⟩
    have few := known function (.of_lookup found)
    have withinBody : limit ≤ machine.depth + 1 + fewer := by omega
    rcases spends fewer withinBody few.2 fun function knows =>
      known function (Machine.knows_enter found knows) with ⟨calls, depth, knownInside⟩
    refine back ?_ depth knownInside
    have made : inside.calls ≤ machine.calls + 1 +
        callSitesIn function.body * ∑ power ∈ range fewer, count ^ power := calls
    have inBody := Nat.mul_le_mul_right (∑ power ∈ range fewer, count ^ power) few.1
    rw [Nat.zero_add, geom_sum_succ, callSitesIn, callSites, callSitesIn, Nat.add_zero,
      Nat.one_mul]
    omega
  · rcases spends remaining within
      (bodies.of_body (Statement.exists_body_of_mem_parts isPart))
      fun function knows => known function knows.of_cons_empty with
      ⟨calls, depth, knownInside⟩
    refine back (calls.trans ?_) depth knownInside
    rw [callSitesIn, callSitesIn, Nat.add_zero]
    exact Nat.add_le_add_left
      (Nat.mul_le_mul_right _ (Statement.callSitesIn_le_of_mem_parts isPart)) _

theorem spends (limit count room : Nat) (list : List Statement) (machine : Machine) :
    Spends limit count list machine ((statements limit room list).after machine) := by
  apply after_induction (Spends limit count)
  case nothing => exact fun _ _ _ _ _ known => ⟨Nat.le_add_right _ _, rfl, known⟩
  case apart => exact fun _ _ _ => .of_apart
  case back => exact fun _ _ _ _ _ _ => .of_body
  case early =>
    intro statement rest machine left spends remaining within bodies known
    rcases spends remaining within bodies.head known with ⟨calls, depth, known⟩
    refine ⟨calls.trans (Nat.add_le_add_left (Nat.mul_le_mul_right _ ?_) _), depth, known⟩
    rw [callSitesIn, callSitesIn, callSitesIn]
    omega
  case later =>
    intro statement rest machine between left first after remaining within bodies known
    rcases first remaining within bodies.head known with ⟨calls, depth, knownBetween⟩
    rcases after remaining (depth ▸ within) bodies.tail knownBetween with
      ⟨callsAfter, depthAfter, knownAfter⟩
    refine ⟨?_, depthAfter.trans depth, knownAfter⟩
    rw [callSitesIn, callSitesIn, Nat.add_zero] at calls
    rw [callSitesIn, Nat.add_mul]
    omega

/-- From scopes without functions, a run makes at most `count + count ^ 2 + …` calls, with
as many summands as calls may be active at once. -/
theorem calls_le {limit count : Nat} {list : List Statement} (few : CallAtMost count list)
    {machine : Machine} (clean : ∀ function, ¬ Knows machine.scopes function)
    (room : Nat) :
    ((statements limit room list).after machine).calls ≤
      machine.calls + ∑ power ∈ range limit, count ^ (power + 1) := by
  have calls := (spends limit count room list machine limit (Nat.le_add_left _ _) few.2
    fun function knows => absurd knows (clean function)).1
  refine calls.trans (Nat.add_le_add_left ?_ _)
  simp only [Nat.pow_succ']
  rw [← Finset.mul_sum]
  exact Nat.mul_le_mul_right _ few.1

end Run

end StackLanguage
