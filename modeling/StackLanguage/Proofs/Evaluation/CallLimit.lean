import StackLanguage.Proofs.Evaluation.Room

namespace StackLanguage

/-! The limit on active calls. A run never goes beyond it, and a run that is not cut off
by it does the same under every larger limit. -/

def RuntimeError.IsCallLimit : RuntimeError → Prop
  | .callLimit _ _ => True
  | _ => False

def Stop.IsCallLimit : Stop → Prop
  | .error located => located.cause.IsCallLimit
  | _ => False

namespace Run

/-! ## Active calls -/

/-- At some time of a run of statements `count` calls that it has made are active, each
made by the one before. -/
inductive Active (limit : Nat) :
    (room : Nat) → List Statement → Machine → (count : Nat) → Prop
  | here {room list machine} : Active limit room list machine 0
  | inCall {room location name rest machine body bodyMachine count}
      (enters : Enters limit (.call location name) machine body bodyMachine)
      (active : Active limit room body bodyMachine count) :
      Active limit (room + 1) (.call location name :: rest) machine (count + 1)
  | inPart {room statement rest machine part bodyMachine count}
      (isPart : part ∈ statement.parts)
      (enters : Enters limit statement machine part bodyMachine)
      (active : Active limit room part bodyMachine count) :
      Active limit (room + 1) (statement :: rest) machine count
  | later {room statement rest machine between count}
      (ran : Run.statement (statements limit room) limit statement machine =
        .ok () between)
      (active : Active limit (room + 1) rest between count) :
      Active limit (room + 1) (statement :: rest) machine count

variable {limit larger room count : Nat} {statement : Statement} {list : List Statement}
variable {machine bodyMachine : Machine}

theorem Active.depth_add_le (active : Active limit room list machine count) :
    machine.depth + count ≤ max limit machine.depth := by
  induction active with
  | here => exact Nat.le_max_right _ _
  | inCall enters _ inBody =>
      cases enters with
      | call _ allowed =>
          simp only [Machine.enter] at inBody
          omega
  | inPart isPart enters _ inBody =>
      rcases enters.call_or_part with ⟨_, _, _, _, _, rfl, _⟩ | ⟨-, _, rfl⟩
      · cases isPart
      · exact inBody
  | later ran _ inRest => exact statement_depth ran ▸ inRest

/-! ## Larger limits -/

def IsCutOff (run : Run Unit) (machine : Machine) : Prop :=
  ∃ stop left, run machine = .error stop left ∧ stop.IsCallLimit

theorem statement_error {body : List Statement → Run Unit} {stop : Stop}
    {inside : Machine} (enters : Enters limit statement machine list bodyMachine)
    (stopped : body list bodyMachine = .error stop inside) :
    ∃ left, Run.statement body limit statement machine = .error stop left := by
  have inScopeStops {run : Run Unit} {stack : List Value}
      (stopped : run (machine.inner stack) = .error stop inside) :
      ∃ left, inScope run { machine with stack } = .error stop left := by
    rw [inScope_inner, stopped]
    exact ⟨_, rfl⟩
  cases enters with
  | call found allowed supplied =>
      change ∃ left, call body limit _ _ machine = .error stop left
      rw [call_eq found allowed supplied, stopped]
      exact ⟨_, rfl⟩
  | onlyBranch popped holds => rw [ifThen_true popped holds]; exact inScopeStops stopped
  | thenBranch popped holds =>
      rw [ifThenElse_true popped holds]; exact inScopeStops stopped
  | elseBranch popped fails =>
      rw [ifThenElse_false popped fails]; exact inScopeStops stopped
  | block => exact inScopeStops stopped

theorem statement_larger {body : List Statement → Run Unit} (le : limit ≤ larger)
    (uncut : ¬ IsCutOff (Run.statement body limit statement) machine) :
    Run.statement body larger statement machine =
      Run.statement body limit statement machine := by
  cases statement with
  | call location name =>
      change call body larger location name machine =
        call body limit location name machine
      cases found : lookupFunction? machine.scopes name with
      | none => rw [call_unknown found, call_unknown found]
      | some callee =>
          rcases callee with ⟨function, inner, defining⟩
          rcases Nat.lt_or_ge machine.depth limit with allowed | refused
          · have allowedToo : machine.depth < larger := by omega
            rcases Nat.lt_or_ge machine.stack.length function.parameters.length with
              missing | supplied
            · rw [call_missing found allowed missing,
                call_missing found allowedToo missing]
            · rw [call_eq found allowed supplied, call_eq found allowedToo supplied]
          · exact (uncut ⟨_, _, call_refused found refused, trivial⟩).elim
  | _ => rfl

/-- A run that is not cut off does the same under every larger limit. -/
theorem statements_larger (le : limit ≤ larger)
    (uncut : ¬ IsCutOff (statements limit room list) machine) :
    statements larger room list machine = statements limit room list machine := by
  -- On the room, and within it on the statements: what comes next is not cut off either.
  induction room generalizing list machine with
  | zero => rfl
  | succ room inBodies =>
      induction list generalizing machine with
      | nil => rfl
      | cons statement rest inRest =>
          have first :
              ¬ IsCutOff (Run.statement (statements limit room) limit statement)
                machine := by
            rintro ⟨stop, left, stopped, isLimit⟩
            exact uncut ⟨stop, left, by rw [statements_cons, stopped], isLimit⟩
          have bodies : Run.statement (statements larger room) limit statement machine =
              Run.statement (statements limit room) limit statement machine := by
            refine statement_congr fun body bodyMachine enters => inBodies ?_
            rintro ⟨stop, inside, stopped, isLimit⟩
            rcases statement_error enters stopped with ⟨left, stopped⟩
            exact first ⟨stop, left, stopped, isLimit⟩
          have same : Run.statement (statements larger room) larger statement machine =
              Run.statement (statements limit room) limit statement machine := by
            rw [statement_larger le, bodies]
            rwa [IsCutOff, bodies]
          rw [statements_cons, statements_cons, same]
          cases ran : Run.statement (statements limit room) limit statement machine with
          | error stop left => rfl
          | ok _ between =>
              apply inRest
              rintro ⟨stop, left, stopped, isLimit⟩
              exact uncut
                ⟨stop, left, by rw [statements_cons, ran]; exact stopped, isLimit⟩

end Run

end StackLanguage
