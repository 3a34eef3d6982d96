import StackLanguage.Proofs.Alongside
import StackLanguage.Proofs.Evaluation.Declaring
import StackLanguage.Proofs.Evaluation.SharedFrame

namespace StackLanguage

/-! A run on a machine is the run on shared scopes, seen from the scope that it runs in.
What a machine puts back after a body is what the scopes are by then, for no body has
changed them. -/

def viewedFrom (here : Nat) : Likeness Stop SharedMachine Machine where
  states shared machine :=
    Store.IsOwned shared.store ∧ here < shared.store.length ∧ machine = shared.view here
  causes := Eq
  excused _ := False

namespace SharedMachine

variable {shared left : SharedMachine} {here : Nat}

theorem KeepsScopes.within (kept : shared.KeepsScopes left)
    (within : here < shared.store.length) : here < left.store.length := by
  obtain ⟨cell, found⟩ := Store.exists_get? within
  exact Store.lt_of_get? (kept here cell found)

def enter (shared : SharedMachine) (function : Function) (home : Nat) : SharedMachine :=
  let arguments := shared.stack.take function.parameters.length
  let named := Parameter.areNamed function.parameters
  let scope := if named then .ofArguments function.parameters arguments.reverse
  else Scope.empty
  { shared with
    stack := if named then [] else arguments
    store := .within home scope.bindings :: shared.store
    calls := shared.calls + 1
    depth := shared.depth + 1 }

theorem view_inner (shared : SharedMachine) (here : Nat) :
    view { shared with store := .within here .empty :: shared.store }
      shared.store.length =
      (shared.view here).inner shared.stack := by
  simp only [view, Store.scopes_cons]
  rfl

theorem view_enter (shared : SharedMachine) (function : Function) (here home : Nat) :
    (shared.enter function home).view shared.store.length =
      (shared.view here).enter function (Store.scopes shared.store home) := by
  have sameScope {scope : Scope} (noFunctions : scope.functions = .empty) :
      (Cell.within home scope.bindings).scope = scope := by
    rw [Cell.scope, Cell.within]
    exact congrArg (Scope.mk scope.bindings) noFunctions.symm
  simp only [view, enter, Machine.enter, Store.scopes_cons]
  rw [sameScope]
  · rfl
  · split
    · exact Scope.functions_ofArguments _ _
    · rfl

end SharedMachine

namespace SharedRun

variable {Result : Type} {limit here : Nat}

theorem fail_alongside (location : Location) (cause : RuntimeError) :
    (viewedFrom here).Alongside Eq (fail location cause : SharedRun Result)
      (Run.fail location cause) :=
  .throw rfl

theorem unscoped_alongside {run : Run Result} (isIdle : Run.IsIdle run) :
    (viewedFrom here).Alongside Eq (unscoped here run) run := by
  rintro shared _ ⟨owned, within, rfl⟩
  have idles := isIdle (shared.view here)
  have seen {after : Machine} (same : after.scopes = (shared.view here).scopes) :
      after = (shared.withMachine after).view here := by
    rcases after with ⟨stack, scopes, output, input, calls, depth⟩
    exact congrArg (Machine.mk stack · output input calls depth) same
  unfold Ends at idles
  unfold unscoped
  cases outcome : run (shared.view here) with
  | ok result after =>
      rw [outcome] at idles
      exact ⟨rfl, owned, within, seen idles.2.2⟩
  | error stop after =>
      rw [outcome] at idles
      exact .inr ⟨rfl, owned, within, seen idles.2.2.2⟩

theorem changeCell_alongside {edit : Cell → Cell} {editScope : Scope → Scope}
    (sameOuter : ∀ cell, (edit cell).outer = cell.outer)
    (sameEdit : ∀ cell, (edit cell).scope = editScope cell.scope)
    (own : ∀ cell name closure, (edit cell).functions.get? name = some closure →
      closure.home = here ∨ cell.functions.get? name = some closure) :
    (viewedFrom here).Alongside Eq (changeCell here edit)
      (modify (·.changeScope editScope) : Run Unit) := by
  refine .modify rfl ?_
  rintro shared _ ⟨owned, within, rfl⟩
  refine ⟨owned.change own, ?_, ?_⟩
  · rw [Store.length_change]
    exact within
  · simp only [SharedMachine.view, Store.scopes_change sameOuter sameEdit within]
    rfl

/-! ## Bodies -/

def viewedAround (inner : Nat) (shared : SharedMachine) (around : List Scope) :
    Likeness Stop SharedMachine Machine :=
  { viewedFrom inner with
    states := fun left machine => (viewedFrom inner).states left machine ∧
      shared.KeepsScopes left ∧ machine.scopes.tail = around }

theorem viewedAround_leave {inner : Nat} {shared left : SharedMachine}
    {around scopes : List Scope} {machine : Machine}
    (states : (viewedAround inner shared around).states left machine)
    (within : here < shared.store.length) (back : scopes = Store.scopes shared.store here)
    (stack : List Value) (depth : Nat) :
    (viewedFrom here).states { left with stack, depth }
      { machine with stack, depth, scopes } := by
  obtain ⟨⟨owned, -, rfl⟩, kept, -⟩ := states
  refine ⟨owned, kept.within within, ?_⟩
  rw [back, ← kept.scopes_eq within]
  rfl

section Bodies

variable {room : Nat}
variable (bodyAlongside : ∀ inner list, (viewedFrom inner).Alongside Eq
  (statements limit room inner list) (Run.statements limit room list))

include bodyAlongside

theorem body_alongside {shared start : SharedMachine} {bodyMachine : Machine}
    {cell : Cell} (list : List Statement) (isNew : start.store = cell :: shared.store)
    (owned : Store.IsOwned start.store)
    (seen : start.view shared.store.length = bodyMachine) :
    (viewedAround shared.store.length shared bodyMachine.scopes.tail).Outcomes Eq
      (statements limit room shared.store.length list start)
      (Run.statements limit room list bodyMachine) := by
  have within : shared.store.length < start.store.length := by
    rw [isNew]
    exact Nat.lt_succ_self _
  have alike :=
    bodyAlongside shared.store.length list start bodyMachine ⟨owned, within, seen.symm⟩
  refine alike.and_ends ?_ ?_
  · have kept := statements_keepsOthers limit room shared.store.length list start
    have older {left : SharedMachine}
        (others : start.KeepsOthers shared.store.length left) :
        shared.KeepsScopes left := by
      unfold SharedMachine.KeepsOthers at others
      rw [isNew] at others
      exact others.of_new
    exact kept.mono (fun _ _ => older) fun _ _ => older
  · exact Run.statements_ends_outer limit room list bodyMachine

theorem inScope_alongside (list : List Statement) :
    (viewedFrom here).Alongside Eq (inScope here (statements limit room · list))
      (Run.inScope (Run.statements limit room list)) := by
  rintro shared _ ⟨owned, within, rfl⟩
  have inside := body_alongside bodyAlongside list rfl (owned.cons here .empty)
    (shared.view_inner here)
  have back {left : SharedMachine} {machine : Machine}
      (states :
        (viewedAround shared.store.length shared (shared.view here).scopes).states left
          machine) :
      (viewedFrom here).states left { machine with scopes := machine.scopes.tail } := by
    have leave := viewedAround_leave states within states.2.2 left.stack left.depth
    obtain ⟨⟨-, -, rfl⟩, -, -⟩ := states
    exact leave
  rw [Run.inScope_eq]
  change (viewedFrom here).Outcomes Eq
    (statements limit room shared.store.length list _) _
  generalize statements limit room _ list _ = outcome at inside ⊢
  change (viewedAround _ _ _).Outcomes Eq _
    (Run.statements limit room list
      ((shared.view here).inner (shared.view here).stack)) at inside
  generalize Run.statements limit room list _ = machineOutcome at inside ⊢
  cases outcome <;> cases machineOutcome
  · exact ⟨rfl, back inside.2⟩
  · exact inside.elim
  · exact inside
  · exact inside.imp_right fun alike => ⟨alike.1, back alike.2⟩

end Bodies

/-! ## Calls -/

theorem get_bind (run : SharedMachine → SharedRun Result) (shared : SharedMachine) :
    (get >>= run) shared = run shared shared := rfl

section Calls

variable {location : Location} {name : String} {shared : SharedMachine}
    {function : Function}
variable {home : Nat}

section Shape

variable {body : Nat → List Statement → SharedRun Unit}

theorem call_eq
    (found : Store.lookupClosure? shared.store here name = some ⟨function, home⟩)
    (allowed : shared.depth < limit)
    (supplied : function.parameters.length ≤ shared.stack.length) :
    let restored (left : SharedMachine) : SharedMachine :=
      { left with
        stack := shared.stack.drop function.parameters.length
        depth := left.depth - 1 }
    call body limit here location name shared =
      match body shared.store.length function.body (shared.enter function home) with
      | .ok _ left =>
          match function.result, left.stack with
          | none, _ => .ok () (restored left)
          | some _, [] => .error (.error ⟨.emptyStack, location⟩) (restored left)
          | some _, top :: _ =>
              .ok () { restored left with stack := top :: (restored left).stack }
      | .error stop left => .error stop (restored left) := by
  intro restored
  have arguments :
      unscoped here (Run.popArguments location function.parameters.length) shared =
        .ok (shared.stack.take function.parameters.length)
          { shared with stack := shared.stack.drop function.parameters.length } := by
    have popped :
        Run.popArguments location function.parameters.length (shared.view here) =
          .ok (shared.stack.take function.parameters.length)
            { shared.view here with
              stack := shared.stack.drop function.parameters.length } := by
      change (if shared.stack.length < function.parameters.length then _ else _ :
        Run (List Value)) (shared.view here) = _
      rw [if_neg (Nat.not_lt.mpr supplied)]
      rfl
    unfold unscoped
    rw [popped]
    rfl
  unfold call
  rw [get_bind]
  simp only [found]
  rw [if_neg (Nat.not_le.mpr allowed)]
  simp only [bind, EStateM.bind, arguments, inFrame, SharedMachine.enter]
  generalize body _ function.body _ = outcome
  rcases outcome with ⟨_, ⟨stack, _, _, _, _, _⟩⟩ | ⟨stop, left⟩
  · cases function.result <;> cases stack <;> rfl
  · rfl

theorem call_missing
    (found : Store.lookupClosure? shared.store here name = some ⟨function, home⟩)
    (allowed : shared.depth < limit)
    (missing : shared.stack.length < function.parameters.length) :
    call body limit here location name shared =
      .error (.error ⟨.emptyStack, location⟩) shared := by
  have arguments :
      unscoped here (Run.popArguments location function.parameters.length) shared =
        .error (.error ⟨.emptyStack, location⟩) shared := by
    have refused :
        Run.popArguments location function.parameters.length (shared.view here) =
          .error (.error ⟨.emptyStack, location⟩) (shared.view here) := by
      change (if shared.stack.length < function.parameters.length then _ else _ :
        Run (List Value)) (shared.view here) = _
      rw [if_pos missing]
      rfl
    unfold unscoped
    rw [refused]
    rfl
  unfold call
  rw [get_bind]
  simp only [found]
  rw [if_neg (Nat.not_le.mpr allowed)]
  simp only [bind, EStateM.bind, arguments]

theorem call_refused
    (found : Store.lookupClosure? shared.store here name = some ⟨function, home⟩)
    (refused : limit ≤ shared.depth) :
    call body limit here location name shared =
      .error (.error ⟨.callLimit limit function.name, location⟩) shared := by
  unfold call
  rw [get_bind]
  simp only [found]
  rw [if_pos refused]
  rfl

theorem call_unknown (notFound : Store.lookupClosure? shared.store here name = none) :
    call body limit here location name shared =
      .error (.error ⟨.unknownFunction name, location⟩) shared := by
  unfold call
  rw [get_bind]
  simp only [notFound]
  rfl

end Shape

variable {room : Nat}
variable (bodyAlongside : ∀ inner list, (viewedFrom inner).Alongside Eq
  (statements limit room inner list) (Run.statements limit room list))

include bodyAlongside

theorem call_alongside_body (owned : Store.IsOwned shared.store)
    (within : here < shared.store.length) {inner : List Scope}
    (found : Store.lookupClosure? shared.store here name = some ⟨function, home⟩)
    (isFound : lookupFunction? (Store.scopes shared.store here) name =
      some (function, inner, Store.scopes shared.store home))
    (allowed : shared.depth < limit)
    (supplied : function.parameters.length ≤ shared.stack.length) :
    (viewedFrom here).Outcomes Eq
      (call (statements limit room) limit here location name shared)
      (Run.call (Run.statements limit room) limit location name (shared.view here)) := by
  have inside := body_alongside bodyAlongside function.body rfl (owned.cons home _)
    (shared.view_enter function here home)
  have back {left : SharedMachine} {machine : Machine}
      (states : (viewedAround shared.store.length shared
        (Store.scopes shared.store home)).states left machine) (stack : List Value) :
      (viewedFrom here).states { left with stack, depth := left.depth - 1 }
        { machine with
          stack, scopes := inner ++ machine.scopes.tail,
            depth := machine.depth - 1 } := by
    have sameDepth : machine.depth = left.depth := congrArg Machine.depth states.1.2.2
    rw [sameDepth]
    refine viewedAround_leave states within ?_ stack (left.depth - 1)
    rw [states.2.2]
    exact (lookupFunction?_split isFound).1
  rw [call_eq found allowed supplied, Run.call_eq isFound allowed supplied]
  generalize statements limit room _ function.body _ = outcome at inside ⊢
  generalize Run.statements limit room function.body _ = machineOutcome at inside ⊢
  rcases outcome with ⟨_, left⟩ | ⟨stop, left⟩ <;>
    rcases machineOutcome with ⟨_, machine⟩ | ⟨machineStop, machine⟩
  · obtain ⟨-, states⟩ := inside
    have sameStack : machine.stack = left.stack := congrArg Machine.stack states.1.2.2
    dsimp only
    rw [sameStack]
    cases function.result with
    | none => exact ⟨rfl, back states _⟩
    | some type =>
        cases left.stack with
        | nil => exact .inr ⟨rfl, back states _⟩
        | cons top rest => exact ⟨rfl, back states _⟩
  · exact inside.elim
  · exact inside.elim
  · exact inside.imp_right fun alike => ⟨alike.1, back alike.2 _⟩

theorem call_alongside (location : Location) (name : String) :
    (viewedFrom here).Alongside Eq (call (statements limit room) limit here location name)
      (Run.call (Run.statements limit room) limit location name) := by
  rintro shared _ ⟨owned, within, rfl⟩
  cases found : Store.lookupClosure? shared.store here name with
  | none =>
      rw [call_unknown found, Run.call_unknown (Store.lookupFunction?_scopes_none found)]
      exact .inr ⟨rfl, owned, within, rfl⟩
  | some closure =>
      rcases closure with ⟨function, home⟩
      obtain ⟨inner, isFound⟩ := Store.lookupFunction?_scopes owned found
      rcases Nat.lt_or_ge shared.depth limit with allowed | refused
      · rcases Nat.lt_or_ge shared.stack.length function.parameters.length with
          missing | supplied
        · rw [call_missing found allowed missing,
            Run.call_missing isFound allowed missing]
          exact .inr ⟨rfl, owned, within, rfl⟩
        · exact call_alongside_body bodyAlongside owned within found isFound allowed
            supplied
      · rw [call_refused found refused, Run.call_refused isFound refused]
        exact .inr ⟨rfl, owned, within, rfl⟩

end Calls

/-! ## Statements -/

section Statements

variable {room : Nat}
variable (bodyAlongside : ∀ inner list, (viewedFrom inner).Alongside Eq
  (statements limit room inner list) (Run.statements limit room list))

include bodyAlongside

theorem statement_alongside (statement : Statement) :
    (viewedFrom here).Alongside Eq
      (SharedRun.statement (statements limit room) limit here statement)
      (Run.statement (Run.statements limit room) limit statement) := by
  cases statement with
  | push location value => exact unscoped_alongside (Run.push_isIdle value)
  | word location name =>
      unfold SharedRun.statement Run.statement
      dsimp only
      cases BuiltinWord.ofName? name with
      | none => exact fail_alongside location _
      | some builtin => exact unscoped_alongside (Run.word_isIdle location builtin)
  | operator location symbol =>
      exact unscoped_alongside (Run.operator_isIdle location symbol)
  | load location name =>
      refine .get ?_
      rintro shared machine ⟨owned, within, rfl⟩
      dsimp only [SharedMachine.view]
      cases lookupVariable? (Store.scopes shared.store here) name with
      | none => exact fail_alongside location _ shared _ ⟨owned, within, rfl⟩
      | some value =>
          exact unscoped_alongside (Run.push_isIdle value) shared _ ⟨owned, within, rfl⟩
  | call location name => exact call_alongside bodyAlongside location name
  | bind location name type initial =>
      have binds (value : Value) : (viewedFrom here).Alongside Eq
          (changeCell here (·.bind name ⟨type, value⟩))
          (modify (·.changeScope (·.bind name ⟨type, value⟩)) : Run Unit) :=
        changeCell_alongside (fun _ => rfl) (fun _ => rfl) fun _ _ _ found => .inr found
      cases initial with
      | none =>
          refine .bind (unscoped_alongside (Run.pop_isIdle location)) ?_
          rintro value _ rfl
          exact binds value
      | some value => exact binds value
  | define location name parameters result list =>
      refine changeCell_alongside (fun _ => rfl) (fun cell => ?_) ?_
      · simp only [Cell.scope, Cell.define, Table.map_set]
        rfl
      · intro cell other closure found
        simp only [Cell.define, Table.get?_set] at found
        split at found
        · cases found
          exact .inl rfl
        · exact .inr found
  | ifThen location thenBody =>
      refine .bind (unscoped_alongside (Run.pop_isIdle location)) ?_
      rintro condition _ rfl
      exact .ite Iff.rfl (inScope_alongside bodyAlongside thenBody) (.pure rfl)
  | ifThenElse location thenBody elseBody =>
      refine .bind (unscoped_alongside (Run.pop_isIdle location)) ?_
      rintro condition _ rfl
      exact .ite Iff.rfl (inScope_alongside bodyAlongside thenBody)
        (inScope_alongside bodyAlongside elseBody)
  | block location list => exact inScope_alongside bodyAlongside list
  | unknown location kind => exact fail_alongside location _

end Statements

theorem statements_alongside (limit room here : Nat) (list : List Statement) :
    (viewedFrom here).Alongside Eq (statements limit room here list)
      (Run.statements limit room list) := by
  -- Induction on the room for bodies, inside it on the list.
  induction room generalizing here list with
  | zero => exact .throw rfl
  | succ room bodyAlongside =>
      induction list with
      | nil => exact .pure rfl
      | cons statement rest induction =>
          exact .bind (statement_alongside bodyAlongside statement) fun _ _ _ => induction

/-- However a statement comes to an end in a scope, the scopes that existed before are as
they were, but for the entry that a declaration sets in the scope it stands in when it is
carried out; in particular a statement that declares nothing leaves all of them, whatever
it calls. What a machine does with the statement is this run, seen from the scope. -/
theorem statement_frame (limit room here : Nat) (statement : Statement)
    (shared : SharedMachine) :
    Ends (SharedRun.statement (statements limit room) limit here statement) shared
        (fun _ left => shared.Leaves statement here left)
        (fun _ left => shared.KeepsScopes left) ∧
      (statement.declared? = none →
        Keeps SharedMachine.KeepsScopes
          (SharedRun.statement (statements limit room) limit here statement)) ∧
      (Store.IsOwned shared.store → here < shared.store.length →
        Ends (SharedRun.statement (statements limit room) limit here statement) shared
          (fun _ left => Store.IsOwned left.store ∧
            Run.statement (Run.statements limit room) limit statement (shared.view here) =
              .ok () (left.view here))
          fun stop left => Store.IsOwned left.store ∧
            Run.statement (Run.statements limit room) limit statement (shared.view here) =
              .error stop (left.view here)) := by
  have bodyKeeps := statements_keepsOthers limit room
  refine ⟨statement_ends bodyKeeps statement shared, fun declaresNothing before => ?_,
    fun owned within => ?_⟩
  · exact (statement_ends bodyKeeps statement before).mono
      (fun _ _ leaves => leaves.keepsScopes declaresNothing) fun _ _ kept => kept
  · have alike := statement_alongside (statements_alongside limit room) statement shared
      (shared.view here) ⟨owned, within, rfl⟩
    unfold Ends
    cases outcome :
      SharedRun.statement (statements limit room) limit here statement shared <;>
      cases seen :
        Run.statement (Run.statements limit room) limit statement (shared.view here) <;>
      rw [outcome, seen] at alike
    · obtain ⟨-, owned, -, rfl⟩ := alike
      exact ⟨owned, rfl⟩
    · exact alike.elim
    · exact alike.elim
    · obtain excused | ⟨rfl, owned, -, rfl⟩ := alike
      · exact excused.elim
      · exact ⟨owned, rfl⟩

def shadowing : SharedMachine where
  stack := []
  store := Store.ofScopes
    [.empty,
     (Scope.empty.bind "x" ⟨.int, .int 1⟩).define "f"
       ⟨"f", [], none, [.bind ⟨"<input>", ⟨2, 11⟩⟩ "x" .int (some (.int 2))]⟩]
  output := ""
  input := []
  calls := 0
  depth := 0

theorem shadowing_frame :
    Ends (SharedRun.statement (statements 10 2) 10 1 (.call ⟨"<input>", ⟨3, 3⟩⟩ "f"))
      shadowing (fun _ left => shadowing.KeepsScopes left ∧ left.store.length = 3 ∧
        Run.statement (Run.statements 10 2) 10 (.call ⟨"<input>", ⟨3, 3⟩⟩ "f")
          (shadowing.view 1) = .ok () (left.view 1))
      fun _ _ => False := by
  have owned : Store.IsOwned shadowing.store := Store.isOwned_ofScopes _
  have frame := statement_frame 10 2 1 (.call ⟨"<input>", ⟨3, 3⟩⟩ "f") shadowing
  have kept := frame.2.1 rfl shadowing
  have seen := frame.2.2 owned (by decide)
  exact ⟨kept, rfl, seen.2⟩

end SharedRun

end StackLanguage
