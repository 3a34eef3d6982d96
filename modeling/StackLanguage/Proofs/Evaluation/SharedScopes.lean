import StackLanguage.Evaluation.Run
import StackLanguage.Proofs.Program.Nesting

namespace StackLanguage

/-! Scopes as they are shared. A machine holds the scopes that can be seen from where it
runs, and a call puts back those that it does not see. Here every scope that was ever made
stays in one store: a function holds the address of the scope that it was defined in, a
call finds the scopes around the body there, and nothing is ever put back. -/

structure Closure where
  function : Function
  home : Nat

structure Cell where
  bindings : Table Binding
  functions : Table Closure
  outer : Option Nat

namespace Cell

def bind (cell : Cell) (name : String) (binding : Binding) : Cell :=
  { cell with bindings := cell.bindings.set name binding }

def define (cell : Cell) (name : String) (closure : Closure) : Cell :=
  { cell with functions := cell.functions.set name closure }

def within (outer : Nat) (bindings : Table Binding) : Cell :=
  ⟨bindings, .empty, some outer⟩

def scope (cell : Cell) : Scope := ⟨cell.bindings, cell.functions.map (·.function)⟩

def declared? (cell : Cell) : Identifier → Option (Binding ⊕ Closure)
  | ⟨.value, name⟩ => (cell.bindings.get? name).map .inl
  | ⟨.function, name⟩ => (cell.functions.get? name).map .inr

def SameBut (identifier : Identifier) (cell other : Cell) : Prop :=
  other.outer = cell.outer ∧
    ∀ another, another ≠ identifier → other.declared? another = cell.declared? another

theorem sameBut_bind (cell : Cell) (name : String) (binding : Binding) :
    cell.SameBut ⟨.value, name⟩ (cell.bind name binding) := by
  refine ⟨rfl, ?_⟩
  rintro ⟨_ | _, another⟩ different
  · have otherName : another ≠ name := fun same => different (congrArg _ same)
    simp only [declared?, bind, Table.get?_set, if_neg otherName]
  · rfl

theorem sameBut_define (cell : Cell) (name : String) (closure : Closure) :
    cell.SameBut ⟨.function, name⟩ (cell.define name closure) := by
  refine ⟨rfl, ?_⟩
  rintro ⟨_ | _, another⟩ different
  · rfl
  · have otherName : another ≠ name := fun same => different (congrArg _ same)
    simp only [declared?, define, Table.get?_set, if_neg otherName]

end Cell

/-- All scopes, the newest first. The address of a scope is the number of older ones. -/
abbrev Store := List Cell

namespace Store

def get? : Store → Nat → Option Cell
  | [], _ => none
  | cell :: older, address =>
      if address = older.length then some cell else get? older address

def change (edit : Cell → Cell) : Store → Nat → Store
  | [], _ => []
  | cell :: older, address =>
      if address = older.length then edit cell :: older
      else cell :: change edit older address

/-- The scope at an address and those around it, outwards. A scope is around newer ones
only. -/
def chain : Store → Nat → List Cell
  | [], _ => []
  | cell :: older, address =>
      if address = older.length then
        cell ::
          match cell.outer with
          | some outer => chain older outer
          | none => []
      else chain older address

def IsOwned (store : Store) : Prop :=
  ∀ address cell name closure, get? store address = some cell →
    cell.functions.get? name = some closure → closure.home = address

def KeptIn (store larger : Store) : Prop :=
  ∀ address cell, get? store address = some cell → get? larger address = some cell

variable {store larger older : Store} {cell : Cell} {address other : Nat}
    {edit : Cell → Cell}

theorem lt_of_get? (found : get? store address = some cell) : address < store.length := by
  induction store with
  | nil => cases found
  | cons newest older induction =>
      simp only [get?] at found
      split at found
      · next same => exact same ▸ Nat.lt_succ_self _
      · exact Nat.lt_succ_of_lt (induction found)

theorem exists_get? (within : address < store.length) :
    ∃ cell, get? store address = some cell := by
  induction store with
  | nil => cases within
  | cons newest older induction =>
      simp only [get?]
      split
      · exact ⟨newest, rfl⟩
      · next different =>
          exact induction (Nat.lt_of_le_of_ne (Nat.le_of_lt_succ within) different)

theorem get?_newest (cell : Cell) (older : Store) :
    get? (cell :: older) older.length = some cell :=
  if_pos rfl

theorem keptIn_cons (cell : Cell) (older : Store) : KeptIn older (cell :: older) := by
  intro address found isFound
  have different : address ≠ older.length := Nat.ne_of_lt (lt_of_get? isFound)
  simp only [get?, if_neg different, isFound]

theorem length_change (edit : Cell → Cell) (store : Store) (address : Nat) :
    (change edit store address).length = store.length := by
  induction store with
  | nil => rfl
  | cons newest older induction =>
      simp only [change]
      split
      · rfl
      · rw [List.length_cons, List.length_cons, induction]

theorem get?_change (edit : Cell → Cell) (store : Store) (address other : Nat) :
    get? (change edit store address) other =
      if other = address then (get? store address).map edit else get? store other := by
  induction store with
  | nil => simp [change, get?]
  | cons newest older induction =>
      simp only [change]
      by_cases isNewest : address = older.length
      · subst isNewest
        by_cases same : other = older.length
        · simp [same, get?]
        · simp [same, get?]
      · simp only [if_neg isNewest, get?, length_change, induction]
        by_cases same : other = address
        · simp [same, isNewest]
        · simp [same]

/-! ## Chains -/

theorem chain_of_length_le (outside : store.length ≤ address) :
    chain store address = [] := by
  induction store with
  | nil => rfl
  | cons newest older induction =>
      have outsideOlder : older.length < address := outside
      simp only [chain, if_neg (Nat.ne_of_gt outsideOlder)]
      exact induction (Nat.le_of_lt outsideOlder)

theorem chain_eq (found : get? store address = some cell) :
    chain store address =
      cell ::
        match cell.outer with
        | some outer => if outer < address then chain store outer else []
        | none => [] := by
  induction store with
  | nil => cases found
  | cons newest older induction =>
      by_cases isNewest : address = older.length
      · subst isNewest
        rw [get?_newest] at found
        cases found
        simp only [chain, if_pos]
        cases cell.outer with
        | none => rfl
        | some outer =>
            by_cases inside : outer < older.length
            · simp only [if_pos inside, if_neg (Nat.ne_of_lt inside)]
            · simp only [if_neg inside, chain_of_length_le (Nat.le_of_not_lt inside)]
      · simp only [get?, if_neg isNewest] at found
        simp only [chain, if_neg isNewest, induction found]
        cases cell.outer with
        | none => rfl
        | some outer =>
            by_cases inside : outer < address
            · have different := Nat.ne_of_lt (Nat.lt_trans inside (lt_of_get? found))
              simp only [if_pos inside, if_neg different]
            · simp only [if_neg inside]

theorem KeptIn.chain_eq (kept : KeptIn store larger) (within : address < store.length) :
    chain larger address = chain store address := by
  induction address using Nat.strongRecOn with
  | ind address induction =>
      obtain ⟨cell, found⟩ := exists_get? within
      rw [Store.chain_eq found, Store.chain_eq (kept address cell found)]
      cases cell.outer with
      | none => rfl
      | some outer =>
          by_cases inside : outer < address
          · simp only [if_pos inside, induction outer inside (Nat.lt_trans inside within)]
          · simp only [if_neg inside]

theorem chain_change (sameOuter : ∀ cell, (edit cell).outer = cell.outer) :
    chain (change edit store address) address =
      match chain store address with
      | [] => []
      | cell :: around => edit cell :: around := by
  induction store with
  | nil => rfl
  | cons newest older induction =>
      by_cases isNewest : address = older.length
      · simp only [change, chain, if_pos isNewest, sameOuter]
      · simp only [change, chain, if_neg isNewest, length_change, induction]

/-! ## Functions -/

def lookupClosure? (store : Store) (address : Nat) (name : String) : Option Closure :=
  (chain store address).findSome? (·.functions.get? name)

def scopes (store : Store) (address : Nat) : List Scope :=
  (chain store address).map Cell.scope

theorem scopes_cons (cell : Cell) (older : Store) :
    scopes (cell :: older) older.length =
      cell.scope ::
        match cell.outer with
        | some outer => scopes older outer
        | none => [] := by
  simp only [scopes, chain, if_pos, List.map_cons]
  cases cell.outer <;> rfl

theorem KeptIn.scopes_eq (kept : KeptIn store larger) (within : address < store.length) :
    scopes larger address = scopes store address :=
  congrArg (List.map Cell.scope) (kept.chain_eq within)

theorem scopes_change (sameOuter : ∀ cell, (edit cell).outer = cell.outer)
    {editScope : Scope → Scope}
    (sameEdit : ∀ cell, (edit cell).scope = editScope cell.scope)
    (within : address < store.length) :
    scopes (change edit store address) address =
      editScope ((scopes store address).headD .empty) :: (scopes store address).tail := by
  obtain ⟨cell, found⟩ := exists_get? within
  rw [scopes, chain_change sameOuter, scopes, chain_eq found, List.map_cons,
    List.map_cons, List.headD_cons, List.tail_cons, sameEdit]

theorem lookupFunction?_scopes_none {name : String}
    (missing : lookupClosure? store address name = none) :
    lookupFunction? (scopes store address) name = none := by
  unfold lookupClosure? at missing
  unfold scopes
  generalize chain store address = seen at missing ⊢
  induction seen with
  | nil => rfl
  | cons cell around induction =>
      rw [List.findSome?_cons] at missing
      cases here : cell.functions.get? name with
      | some closure => simp only [here] at missing; cases missing
      | none =>
          simp only [here] at missing
          simp only [List.map_cons, lookupFunction?, Cell.scope, Table.get?_map, here,
            Option.map_none, induction missing]

theorem lookupFunction?_scopes (owned : IsOwned store) {name : String} {closure : Closure}
    (found : lookupClosure? store address name = some closure) :
    ∃ inner, lookupFunction? (scopes store address) name =
      some (closure.function, inner, scopes store closure.home) := by
  induction address using Nat.strongRecOn with
  | ind address induction =>
      by_cases within : address < store.length
      · obtain ⟨cell, isCell⟩ := exists_get? within
        have seen := chain_eq isCell
        rw [lookupClosure?, seen, List.findSome?_cons] at found
        rw [scopes, seen, List.map_cons, lookupFunction?]
        cases here : cell.functions.get? name with
        | some own =>
            simp only [here, Option.some.injEq] at found
            subst found
            obtain rfl := owned address cell name own isCell here
            refine ⟨[], ?_⟩
            rw [scopes, seen, List.map_cons]
            simp only [Cell.scope, Table.get?_map, here, Option.map_some]
        | none =>
            simp only [here] at found
            cases around : cell.outer with
            | none => simp only [around] at found; cases found
            | some outer =>
                by_cases inside : outer < address
                · simp only [around, if_pos inside] at found ⊢
                  obtain ⟨inner, isFound⟩ := induction outer inside found
                  refine ⟨cell.scope :: inner, ?_⟩
                  rw [scopes] at isFound
                  simp only [Cell.scope, Table.get?_map, here, Option.map_none, isFound,
                    Option.map_some]
                · simp only [around, if_neg inside] at found
                  cases found
      · rw [lookupClosure?, chain_of_length_le (Nat.le_of_not_lt within)] at found
        cases found

/-! ## Stores that are owned -/

theorem IsOwned.cons (owned : IsOwned older) (outer : Nat) (bindings : Table Binding) :
    IsOwned (.within outer bindings :: older) := by
  intro address cell name closure isCell isFunction
  simp only [get?] at isCell
  split at isCell
  · cases isCell
    cases isFunction
  · exact owned address cell name closure isCell isFunction

theorem IsOwned.change (owned : IsOwned store)
    (own : ∀ cell name closure, (edit cell).functions.get? name = some closure →
      closure.home = address ∨ cell.functions.get? name = some closure) :
    IsOwned (change edit store address) := by
  intro other cell name closure isCell isFunction
  rw [get?_change] at isCell
  split at isCell
  · next same =>
      subst same
      obtain ⟨before, isBefore, rfl⟩ := Option.map_eq_some_iff.mp isCell
      rcases own before name closure isFunction with home | wasFunction
      · exact home
      · exact owned other before name closure isBefore wasFunction
  · exact owned other cell name closure isCell isFunction

def ofScopes : List Scope → Store
  | [] => []
  | scope :: outer =>
      ⟨scope.bindings, scope.functions.map (⟨·, outer.length⟩),
        if outer.isEmpty then none else some (outer.length - 1)⟩ :: ofScopes outer

theorem length_ofScopes (list : List Scope) : (ofScopes list).length = list.length := by
  induction list with
  | nil => rfl
  | cons scope outer induction => exact congrArg Nat.succ induction

theorem isOwned_ofScopes (list : List Scope) : IsOwned (ofScopes list) := by
  induction list with
  | nil =>
      intro address cell name closure isCell
      cases isCell
  | cons scope outer induction =>
      intro address cell name closure isCell isFunction
      simp only [ofScopes, get?, length_ofScopes] at isCell
      split at isCell
      · next same =>
          cases isCell
          rw [Table.get?_map, Option.map_eq_some_iff] at isFunction
          obtain ⟨function, -, rfl⟩ := isFunction
          exact same.symm
      · exact induction address cell name closure isCell isFunction

theorem scopes_ofScopes (list : List Scope) :
    scopes (ofScopes list) (list.length - 1) = list := by
  induction list with
  | nil => rfl
  | cons scope outer induction =>
      have sameScope (table : Table Function) (home : Nat) :
          (table.map (Closure.mk · home)).map (·.function) = table := by
        simp [Table.map, Function.comp_def]
      have newest := scopes_cons
        ⟨scope.bindings, scope.functions.map (⟨·, outer.length⟩),
          if outer.isEmpty then none else some (outer.length - 1)⟩ (ofScopes outer)
      rw [length_ofScopes] at newest
      rw [List.length_cons, Nat.add_sub_cancel, ofScopes, newest]
      simp only [Cell.scope, sameScope]
      cases outer with
      | nil => rfl
      | cons around others => exact congrArg (scope :: ·) induction

end Store

/-! ## Runs -/

structure SharedMachine where
  stack : List Value
  store : Store
  output : String
  input : List Char
  calls : Nat
  depth : Nat

namespace SharedMachine

def view (shared : SharedMachine) (here : Nat) : Machine :=
  ⟨shared.stack, Store.scopes shared.store here, shared.output, shared.input,
    shared.calls, shared.depth⟩

def withMachine (shared : SharedMachine) (machine : Machine) : SharedMachine :=
  { machine with store := shared.store }

theorem exists_view (machine : Machine) (inScope : machine.scopes ≠ []) :
    ∃ shared here, Store.IsOwned shared.store ∧ here < shared.store.length ∧
      view shared here = machine := by
  refine ⟨{ machine with store := Store.ofScopes machine.scopes },
    machine.scopes.length - 1, Store.isOwned_ofScopes _, ?_, ?_⟩
  · rw [Store.length_ofScopes]
    exact Nat.sub_lt (List.length_pos_iff.mpr inScope) Nat.one_pos
  · rw [view, Store.scopes_ofScopes]

end SharedMachine

abbrev SharedRun := EStateM Stop SharedMachine

namespace SharedRun

def fail {Result : Type} (location : Location) (cause : RuntimeError) :
    SharedRun Result :=
  throw (.error ⟨cause, location⟩)

def unscoped {Result : Type} (here : Nat) (run : Run Result) :
    SharedRun Result := fun shared =>
  match run (shared.view here) with
  | .ok result after => .ok result (shared.withMachine after)
  | .error stop after => .error stop (shared.withMachine after)

def changeCell (here : Nat) (edit : Cell → Cell) : SharedRun Unit :=
  modify fun shared => { shared with store := Store.change edit shared.store here }

def inScope (here : Nat) (run : Nat → SharedRun Unit) : SharedRun Unit := fun shared =>
  run shared.store.length { shared with store := .within here .empty :: shared.store }

/-- Runs a call: `frame` is the stack and `scope` the innermost scope of the callee,
inside the scope at `home`. Afterwards the stack of the caller is back, and one call less
is active. -/
def inFrame (frame : List Value) (scope : Scope) (home : Nat)
    (run : Nat → SharedRun Unit) : SharedRun (List Value) := fun shared =>
  let restore (after : SharedMachine) : SharedMachine :=
    { after with stack := shared.stack, depth := after.depth - 1 }
  match run shared.store.length
      { shared with
        stack := frame, store := .within home scope.bindings :: shared.store,
        calls := shared.calls + 1, depth := shared.depth + 1 } with
  | .ok _ after => .ok after.stack (restore after)
  | .error stop after => .error stop (restore after)

def call (body : Nat → List Statement → SharedRun Unit) (limit here : Nat)
    (location : Location) (name : String) : SharedRun Unit := do
  let shared ← get
  match Store.lookupClosure? shared.store here name with
  | none => fail location (.unknownFunction name)
  | some ⟨function, home⟩ =>
      if limit ≤ shared.depth then fail location (.callLimit limit function.name)
      else
        let arguments ← unscoped here
            (Run.popArguments location function.parameters.length)
        let named := Parameter.areNamed function.parameters
        let frame := if named then [] else arguments
        let scope :=
          if named then .ofArguments function.parameters arguments.reverse else .empty
        let left ← inFrame frame scope home fun callee => body callee function.body
        if function.result.isSome then
          match left with
          | [] => fail location .emptyStack
          | top :: _ => unscoped here (Run.push top)

def statement (body : Nat → List Statement → SharedRun Unit) (limit here : Nat) :
    Statement → SharedRun Unit
  | .push _ value => unscoped here (Run.push value)
  | .word location name =>
      match BuiltinWord.ofName? name with
      | some builtin => unscoped here (Run.word location builtin)
      | none => fail location (.unknownWord name)
  | .operator location symbol => unscoped here (Run.operator location symbol)
  | .load location name => do
      match lookupVariable? (Store.scopes (← get).store here) name with
      | some value => unscoped here (Run.push value)
      | none => fail location (.unknownVariable name)
  | .call location name => call body limit here location name
  | .bind location name type initial => do
      let value ←
        match initial with
        | some value => pure value
        | none => unscoped here (Run.pop location)
      changeCell here (·.bind name ⟨type, value⟩)
  | .define _ name parameters result statements =>
      changeCell here (·.define name ⟨⟨name, parameters, result, statements⟩, here⟩)
  | .ifThen location thenBody => do
      if (← unscoped here (Run.pop location)).isTruthy then inScope here (body · thenBody)
  | .ifThenElse location thenBody elseBody => do
      if (← unscoped here (Run.pop location)).isTruthy then inScope here (body · thenBody)
      else inScope here (body · elseBody)
  | .block _ statements => inScope here (body · statements)
  | .unknown location kind => fail location (.unknownStatement kind)

def statements (limit : Nat) : (room here : Nat) → List Statement → SharedRun Unit
  | 0, _, _ => fail .nowhere .nestedTooDeep
  | room + 1, here, list => list.forM (statement (statements limit room) limit here)

end SharedRun

end StackLanguage
