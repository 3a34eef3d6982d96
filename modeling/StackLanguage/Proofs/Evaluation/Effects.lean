import StackLanguage.Proofs.Evaluation.Bodies

namespace StackLanguage

/-! What a statement does to the calls of a machine and to its scopes, and when it runs
out of room. Two facts cover every statement: one for a statement that goes into a body,
in terms of what the body leaves, and one for a statement that goes into none. -/

def Stop.outOfRoom : Stop := .error ⟨.nestedTooDeep, .nowhere⟩

def Knows (scopes : List Scope) (function : Function) : Prop :=
  ∃ scope ∈ scopes, ∃ name, scope.functions.get? name = some function

namespace Knows

variable {scopes : List Scope} {scope : Scope} {function : Function}

theorem of_subset {other : List Scope} (knows : Knows scopes function)
    (subset : scopes ⊆ other) : Knows other function := by
  rcases knows with ⟨scope, member, defined⟩
  exact ⟨scope, subset member, defined⟩

theorem cons_iff : Knows (scope :: scopes) function ↔
    (∃ name, scope.functions.get? name = some function) ∨ Knows scopes function := by
  simp [Knows]

theorem append_iff {other : List Scope} :
    Knows (scopes ++ other) function ↔ Knows scopes function ∨ Knows other function := by
  simp [Knows, or_and_right, exists_or]

theorem of_cons_empty (knows : Knows (.empty :: scopes) function) :
    Knows scopes function := by
  rcases cons_iff.mp knows with ⟨_, defined⟩ | knows
  · cases defined
  · exact knows

theorem not_clean (function : Function) : ¬ Knows [.empty] function := by
  intro knows
  rcases knows.of_cons_empty with ⟨_, member, _⟩
  cases member

theorem of_lookup {inner defining : List Scope} {name : String}
    (found : lookupFunction? scopes name = some (function, inner, defining)) :
    Knows scopes function := by
  rcases lookupFunction?_split found with ⟨rfl, scope, outer, rfl, defined⟩
  exact ⟨scope, by simp, name, defined⟩

end Knows

namespace Scope

theorem functions_ofArguments (parameters : List Parameter) (arguments : List Value) :
    (ofArguments parameters arguments).functions = .empty := by
  have noFunctions : empty.functions = .empty := rfl
  unfold ofArguments
  -- The induction is on the pairs that are left, from any scope that
  -- the earlier ones made.
  generalize empty = start at noFunctions ⊢
  induction parameters.zip arguments generalizing start with
  | nil => exact noFunctions
  | cons pair rest induction =>
      rcases pair with ⟨⟨type, _ | name⟩, argument⟩
      · exact induction start noFunctions
      · exact induction (start.bind name ⟨type, argument⟩) noFunctions

end Scope

namespace Machine

theorem knows_enter {machine : Machine} {function known : Function} {name : String}
    {inner defining : List Scope}
    (found : lookupFunction? machine.scopes name = some (function, inner, defining))
    (knows : Knows (machine.enter function defining).scopes known) :
    Knows machine.scopes known := by
  have outside : Knows defining known := by
    unfold enter at knows
    rcases Knows.cons_iff.mp knows with ⟨name, defined⟩ | knows
    · split at defined
      · rw [Scope.functions_ofArguments] at defined
        cases defined
      · cases defined
    · exact knows
  exact (lookupFunction?_split found).1 ▸ Knows.append_iff.mpr (.inr outside)

def Idles (machine left : Machine) : Prop :=
  left.calls = machine.calls ∧ left.depth = machine.depth ∧ left.scopes = machine.scopes

instance Idles.isPreorder : IsPreorder Machine Idles where
  refl _ := ⟨rfl, rfl, rfl⟩
  trans _ _ _ first second :=
    ⟨second.1.trans first.1, second.2.1.trans first.2.1, second.2.2.trans first.2.2⟩

theorem knows_scope {machine : Machine} {function : Function} {name : String}
    (defined : machine.scope.functions.get? name = some function) :
    Knows machine.scopes function := by
  unfold scope at defined
  cases scopes : machine.scopes with
  | nil => rw [scopes] at defined; cases defined
  | cons innermost outer =>
      rw [scopes] at defined
      exact Knows.cons_iff.mpr (.inl ⟨name, defined⟩)

theorem knows_changeScope {machine : Machine} {change : Scope → Scope}
    {function : Function} (knows : Knows (machine.changeScope change).scopes function) :
    (∃ name, (change machine.scope).functions.get? name = some function) ∨
      Knows machine.scopes function :=
  (Knows.cons_iff.mp knows).imp_right (·.of_subset (List.tail_sublist _).subset)

theorem knows_bind {machine : Machine} {name : String} {binding : Binding}
    {function : Function}
    (knows : Knows (machine.changeScope (·.bind name binding)).scopes function) :
    Knows machine.scopes function := by
  rcases knows_changeScope knows with ⟨_, defined⟩ | knows
  · exact knows_scope defined
  · exact knows

theorem knows_define {machine : Machine} {name : String} {function known : Function}
    (knows : Knows (machine.changeScope (·.define name function)).scopes known) :
    Knows machine.scopes known ∨ known = function := by
  rcases knows_changeScope knows with ⟨other, defined⟩ | knows
  · simp only [Scope.define, Table.get?_set] at defined
    split at defined
    · cases defined
      exact .inr rfl
    · exact .inl (knows_scope defined)
  · exact .inl knows

end Machine

namespace Run

/-! ## Words and operators -/

def IsIdle {Result : Type} (run : Run Result) : Prop :=
  ∀ machine, Ends run machine (fun _ left => machine.Idles left)
    fun stop left => stop ≠ .outOfRoom ∧ machine.Idles left

namespace IsIdle

variable {First Second : Type}

theorem pure (result : First) : IsIdle (Pure.pure result : Run First) :=
  fun machine => refl_of Machine.Idles machine

theorem throw {stop : Stop} (other : stop ≠ .outOfRoom) :
    IsIdle (MonadExcept.throw stop : Run First) :=
  fun machine => ⟨other, refl_of Machine.Idles machine⟩

theorem get {reader : Machine → Run First}
    (areIdle : ∀ machine, IsIdle (reader machine)) : IsIdle (MonadState.get >>= reader) :=
  fun machine => areIdle machine machine

theorem modify {change : Machine → Machine}
    (idles : ∀ machine : Machine, machine.Idles (change machine)) :
    IsIdle (modifyThe Machine change : Run Unit) :=
  idles

theorem ite {condition : Prop} [Decidable condition] {yes no : Run First}
    (yesIdle : IsIdle yes) (noIdle : IsIdle no) :
    IsIdle (if condition then yes else no) := by
  by_cases holds : condition
  · rwa [if_pos holds]
  · rwa [if_neg holds]

theorem bind {first : Run First} {second : First → Run Second} (firstIdle : IsIdle first)
    (secondIdle : ∀ result, IsIdle (second result)) : IsIdle (first >>= second) := by
  intro machine
  refine Ends.bind ((firstIdle machine).mono ?_ fun _ _ stopped => stopped)
  intro result between idles
  exact (secondIdle result between).mono
    (fun _ _ again => trans_of Machine.Idles idles again)
    fun _ _ stopped => ⟨stopped.1, trans_of Machine.Idles idles stopped.2⟩

end IsIdle

theorem fail_isIdle {Result : Type} (location : Location) {cause : RuntimeError}
    (other : cause ≠ .nestedTooDeep) : IsIdle (fail location cause : Run Result) := by
  apply IsIdle.throw
  intro same
  cases same
  exact other rfl

theorem push_isIdle (value : Value) : IsIdle (push value) :=
  .modify fun _ => ⟨rfl, rfl, rfl⟩

theorem pop_isIdle (location : Location) : IsIdle (pop location) := by
  refine .get fun machine => ?_
  cases machine.stack with
  | nil => exact fail_isIdle location nofun
  | cons top rest => exact .bind (.modify fun _ => ⟨rfl, rfl, rfl⟩) fun _ => .pure top

theorem print_isIdle (location : Location) (value : Value) (after : String) :
    IsIdle (print location value after) := by
  unfold print
  cases value.text? with
  | none => exact fail_isIdle location nofun
  | some text => exact .modify fun _ => ⟨rfl, rfl, rfl⟩

theorem rearrange_isIdle (location : Location)
    (change : List Value → Option (List Value)) : IsIdle (rearrange location change) := by
  refine .get fun machine => ?_
  cases change machine.stack with
  | none => exact fail_isIdle location nofun
  | some stack => exact .modify fun _ => ⟨rfl, rfl, rfl⟩

theorem forM_isIdle {Element : Type} {step : Element → Run Unit}
    (areIdle : ∀ element, IsIdle (step element)) (list : List Element) :
    IsIdle (list.forM step) := by
  induction list with
  | nil => exact .pure ()
  | cons element rest induction => exact .bind (areIdle element) fun _ => induction

theorem word_isIdle (location : Location) (word : BuiltinWord) :
    IsIdle (Run.word location word) := by
  cases word with
  | dup | swap | overTop | rot =>
      unfold Run.word
      apply rearrange_isIdle
  | clear => exact .modify fun _ => ⟨rfl, rfl, rfl⟩
  | drop => exact .bind (pop_isIdle location) fun _ => .pure ()
  | print | println =>
      exact .bind (pop_isIdle location) fun _ => print_isIdle location _ _
  | pstack => exact .get fun _ => forM_isIdle (fun _ => print_isIdle _ _ _) _
  | input => exact .bind (fun _ => ⟨rfl, rfl, rfl⟩) fun _ => push_isIdle _
  | exit =>
      refine .bind (pop_isIdle location) fun value => ?_
      cases exitCode value with
      | error fault => exact .throw nofun
      | ok code => exact .throw nofun
  | okexit => exact .throw nofun
  | not => exact .bind (pop_isIdle location) fun _ => push_isIdle _

theorem operator_isIdle (location : Location) (symbol : String) :
    IsIdle (operator location symbol) := by
  refine .bind (pop_isIdle location) fun second =>
    .bind (pop_isIdle location) fun first => ?_
  rcases Operator.apply symbol first second with (cause | fault) | value
  · exact fail_isIdle location nofun
  · exact .throw nofun
  · exact push_isIdle value

/-! ## Statements -/

def after (run : Run Unit) (machine : Machine) : Machine :=
  match run machine with
  | .ok _ left => left
  | .error _ left => left

theorem after_congr {run other : Run Unit} {machine start : Machine}
    (same : run machine = other start) : run.after machine = other.after start := by
  rw [after, after, same]

theorem after_ok {run : Run Unit} {machine left : Machine}
    (ended : run machine = .ok () left) : run.after machine = left := by
  rw [after, ended]

theorem after_error {run : Run Unit} {machine left : Machine} {stop : Stop}
    (stopped : run machine = .error stop left) : run.after machine = left := by
  rw [after, stopped]

def Exhausts (run : Run Unit) (machine : Machine) : Prop :=
  ∃ left, run machine = .error .outOfRoom left

/-- What a machine is when a body that was started from it in `bodyMachine` has left
`inside`: the calls of the body count, it is as deep as it was, only what was known before
or in the body is known, and it has its scopes back if the body has changed none but its
own. -/
structure IsBack (machine bodyMachine inside left : Machine) : Prop where
  calls : left.calls = inside.calls
  depth : inside.depth = bodyMachine.depth → left.depth = machine.depth
  known : ∀ function, Knows left.scopes function →
    Knows machine.scopes function ∨ Knows inside.scopes function
  scopes : inside.scopes.tail = bodyMachine.scopes.tail → left.scopes = machine.scopes

variable {limit : Nat} {statement : Statement} {machine bodyMachine : Machine}
variable {list : List Statement}

theorem inScope_inner (run : Run Unit) (machine : Machine) (stack : List Value) :
    inScope run { machine with stack } =
      match run (machine.inner stack) with
      | .ok _ left => .ok () { left with scopes := left.scopes.tail }
      | .error stop left => .error stop { left with scopes := left.scopes.tail } :=
  inScope_eq run { machine with stack }

theorem inScope_isBack (run : Run Unit) (machine : Machine) (stack : List Value) :
    IsBack machine (machine.inner stack) (run.after (machine.inner stack))
      ((inScope run).after { machine with stack }) := by
  have isBack (inside : Machine) : IsBack machine (machine.inner stack) inside
      { inside with scopes := inside.scopes.tail } :=
    ⟨rfl, id, fun function knows => .inr (knows.of_subset (List.tail_sublist _).subset),
      id⟩
  unfold after
  rw [inScope_inner]
  cases run (machine.inner stack) with
  | ok _ inside => exact isBack inside
  | error stop inside => exact isBack inside

theorem call_isBack {body : List Statement → Run Unit} {location : Location}
    {name : String} {function : Function} {inner defining : List Scope}
    (found : lookupFunction? machine.scopes name = some (function, inner, defining))
    (allowed : machine.depth < limit)
    (supplied : function.parameters.length ≤ machine.stack.length) :
    IsBack machine (machine.enter function defining)
      ((body function.body).after (machine.enter function defining))
      ((call body limit location name).after machine) := by
  have isBack (inside : Machine) (stack : List Value) :
      IsBack machine (machine.enter function defining) inside
        { inside with
          stack, scopes := inner ++ inside.scopes.tail, depth := inside.depth - 1 } := by
    refine ⟨rfl, congrArg (· - 1), fun known knows => ?_, fun same => ?_⟩
    · rcases Knows.append_iff.mp knows with knows | knows
      · exact .inl ((lookupFunction?_split found).1 ▸ Knows.append_iff.mpr (.inl knows))
      · exact .inr (knows.of_subset (List.tail_sublist _).subset)
    · exact (congrArg (inner ++ ·) same).trans (lookupFunction?_split found).1
  unfold after
  rw [call_eq found allowed supplied]
  cases body function.body (machine.enter function defining) with
  | error stop inside => exact isBack inside _
  | ok _ inside =>
      rcases inside with ⟨stack, scopes, output, input, calls, depth⟩
      cases function.result <;> cases stack <;>
        exact isBack ⟨_, scopes, output, input, calls, depth⟩ _

theorem statement_isBack (body : List Statement → Run Unit)
    (enters : Enters limit statement machine list bodyMachine) :
    IsBack machine bodyMachine ((body list).after bodyMachine)
      ((Run.statement body limit statement).after machine) := by
  cases enters with
  | call found allowed supplied => exact call_isBack found allowed supplied
  | onlyBranch popped holds =>
      rw [after_congr (ifThen_true popped holds)]
      exact inScope_isBack _ machine _
  | thenBranch popped holds =>
      rw [after_congr (ifThenElse_true popped holds)]
      exact inScope_isBack _ machine _
  | elseBranch popped fails =>
      rw [after_congr (ifThenElse_false popped fails)]
      exact inScope_isBack _ machine _
  | block => exact inScope_isBack _ machine _

theorem inScope_exhausts_iff {run : Run Unit} {stack : List Value} :
    Exhausts (inScope run) { machine with stack } ↔
      Exhausts run (machine.inner stack) := by
  unfold Exhausts
  rw [inScope_inner]
  cases run (machine.inner stack) <;> simp

theorem call_exhausts_iff {body : List Statement → Run Unit} {location : Location}
    {name : String} {function : Function} {inner defining : List Scope}
    (found : lookupFunction? machine.scopes name = some (function, inner, defining))
    (allowed : machine.depth < limit)
    (supplied : function.parameters.length ≤ machine.stack.length) :
    Exhausts (call body limit location name) machine ↔
      Exhausts (body function.body) (machine.enter function defining) := by
  unfold Exhausts
  rw [call_eq found allowed supplied]
  cases body function.body (machine.enter function defining) with
  | error stop inside => simp
  | ok _ inside =>
      rcases inside with ⟨stack, scopes, output, input, calls, depth⟩
      cases function.result <;> cases stack <;> simp [Stop.outOfRoom]

theorem statement_exhausts_iff {body : List Statement → Run Unit}
    (enters : Enters limit statement machine list bodyMachine) :
    Exhausts (Run.statement body limit statement) machine ↔
      Exhausts (body list) bodyMachine := by
  cases enters with
  | call found allowed supplied => exact call_exhausts_iff found allowed supplied
  | onlyBranch popped holds =>
      rw [Exhausts, ifThen_true popped holds]; exact inScope_exhausts_iff
  | thenBranch popped holds =>
      rw [Exhausts, ifThenElse_true popped holds]; exact inScope_exhausts_iff
  | elseBranch popped fails =>
      rw [Exhausts, ifThenElse_false popped fails]; exact inScope_exhausts_iff
  | block => exact inScope_exhausts_iff

theorem call_ends_of_not_enters {body : List Statement → Run Unit} {location : Location}
    {name : String}
    (none : ∀ list bodyMachine,
      ¬ Enters limit (.call location name) machine list bodyMachine) :
    ∃ cause, cause ≠ .nestedTooDeep ∧
      call body limit location name machine =
        .error (.error ⟨cause, location⟩) machine := by
  cases found : lookupFunction? machine.scopes name with
  | none => exact ⟨.unknownFunction name, nofun, call_unknown found⟩
  | some callee =>
      rcases callee with ⟨function, inner, defining⟩
      rcases Nat.lt_or_ge machine.depth limit with allowed | refused
      · rcases Nat.lt_or_ge machine.stack.length function.parameters.length with
          missing | supplied
        · exact ⟨.emptyStack, nofun, call_missing found allowed missing⟩
        · exact (none _ _ (.call found allowed supplied)).elim
      · exact ⟨.callLimit limit function.name, nofun, call_refused found refused⟩

end Run

def Statement.LeavesScopes (machine : Machine) (scopes : List Scope) : Statement → Prop
  | .bind _ name type _ =>
      ∃ value, scopes = (machine.changeScope (·.bind name ⟨type, value⟩)).scopes
  | .define _ name parameters result body =>
      scopes =
        (machine.changeScope (·.define name ⟨name, parameters, result, body⟩)).scopes
  | _ => scopes = machine.scopes

namespace Run

variable {limit : Nat} {statement : Statement} {machine left : Machine}

/-- What a statement that goes into no body leaves, whether it is carried out or stops
early: no call has been made, and no scope has changed but by the statement. -/
structure IsApart (statement : Statement) (machine left : Machine) : Prop where
  calls : left.calls = machine.calls
  depth : left.depth = machine.depth
  scopes : left.scopes = machine.scopes ∨ statement.LeavesScopes machine left.scopes

theorem IsApart.of_idles (idles : machine.Idles left) : IsApart statement machine left :=
  ⟨idles.1, idles.2.1, .inl idles.2.2⟩

theorem IsApart.known (isApart : IsApart statement machine left) (function : Function)
    (knows : Knows left.scopes function) : Knows machine.scopes function ∨
      ∃ location, statement =
        .define location function.name function.parameters function.result
          function.body := by
  rcases isApart.scopes with same | leaves
  · exact .inl (same ▸ knows)
  · cases statement with
    | bind location name type initial =>
        rcases leaves with ⟨value, leaves⟩
        rw [leaves] at knows
        exact .inl (Machine.knows_bind knows)
    | define location name parameters result body =>
        rw [show left.scopes = _ from leaves] at knows
        refine (Machine.knows_define knows).imp_right ?_
        rintro rfl
        exact ⟨location, rfl⟩
    | _ => exact .inl ((show left.scopes = machine.scopes from leaves) ▸ knows)

theorem statement_ends_of_not_enters (body : List Statement → Run Unit)
    (none : ∀ list bodyMachine, ¬ Enters limit statement machine list bodyMachine) :
    Ends (Run.statement body limit statement) machine
      (fun _ left =>
        IsApart statement machine left ∧ statement.LeavesScopes machine left.scopes)
      fun stop left => stop ≠ .outOfRoom ∧ machine.Idles left := by
  have ofIsIdle (isIdle : IsIdle (Run.statement (fun _ => pure ()) limit statement))
      (still : statement.LeavesScopes machine machine.scopes) :
      Ends (Run.statement body limit statement) machine
        (fun _ left =>
          IsApart statement machine left ∧ statement.LeavesScopes machine left.scopes)
        fun stop left => stop ≠ .outOfRoom ∧ machine.Idles left := by
    refine Ends.of_eq
      ((isIdle machine).mono (fun _ _ idles => ?_) fun _ _ stopped => stopped) ?_
    · exact ⟨.of_idles idles, idles.2.2 ▸ still⟩
    · exact statement_congr fun list bodyMachine enters =>
        (none list bodyMachine enters).elim
  cases statement with
  | push location value => exact ofIsIdle (push_isIdle value) rfl
  | word location name =>
      refine ofIsIdle ?_ rfl
      unfold Run.statement
      dsimp only
      cases BuiltinWord.ofName? name with
      | none => exact fail_isIdle location nofun
      | some builtin => exact word_isIdle location builtin
  | operator location symbol => exact ofIsIdle (operator_isIdle location symbol) rfl
  | load location name =>
      refine ofIsIdle (.get fun machine => ?_) rfl
      cases lookupVariable? machine.scopes name with
      | none => exact fail_isIdle location nofun
      | some value => exact push_isIdle value
  | call location name =>
      rcases call_ends_of_not_enters none with ⟨cause, other, stopped⟩
      have same : Run.statement body limit (.call location name) machine =
          (fail location cause : Run Unit) machine := stopped
      refine Ends.of_eq (((fail_isIdle location other) machine).mono (fun _ _ idles => ?_)
        fun _ _ stopped => stopped) same
      exact ⟨.of_idles idles, idles.2.2⟩
  | bind location name type initial =>
      have binds (value : Value) {between : Machine} (idles : machine.Idles between) :
          Ends (modifyThe Machine (·.changeScope (·.bind name ⟨type, value⟩)) : Run Unit)
            between
            (fun _ left =>
              IsApart (.bind location name type initial) machine left ∧
              (Statement.bind location name type initial).LeavesScopes machine
                left.scopes)
            fun stop left => stop ≠ .outOfRoom ∧ machine.Idles left := by
        have leaves : (Statement.bind location name type initial).LeavesScopes machine
            (between.changeScope (·.bind name ⟨type, value⟩)).scopes := by
          refine ⟨value, ?_⟩
          simp only [Machine.changeScope, Machine.scope, idles.2.2]
        exact ⟨⟨idles.1, idles.2.1, .inr leaves⟩, leaves⟩
      cases initial with
      | none =>
          refine Ends.bind
            ((pop_isIdle location machine).mono ?_ fun _ _ stopped => stopped)
          exact fun value between idles => binds value idles
      | some value => exact binds value (refl_of Machine.Idles machine)
  | define location name parameters result statements => exact ⟨⟨rfl, rfl, .inr rfl⟩, rfl⟩
  | ifThen location thenBody =>
      exact ofIsIdle (.bind (pop_isIdle location) fun _ =>
        .ite (fun _ => ⟨rfl, rfl, rfl⟩) (.pure ())) rfl
  | ifThenElse location thenBody elseBody =>
      exact ofIsIdle (.bind (pop_isIdle location) fun _ =>
        .ite (fun _ => ⟨rfl, rfl, rfl⟩) (fun _ => ⟨rfl, rfl, rfl⟩)) rfl
  | block location statements => exact (none _ _ .block).elim
  | unknown location kind => exact ofIsIdle (fail_isIdle location nofun) rfl

end Run

end StackLanguage
