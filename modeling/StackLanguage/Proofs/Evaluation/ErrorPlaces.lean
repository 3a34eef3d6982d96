import StackLanguage.Proofs.Evaluation.Room
import StackLanguage.Proofs.Program.Nesting

namespace StackLanguage

/-! Where the errors of a run are located: at the statement that is carried out when the
run stops. Every statement that is carried out stands in the program, although functions
are called from everywhere: what is known to the machine has its body in the program. -/

open Statement (everyNested)

def Stop.IsAt (location : Location) : Stop → Prop
  | .error failed => failed.location = location
  | .exit _ | .fault _ => True

namespace Run

/-! ## The statement that is carried out -/

abbrev FailsAt {Result : Type} (location : Location) (run : Run Result) : Prop :=
  StopsFor (Stop.IsAt location) run

section

variable {Result : Type} (location : Location)

theorem fail_failsAt (cause : RuntimeError) :
    FailsAt location (fail location cause : Run Result) :=
  .throw rfl

theorem push_failsAt (value : Value) : FailsAt location (push value) :=
  .modify _

theorem pop_failsAt : FailsAt location (pop location) := by
  refine .get fun machine => ?_
  cases machine.stack with
  | nil => exact fail_failsAt location _
  | cons top rest => exact .bind (.modify _) fun _ => .pure top

theorem print_failsAt (value : Value) (after : String) :
    FailsAt location (print location value after) := by
  unfold print
  cases value.text? with
  | none => exact fail_failsAt location _
  | some text => exact .modify _

theorem rearrange_failsAt (change : List Value → Option (List Value)) :
    FailsAt location (rearrange location change) := by
  refine .get fun machine => ?_
  cases change machine.stack with
  | none => exact fail_failsAt location _
  | some stack => exact .modify _

theorem word_failsAt (word : BuiltinWord) :
    FailsAt location (Run.word location word) := by
  cases word with
  | dup | swap | overTop | rot =>
      unfold Run.word
      apply rearrange_failsAt
  | clear => exact .modify _
  | drop => exact .bind (pop_failsAt location) fun _ => .pure ()
  | print | println =>
      exact .bind (pop_failsAt location) fun _ => print_failsAt location _ _
  | pstack => exact .get fun _ => .forM fun _ _ => print_failsAt location _ _
  | input => exact .bind (fun _ => trivial) fun _ => push_failsAt location _
  | exit =>
      refine .bind (pop_failsAt location) fun value => ?_
      cases exitCode value with
      | error fault => exact .throw trivial
      | ok code => exact .throw trivial
  | okexit => exact .throw trivial
  | not => exact .bind (pop_failsAt location) fun _ => push_failsAt location _

theorem operator_failsAt (symbol : String) :
    FailsAt location (operator location symbol) := by
  refine .bind (pop_failsAt location) fun second =>
    .bind (pop_failsAt location) fun first => ?_
  rcases Operator.apply symbol first second with (cause | fault) | value
  · exact fail_failsAt location _
  · exact .throw trivial
  · exact push_failsAt location value

end

variable {limit room : Nat} {statement : Statement} {list : List Statement}
variable {machine bodyMachine : Machine} {stop : Stop} {left : Machine}

theorem statement_isAt_of_not_enters {body : List Statement → Run Unit}
    (none : ∀ list bodyMachine, ¬ Enters limit statement machine list bodyMachine)
    (stopped : Run.statement body limit statement machine = .error stop left) :
    stop.IsAt statement.location := by
  have same : Run.statement body limit statement machine =
      Run.statement (fun _ => pure ()) limit statement machine :=
    statement_congr fun list bodyMachine enters => (none list bodyMachine enters).elim
  have ofFailsAt
      (fails : FailsAt statement.location
        (Run.statement (fun _ => pure ()) limit statement)) :
        stop.IsAt statement.location :=
    fails.of_error (same.symm.trans stopped)
  cases statement with
  | push location value => exact ofFailsAt (push_failsAt location value)
  | word location name =>
      apply ofFailsAt
      unfold Run.statement
      dsimp only
      cases BuiltinWord.ofName? name with
      | none => exact fail_failsAt location _
      | some builtin => exact word_failsAt location builtin
  | operator location symbol => exact ofFailsAt (operator_failsAt location symbol)
  | load location name =>
      refine ofFailsAt (.get fun machine => ?_)
      cases lookupVariable? machine.scopes name with
      | none => exact fail_failsAt location _
      | some value => exact push_failsAt location value
  | call location name =>
      rcases call_ends_of_not_enters none with ⟨cause, _, refused⟩
      cases stopped.symm.trans refused
      rfl
  | bind location name type initial =>
      cases initial with
      | none => exact ofFailsAt (.bind (pop_failsAt location) fun _ => .modify _)
      | some value => exact ofFailsAt (.modify _)
  | define location name parameters result statements => exact ofFailsAt (.modify _)
  | ifThen location thenBody =>
      exact ofFailsAt
        (.bind (pop_failsAt location) fun _ => .ite (fun _ => trivial) (.pure ()))
  | ifThenElse location thenBody elseBody =>
      exact ofFailsAt (.bind (pop_failsAt location) fun _ =>
        .ite (fun _ => trivial) fun _ => trivial)
  | block location statements => exact (none _ _ .block).elim
  | unknown location kind => exact ofFailsAt (fail_failsAt location _)

theorem inScope_error {run : Run Unit} {stack : List Value}
    (stopped : inScope run { machine with stack } = .error stop left) :
    ∃ inside, run (machine.inner stack) = .error stop inside := by
  rw [inScope_inner] at stopped
  cases outcome : run (machine.inner stack) <;> rw [outcome] at stopped <;> cases stopped
  exact ⟨_, rfl⟩

theorem statement_isAt_of_enters {body : List Statement → Run Unit}
    (enters : Enters limit statement machine list bodyMachine)
    (stopped : Run.statement body limit statement machine = .error stop left) :
    stop.IsAt statement.location ∨
      ∃ inside, body list bodyMachine = .error stop inside := by
  cases enters with
  | @call location name machine function inner defining found allowed supplied =>
      rw [Run.statement, call_eq found allowed supplied] at stopped
      cases outcome : body function.body (machine.enter function defining) with
      | ok _ inside =>
          rw [outcome] at stopped
          dsimp only at stopped
          -- Only the result that a callee owes and does not leave is missed
          -- at the call itself.
          split at stopped <;> cases stopped
          exact .inl rfl
      | error other inside =>
          rw [outcome] at stopped
          cases stopped
          exact .inr ⟨inside, rfl⟩
  | onlyBranch popped holds =>
      rw [ifThen_true popped holds] at stopped
      exact .inr (inScope_error stopped)
  | thenBranch popped holds =>
      rw [ifThenElse_true popped holds] at stopped
      exact .inr (inScope_error stopped)
  | elseBranch popped fails =>
      rw [ifThenElse_false popped fails] at stopped
      exact .inr (inScope_error stopped)
  | block => exact .inr (inScope_error stopped)

theorem exists_moment (stopped : statements limit room list machine = .error stop left)
    (enough : stop ≠ .outOfRoom) :
    ∃ current now,
      Moment limit room list machine current now ∧ stop.IsAt current.location := by
  -- On the room for the bodies that are gone into, and within it on the statements.
  induction room generalizing list machine left with
  | zero =>
      cases stopped
      exact absurd rfl enough
  | succ room inBodies =>
      induction list generalizing machine with
      | nil => cases stopped
      | cons statement rest inRest =>
          rw [statements_cons] at stopped
          cases ran : Run.statement (statements limit room) limit statement machine with
          | ok _ between =>
              rw [ran] at stopped
              rcases inRest stopped with ⟨current, now, moment, isAt⟩
              exact ⟨current, now, .later ran moment, isAt⟩
          | error other after =>
              rw [ran] at stopped
              cases stopped
              rcases Enters.exists_or_none limit statement machine with
                ⟨body, bodyMachine, enters⟩ | none
              · rcases statement_isAt_of_enters enters ran with
                  isAt | ⟨inside, stoppedInside⟩
                · exact ⟨statement, machine, .here, isAt⟩
                · rcases inBodies stoppedInside with ⟨current, now, moment, isAt⟩
                  exact ⟨current, now, .inside enters moment, isAt⟩
              · exact ⟨statement, machine, .here, statement_isAt_of_not_enters none ran⟩

/-! ## The statements that are carried out -/

def KnowsWithin (nested : List Statement) (scopes : List Scope) : Prop :=
  ∀ function, Knows scopes function → everyNested function.body ⊆ nested

variable {nested : List Statement}

theorem everyNested_subset_of_cons {statement : Statement} {rest : List Statement}
    (subset : everyNested (statement :: rest) ⊆ nested) :
    everyNested [statement] ⊆ nested ∧ everyNested rest ⊆ nested := by
  rw [everyNested, List.append_subset] at subset
  rw [everyNested, everyNested, List.append_nil]
  exact subset

theorem Enters.within (enters : Enters limit statement machine list bodyMachine)
    (subset : statement.withNested ⊆ nested) (knows : KnowsWithin nested machine.scopes) :
    everyNested list ⊆ nested ∧ KnowsWithin nested bodyMachine.scopes := by
  rcases enters.call_or_part with
    ⟨_, _, function, _, _, _, found, _, rfl, rfl⟩ | ⟨isPart, stack, rfl⟩
  · exact ⟨knows function (.of_lookup found), fun known isKnown =>
      knows known (Machine.knows_enter found isKnown)⟩
  · have isBody := Statement.exists_body_of_mem_parts isPart
    exact ⟨fun _ member => subset (Statement.mem_withNested_of_body isBody member),
      fun known isKnown => knows known isKnown.of_cons_empty⟩

theorem after_knowsWithin (limit room : Nat) (list : List Statement) (machine : Machine) :
    everyNested list ⊆ nested → KnowsWithin nested machine.scopes →
      KnowsWithin nested ((statements limit room list).after machine).scopes := by
  apply after_induction fun list machine left => everyNested list ⊆ nested →
    KnowsWithin nested machine.scopes → KnowsWithin nested left.scopes
  case nothing => exact fun _ _ _ knows => knows
  case apart =>
    intro statement machine left isApart subset knows function isKnown
    rcases isApart.known function isKnown with isKnown | ⟨location, rfl⟩
    · exact knows function isKnown
    · intro inner member
      exact subset (Statement.mem_everyNested_head
        (Statement.mem_withNested_of_body (.head _) member))
  case back =>
    intro statement machine list bodyMachine inside left enters body isBack subset knows
      function isKnown
    have within := enters.within
      (fun _ member => subset (Statement.mem_everyNested_head member)) knows
    rcases isBack.known function isKnown with isKnown | isKnown
    · exact knows function isKnown
    · exact body within.1 within.2 function isKnown
  case early =>
    intro statement rest machine left first subset knows
    exact first (everyNested_subset_of_cons subset).1 knows
  case later =>
    intro statement rest machine between left first after subset knows
    have parts := everyNested_subset_of_cons subset
    exact after parts.2 (first parts.1 knows)

theorem Moment.mem {current : Statement} {now : Machine}
    (moment : Moment limit room list machine current now)
    (subset : everyNested list ⊆ nested) (knows : KnowsWithin nested machine.scopes) :
    current ∈ nested := by
  induction moment with
  | here =>
      exact subset (Statement.mem_everyNested_head (Statement.mem_withNested_self _))
  | inside enters _ inBody =>
      have within := enters.within
        (fun _ member => subset (Statement.mem_everyNested_head member)) knows
      exact inBody within.1 within.2
  | @later room statement rest machine between current now ran _ inRest =>
      have parts := everyNested_subset_of_cons subset
      have known :=
        after_knowsWithin limit (room + 1) [statement] machine parts.1 knows
      rw [after_singleton ran] at known
      exact inRest parts.2 known

/-- From scopes without functions, the errors of a run are at the statements that are run,
at any depth. -/
theorem statements_isAt (stopped : statements limit room list machine = .error stop left)
    (enough : stop ≠ .outOfRoom) (clean : ∀ function, ¬ Knows machine.scopes function) :
    ∃ statement ∈ everyNested list, stop.IsAt statement.location := by
  rcases exists_moment stopped enough with ⟨current, now, moment, isAt⟩
  exact ⟨current, moment.mem (List.Subset.refl _) fun function isKnown =>
    (clean function isKnown).elim, isAt⟩

end Run

end StackLanguage
