import StackLanguage.Evaluation.Run
import StackLanguage.Proofs.Ends

namespace StackLanguage

/-! What a run has to do with its surroundings. It writes after what is already written
and counts its calls after those already made, without looking at either, and reads its
input by whole lines. -/

def linesOf : List Char → List (List Char)
  | [] => []
  | character :: rest =>
      if character = '\n' then [character] :: linesOf rest
      else
        match linesOf rest with
        | [] => [[character]]
        | line :: lines => (character :: line) :: lines

theorem flatten_linesOf (characters : List Char) :
    (linesOf characters).flatten = characters := by
  induction characters with
  | nil => rfl
  | cons character rest induction =>
      unfold linesOf
      split
      · rw [List.flatten_cons, induction]
        rfl
      · split
        · next noLines =>
            rw [noLines] at induction
            subst induction
            rfl
        · next line lines someLines =>
            rw [someLines] at induction
            rw [← induction]
            rfl

theorem linesOf_eq {characters : List Char} (notEmpty : characters ≠ []) :
    linesOf characters =
      characters.take ((characters.takeWhile (· ≠ '\n')).length + 1) ::
        linesOf (characters.drop ((characters.takeWhile (· ≠ '\n')).length + 1)) := by
  induction characters with
  | nil => exact absurd rfl notEmpty
  | cons character rest induction =>
      by_cases ends : character = '\n'
      · subst ends
        rfl
      · rw [linesOf, if_neg ends, List.takeWhile_cons_of_pos (by simpa using ends)]
        cases rest with
        | nil => rfl
        | cons second others =>
            rw [induction (by simp)]
            rfl

theorem take_line (characters : List Char) :
    characters.take ((characters.takeWhile (· ≠ '\n')).length + 1) =
      if (characters.takeWhile (· ≠ '\n')).length < characters.length
        then characters.takeWhile (· ≠ '\n') ++ ['\n']
        else characters.takeWhile (· ≠ '\n') := by
  induction characters with
  | nil => rfl
  | cons character rest induction =>
      by_cases ends : character = '\n'
      · subst ends
        rfl
      · rw [List.takeWhile_cons_of_pos (by simpa using ends), List.length_cons,
          List.take_succ_cons, induction]
        simp only [List.length_cons, Nat.add_lt_add_iff_right]
        split <;> rfl

theorem linesOf_eq_nil {characters : List Char} :
    linesOf characters = [] ↔ characters = [] := by
  constructor
  · intro noLines
    rw [← flatten_linesOf characters, noLines]
    rfl
  · rintro rfl
    rfl

theorem linesOf_flatten_of_append {characters : List Char} {front rest : List (List Char)}
    (same : linesOf characters = front ++ rest) : linesOf rest.flatten = rest := by
  induction front generalizing characters with
  | nil =>
      have isRest : rest = linesOf characters := same.symm
      rw [isRest, flatten_linesOf]
  | cons line front induction =>
      have notEmpty : characters ≠ [] := by
        rintro rfl
        cases same
      rw [linesOf_eq notEmpty] at same
      exact induction (List.cons.inj same).2

theorem length_linesOf_le (characters : List Char) :
    (linesOf characters).length ≤ characters.length := by
  induction characters with
  | nil => exact Nat.le_refl 0
  | cons character rest induction =>
      unfold linesOf
      split
      · exact Nat.succ_le_succ induction
      · split
        · exact Nat.succ_le_succ (Nat.zero_le _)
        · next someLines =>
            rw [someLines] at induction
            exact Nat.le_succ_of_le induction

structure Past where
  output : String
  calls : Nat

namespace Machine

def withPast (past : Past) (machine : Machine) : Machine :=
  { machine with
    output := past.output ++ machine.output, calls := past.calls + machine.calls }

class ComparesInput (related : Machine → Machine → Prop) : Prop
    extends IsPreorder Machine related where
  of_eq {machine left : Machine} (same : left.input = machine.input) :
    related machine left

def HasRead (machine left : Machine) : Prop :=
  linesOf left.input <:+ linesOf machine.input

instance HasRead.comparesInput : ComparesInput HasRead where
  refl _ := List.suffix_refl _
  trans _ _ _ first second := second.trans first
  of_eq same := by
    unfold HasRead
    exact same ▸ List.suffix_refl _

def HasNotRead (machine left : Machine) : Prop := left.input = machine.input

instance HasNotRead.comparesInput : ComparesInput HasNotRead where
  refl _ := rfl
  trans _ _ _ first second := second.trans first
  of_eq same := same

theorem lines_readLine (machine : Machine) :
    linesOf machine.readLine.2.input = (linesOf machine.input).tail := by
  by_cases isEmpty : machine.input = []
  · simp [readLine, isEmpty, linesOf]
  · rw [linesOf_eq isEmpty]
    rfl

theorem hasRead_readLine (machine : Machine) : machine.HasRead machine.readLine.2 := by
  rw [HasRead, lines_readLine]
  exact List.tail_suffix _

end Machine

/-- A computation does not look at what was done before, and what it leaves is related to
what it started from. -/
structure IsLocal {Cause State Result : Type} (withPast : Past → State → State)
    (related : State → State → Prop) (computation : EStateM Cause State Result) :
    Prop where
  commutes (past : Past) : Commutes (withPast past) computation
  keeps : Keeps related computation

namespace IsLocal

variable {Cause State Result Other : Type} {withPast : Past → State → State}
variable {related : State → State → Prop}

theorem get {reader : State → EStateM Cause State Result}
    (same : ∀ past state, reader (withPast past state) = reader state)
    (areLocal : ∀ state, IsLocal withPast related (reader state)) :
    IsLocal withPast related (MonadState.get >>= reader) :=
  ⟨fun past => Commutes.get (same past) fun state => (areLocal state).commutes past,
    Keeps.get fun state => (areLocal state).keeps⟩

theorem modify {change : State → State}
    (same : ∀ past state,
      change (withPast past state) = withPast past (change state))
    (holds : ∀ state, related state (change state)) :
    IsLocal withPast related (modifyThe State change : EStateM Cause State Unit) :=
  ⟨fun past => Commutes.modify (same past), Keeps.modify holds⟩

theorem ite {condition : Prop} [Decidable condition] {yes no : EStateM Cause State Result}
    (yesLocal : IsLocal withPast related yes) (noLocal : IsLocal withPast related no) :
    IsLocal withPast related (if condition then yes else no) := by
  by_cases holds : condition
  · rwa [if_pos holds]
  · rwa [if_neg holds]

variable [IsPreorder State related]

theorem pure (result : Result) :
    IsLocal withPast related (Pure.pure result : EStateM Cause State Result) :=
  ⟨fun _ => Commutes.pure result, Keeps.pure result⟩

theorem throw (cause : Cause) :
    IsLocal withPast related (MonadExcept.throw cause : EStateM Cause State Result) :=
  ⟨fun _ => Commutes.throw cause, Keeps.throw cause⟩

theorem bind {first : EStateM Cause State Result}
    {second : Result → EStateM Cause State Other}
    (firstLocal : IsLocal withPast related first)
    (secondLocal : ∀ result, IsLocal withPast related (second result)) :
    IsLocal withPast related (first >>= second) :=
  ⟨fun past => (firstLocal.commutes past).bind fun result =>
      (secondLocal result).commutes past,
    firstLocal.keeps.bind fun result => (secondLocal result).keeps⟩

end IsLocal

namespace Run

variable {Result Other : Type}

abbrev IsLocal (related : Machine → Machine → Prop) (run : Run Result) : Prop :=
  StackLanguage.IsLocal Machine.withPast related run

variable {related : Machine → Machine → Prop} [Machine.ComparesInput related]

theorem modify_isLocal {change : Machine → Machine}
    (same : ∀ past machine,
      change (machine.withPast past) = (change machine).withPast past)
    (sameInput : ∀ machine, (change machine).input = machine.input) :
    IsLocal related (modifyThe Machine change : Run Unit) :=
  .modify same fun machine => Machine.ComparesInput.of_eq (sameInput machine)

theorem isLocal_within {run : Run Other} (isLocal : IsLocal related run)
    (enter : Machine → Machine) (leave : Machine → Machine → Machine)
    (resultOf : Machine → Result) {outside : Run Result}
    (runs : ∀ machine, outside machine =
      match run (enter machine) with
      | .ok _ after => .ok (resultOf after) (leave machine after)
      | .error stop after => .error stop (leave machine after))
    (entered : ∀ past machine,
      enter (machine.withPast past) = (enter machine).withPast past)
    (left : ∀ past machine after,
      resultOf (after.withPast past) = resultOf after ∧
        leave (machine.withPast past) (after.withPast past) =
          (leave machine after).withPast past)
    (sameInput : ∀ machine after, (enter machine).input = machine.input ∧
      (leave machine after).input = after.input) : IsLocal related outside := by
  constructor
  · intro past machine
    rw [runs, runs, entered, isLocal.commutes past (enter machine)]
    cases run (enter machine) with
    | ok result after =>
        dsimp only
        rw [(left past machine after).1, (left past machine after).2]
    | error stop after =>
        dsimp only
        rw [(left past machine after).2]
  · intro machine
    have around {after : Machine} (kept : related (enter machine) after) :
        related machine (leave machine after) :=
      trans_of related (Machine.ComparesInput.of_eq (sameInput machine after).1)
        (trans_of related kept (Machine.ComparesInput.of_eq (sameInput machine after).2))
    have kept := isLocal.keeps (enter machine)
    unfold Ends at kept ⊢
    rw [runs]
    cases outcome : run (enter machine) <;> (rw [outcome] at kept; exact around kept)

theorem fail_isLocal {Result : Type} (location : Location) (cause : RuntimeError) :
    IsLocal related (fail location cause : Run Result) :=
  .throw _

theorem push_isLocal (value : Value) : IsLocal related (push value) :=
  modify_isLocal (fun _ _ => rfl) fun _ => rfl

theorem pop_isLocal (location : Location) : IsLocal related (pop location) := by
  unfold pop
  refine .get (fun _ _ => rfl) fun machine => ?_
  cases machine.stack with
  | nil => exact fail_isLocal location _
  | cons top rest =>
      exact .bind (modify_isLocal (fun _ _ => rfl) fun _ => rfl) fun _ => .pure top

theorem print_isLocal (location : Location) (value : Value) (after : String) :
    IsLocal related (print location value after) := by
  unfold print
  cases value.text? with
  | none => exact fail_isLocal location _
  | some text =>
      apply modify_isLocal
      · intro past machine
        simp [Machine.write, Machine.withPast, String.append_assoc]
      · exact fun _ => rfl

theorem rearrange_isLocal (location : Location)
    (change : List Value → Option (List Value)) :
    IsLocal related (rearrange location change) := by
  unfold rearrange
  refine .get (fun _ _ => rfl) fun machine => ?_
  cases change machine.stack with
  | none => exact fail_isLocal location _
  | some stack => exact modify_isLocal (fun _ _ => rfl) fun _ => rfl

theorem forM_isLocal {Element : Type} {step : Element → Run Unit}
    (areLocal : ∀ element, IsLocal related (step element)) (list : List Element) :
    IsLocal related (list.forM step) := by
  induction list with
  | nil => exact .pure ()
  | cons element rest induction => exact .bind (areLocal element) fun _ => induction

theorem word_isLocal (location : Location) {word : BuiltinWord}
    (reads : word = .input → ∀ machine : Machine, related machine machine.readLine.2) :
    IsLocal related (Run.word location word) := by
  cases word with
  | dup | swap | overTop | rot =>
      unfold Run.word
      apply rearrange_isLocal
  | clear => exact modify_isLocal (fun _ _ => rfl) fun _ => rfl
  | drop => exact .bind (pop_isLocal location) fun _ => .pure ()
  | print => exact .bind (pop_isLocal location) fun _ => print_isLocal location _ _
  | println => exact .bind (pop_isLocal location) fun _ => print_isLocal location _ _
  | pstack =>
      exact .get (fun _ _ => rfl) fun _ => forM_isLocal (fun _ => print_isLocal _ _ _) _
  | input => exact .bind ⟨fun _ _ => rfl, reads rfl⟩ fun _ => push_isLocal _
  | exit =>
      refine .bind (pop_isLocal location) fun value => ?_
      cases exitCode value with
      | error fault => exact .throw _
      | ok code => exact .throw _
  | okexit => exact .throw _
  | not => exact .bind (pop_isLocal location) fun _ => push_isLocal _

theorem operator_isLocal (location : Location) (symbol : String) :
    IsLocal related (operator location symbol) := by
  unfold operator
  refine .bind (pop_isLocal location) fun second =>
    .bind (pop_isLocal location) fun first => ?_
  rcases Operator.apply symbol first second with (cause | fault) | value
  · exact fail_isLocal location _
  · exact .throw _
  · exact push_isLocal value

theorem inScope_isLocal {run : Run Unit} (isLocal : IsLocal related run) :
    IsLocal related (inScope run) := by
  refine isLocal_within isLocal
    (fun machine => { machine with scopes := .empty :: machine.scopes })
    (fun _ after => { after with scopes := after.scopes.tail }) (fun _ => ())
    (fun machine => ?_) (fun _ _ => rfl) (fun _ _ _ => ⟨rfl, rfl⟩) fun _ _ => ⟨rfl, rfl⟩
  unfold inScope
  cases run { machine with scopes := .empty :: machine.scopes } <;> rfl

theorem inFrame_isLocal (frame : List Value) (scope : Scope) (inner defining : List Scope)
    {run : Run Unit} (isLocal : IsLocal related run) :
    IsLocal related (inFrame frame scope inner defining run) := by
  refine isLocal_within isLocal
    (fun machine =>
      { machine with
        stack := frame, scopes := scope :: defining,
        calls := machine.calls + 1, depth := machine.depth + 1 })
    (fun machine after =>
      { after with
        stack := machine.stack, scopes := inner ++ after.scopes.tail,
        depth := after.depth - 1 })
    (·.stack) (fun machine => ?_) (fun _ _ => rfl) (fun _ _ _ => ⟨rfl, rfl⟩)
      fun _ _ => ⟨rfl, rfl⟩
  unfold inFrame
  generalize run _ = outcome
  cases outcome <;> rfl

theorem popArguments_isLocal (location : Location) (count : Nat) :
    IsLocal related (popArguments location count) := by
  unfold popArguments
  refine .get (fun _ _ => rfl) fun machine => .ite (fail_isLocal location _) ?_
  exact .bind (modify_isLocal (fun _ _ => rfl) fun _ => rfl) fun _ => .pure _

section Bodies

variable {body : List Statement → Run Unit}
    (bodyLocal : ∀ list, IsLocal related (body list))
variable (limit : Nat)

include bodyLocal

theorem call_isLocal (location : Location) (name : String) :
    IsLocal related (call body limit location name) := by
  unfold call
  refine .get (fun _ _ => rfl) fun machine => ?_
  rcases lookupFunction? machine.scopes name with _ | ⟨function, inner, defining⟩
  · exact fail_isLocal location _
  · refine .ite (fail_isLocal location _) (.bind (popArguments_isLocal location _) ?_)
    intro arguments
    refine .bind (inFrame_isLocal _ _ _ _ (bodyLocal function.body)) fun left =>
      .ite ?_ (.pure ())
    cases left with
    | nil => exact fail_isLocal location _
    | cons top rest => exact push_isLocal top

theorem statement_isLocal {statement : Statement}
    (reads : ∀ location, statement = .word location BuiltinWord.input.name →
      ∀ machine : Machine, related machine machine.readLine.2) :
    IsLocal related (Run.statement body limit statement) := by
  cases statement with
  | push location value => exact push_isLocal value
  | word location name =>
      unfold Run.statement
      dsimp only
      cases found : BuiltinWord.ofName? name with
      | none => exact fail_isLocal location _
      | some builtin =>
          apply word_isLocal location
          intro isInput
          subst isInput
          exact reads location (BuiltinWord.name_of_ofName? found ▸ rfl)
  | operator location symbol => exact operator_isLocal location symbol
  | load location name =>
      refine .get (fun _ _ => rfl) fun machine => ?_
      cases lookupVariable? machine.scopes name with
      | none => exact fail_isLocal location _
      | some value => exact push_isLocal value
  | call location name => exact call_isLocal bodyLocal limit location name
  | bind location name type initial =>
      have change (value : Value) : IsLocal related
          (modifyThe Machine (·.changeScope (·.bind name ⟨type, value⟩)) : Run Unit) :=
        modify_isLocal (fun _ _ => rfl) fun _ => rfl
      cases initial with
      | none => exact .bind (pop_isLocal location) change
      | some value => exact .bind (.pure value) change
  | define location name parameters result statements =>
      exact modify_isLocal (fun _ _ => rfl) fun _ => rfl
  | ifThen location thenBody =>
      exact .bind (pop_isLocal location) fun _ =>
        .ite (inScope_isLocal (bodyLocal thenBody)) (.pure ())
  | ifThenElse location thenBody elseBody =>
      exact .bind (pop_isLocal location) fun _ =>
        .ite (inScope_isLocal (bodyLocal thenBody)) (inScope_isLocal (bodyLocal elseBody))
  | block location statements => exact inScope_isLocal (bodyLocal statements)
  | unknown location kind => exact fail_isLocal location _

end Bodies

theorem statements_isLocal (limit room : Nat) (list : List Statement) :
    IsLocal Machine.HasRead (statements limit room list) := by
  induction room generalizing list with
  | zero => exact fail_isLocal _ _
  | succ room induction =>
      apply forM_isLocal
      exact fun _ => statement_isLocal induction limit fun _ _ => Machine.hasRead_readLine

end Run

end StackLanguage
