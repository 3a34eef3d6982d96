import StackLanguage.Proofs.Evaluation.Bodies
import StackLanguage.Proofs.Evaluation.Surroundings

namespace StackLanguage

/-! Every line that a run takes from the input is what one `input` word of the run has
read. -/

theorem not_suffix_of_cons {lines others : List (List Char)} {line : List Char}
    (isPart : line :: others <:+ lines) : ¬ lines <:+ others := by
  intro isAll
  have shorter := isPart.length_le
  have longer := isAll.length_le
  rw [List.length_cons] at shorter
  omega

theorem suffix_or_of_cons {lines left others : List (List Char)} {line : List Char}
    (isPart : line :: others <:+ lines) (isLeft : left <:+ lines) :
    line :: others <:+ left ∨ left <:+ others := by
  rcases List.suffix_or_suffix_of_suffix isPart isLeft with isLater | isNow
  · exact .inl isLater
  · rcases List.suffix_cons_iff.mp isNow with same | isNow
    · exact .inl (same ▸ List.suffix_refl _)
    · exact .inr isNow

namespace Run

def inputAfter (run : Run Unit) (machine : Machine) : List Char :=
  match run machine with
  | .ok _ left => left.input
  | .error _ left => left.input

theorem inputAfter_of_ends {run : Run Unit} {machine : Machine} {holds : List Char → Prop}
    (ends : Ends run machine (fun _ left => holds left.input)
      fun _ left => holds left.input) : holds (inputAfter run machine) := by
  unfold Ends at ends
  unfold inputAfter
  cases outcome : run machine <;> (rw [outcome] at ends; exact ends)

theorem linesOf_inputAfter {run : Run Unit} (isLocal : IsLocal Machine.HasRead run)
    (machine : Machine) : linesOf (inputAfter run machine) <:+ linesOf machine.input :=
  @inputAfter_of_ends run machine (linesOf · <:+ linesOf machine.input)
    (isLocal.keeps machine)

theorem inputAfter_inScope (run : Run Unit) (machine : Machine) :
    (inScope run).inputAfter machine = run.inputAfter (machine.inner machine.stack) := by
  unfold inputAfter
  rw [inScope_eq]
  cases run (machine.inner machine.stack) <;> rfl

section

variable {body : List Statement → Run Unit} {limit : Nat}

theorem inputAfter_call {location : Location} {name : String} {machine : Machine}
    {function : Function} {inner defining : List Scope}
    (found : lookupFunction? machine.scopes name = some (function, inner, defining))
    (allowed : machine.depth < limit)
    (supplied : function.parameters.length ≤ machine.stack.length) :
    (Run.call body limit location name).inputAfter machine =
      (body function.body).inputAfter (machine.enter function defining) := by
  unfold inputAfter
  rw [call_eq found allowed supplied]
  cases body function.body (machine.enter function defining) with
  | error stop left => rfl
  | ok _ left =>
      rcases left with ⟨stack, _, _, _, _, _⟩
      cases function.result <;> cases stack <;> rfl

theorem inputAfter_enters (body : List Statement → Run Unit) {statement : Statement}
    {machine bodyMachine : Machine} {list : List Statement}
    (enters : Enters limit statement machine list bodyMachine) :
    bodyMachine.input = machine.input ∧
      (Run.statement body limit statement).inputAfter machine =
        (body list).inputAfter bodyMachine := by
  cases enters with
  | call found allowed supplied => exact ⟨rfl, inputAfter_call found allowed supplied⟩
  | onlyBranch popped holds =>
      refine ⟨rfl, ?_⟩
      rw [inputAfter, ifThen_true popped holds]
      exact inputAfter_inScope _ _
  | thenBranch popped holds =>
      refine ⟨rfl, ?_⟩
      rw [inputAfter, ifThenElse_true popped holds]
      exact inputAfter_inScope _ _
  | elseBranch popped fails =>
      refine ⟨rfl, ?_⟩
      rw [inputAfter, ifThenElse_false popped fails]
      exact inputAfter_inScope _ _
  | block => exact ⟨rfl, inputAfter_inScope _ _⟩

theorem inputAfter_of_not_enters {statement : Statement} {machine : Machine}
    (none : ∀ list bodyMachine, ¬Enters limit statement machine list bodyMachine) :
    (Run.statement body limit statement).inputAfter machine = machine.input ∨
      ∃ location, statement = .word location BuiltinWord.input.name := by
  by_cases isInput : ∃ location, statement = .word location BuiltinWord.input.name
  · exact .inr isInput
  · left
    have same : Run.statement body limit statement machine =
        Run.statement (fun _ => pure ()) limit statement machine :=
      statement_congr fun list bodyMachine enters => (none list bodyMachine enters).elim
    have isLocal :
        IsLocal Machine.HasNotRead (Run.statement (fun _ => pure ()) limit statement) :=
      statement_isLocal (fun _ => .pure ()) limit fun location isWord =>
        (isInput ⟨location, isWord⟩).elim
    rw [inputAfter, same]
    exact @inputAfter_of_ends _ machine (· = machine.input) (isLocal.keeps machine)

end

theorem linesOf_inputAfter_input (body : List Statement → Run Unit) (limit : Nat)
    (location : Location) (machine : Machine) :
    linesOf ((Run.statement body limit (.word location BuiltinWord.input.name)).inputAfter
      machine) = (linesOf machine.input).tail :=
  machine.lines_readLine

section

variable {limit room : Nat} {statement : Statement} {rest list : List Statement}
variable {machine now : Machine} {location : Location}

theorem statement_hasRead : IsLocal Machine.HasRead
    (Run.statement (statements limit room) limit statement) :=
  statement_isLocal (statements_isLocal limit room) limit fun _ _ =>
    Machine.hasRead_readLine

theorem inputAfter_ok {run : Run Unit} {left : Machine}
    (ended : run machine = .ok () left) : run.inputAfter machine = left.input := by
  rw [inputAfter, ended]

theorem inputAfter_error {run : Run Unit} {stop : Stop} {left : Machine}
    (stopped : run machine = .error stop left) : run.inputAfter machine = left.input := by
  rw [inputAfter, stopped]

theorem inputAfter_cons_ok {between : Machine}
    (ran : Run.statement (statements limit room) limit statement machine =
      .ok () between) :
    (statements limit (room + 1) (statement :: rest)).inputAfter machine =
      (statements limit (room + 1) rest).inputAfter between := by
  rw [inputAfter, statements_cons, ran]
  rfl

theorem inputAfter_cons_error {stop : Stop} {left : Machine}
    (stopped : Run.statement (statements limit room) limit statement machine =
      .error stop left) :
    (statements limit (room + 1) (statement :: rest)).inputAfter machine =
      left.input := by
  rw [inputAfter, statements_cons, stopped]

theorem inputAfter_cons_suffix (rest : List Statement) :
    linesOf ((statements limit (room + 1) (statement :: rest)).inputAfter machine) <:+
      linesOf
        ((Run.statement (statements limit room) limit statement).inputAfter machine) := by
  cases ran : Run.statement (statements limit room) limit statement machine with
  | ok _ between =>
      rw [inputAfter_cons_ok ran, inputAfter_ok ran]
      exact linesOf_inputAfter (statements_isLocal limit (room + 1) rest) between
  | error stop left =>
      exact (inputAfter_error ran).symm ▸ inputAfter_cons_error ran ▸ List.suffix_refl _

/-! ## The line of a moment -/

theorem Moment.hasRead {current : Statement}
    (moment : Moment limit room list machine current now) : machine.HasRead now := by
  induction moment with
  | here => exact List.suffix_refl _
  | inside enters moment induction =>
      rw [Machine.HasRead, (inputAfter_enters (statements limit 0) enters).1] at induction
      exact induction
  | @later room statement _ machine _ _ _ ran moment induction =>
      have isLeft :
          linesOf ((Run.statement (statements limit room) limit statement).inputAfter
            machine) <:+ linesOf machine.input :=
            linesOf_inputAfter statement_hasRead machine
      rw [inputAfter_ok ran] at isLeft
      exact List.IsSuffix.trans induction isLeft

theorem Moment.inputAfter (moment : Moment limit room list machine
      (.word location BuiltinWord.input.name) now) :
    linesOf (Run.inputAfter (statements limit room list) machine) <:+
      (linesOf now.input).tail := by
  generalize isInput : Statement.word location BuiltinWord.input.name = current at moment
  induction moment with
  | @here room _ rest machine =>
      subst isInput
      rw [← linesOf_inputAfter_input (statements limit room) limit location]
      exact inputAfter_cons_suffix rest
  | @inside _ _ rest _ _ _ _ _ enters moment induction =>
      refine (inputAfter_cons_suffix rest).trans ?_
      rw [(inputAfter_enters _ enters).2]
      exact induction isInput
  | later ran moment induction =>
      rw [inputAfter_cons_ok ran]
      exact induction isInput

end

section

variable {limit room : Nat} {line : List Char} {others : List (List Char)}

/-- While the statements are run, an `input` word is carried out that reads the line. -/
structure ReadsLine (limit room : Nat) (list : List Statement) (machine : Machine)
    (line : List Char) (others : List (List Char)) (location : Location) (now : Machine) :
    Prop where
  moment : Moment limit room list machine (.word location BuiltinWord.input.name) now
  isNext : linesOf now.input = line :: others

theorem exists_readsLine_of_statement {statement : Statement} {machine : Machine}
    (inBodies : ∀ list bodyMachine, line :: others <:+ linesOf bodyMachine.input →
      linesOf ((statements limit room list).inputAfter bodyMachine) <:+ others →
      ∃ location now, ReadsLine limit room list bodyMachine line others location now)
    (toRead : line :: others <:+ linesOf machine.input)
    (isRead : linesOf ((Run.statement (statements limit room) limit statement).inputAfter
      machine) <:+ others) (rest : List Statement) :
    ∃ location now,
      ReadsLine limit (room + 1) (statement :: rest) machine line others location
        now := by
  rcases Enters.exists_or_none limit statement machine with
    ⟨list, bodyMachine, enters⟩ | none
  · rcases inputAfter_enters _ enters with ⟨sameInput, same⟩
    rw [← sameInput] at toRead
    rw [same] at isRead
    rcases inBodies list bodyMachine toRead isRead with ⟨location, now, moment, isNext⟩
    exact ⟨location, now, .inside enters moment, isNext⟩
  · rcases inputAfter_of_not_enters none with unread | ⟨location, rfl⟩
    · rw [unread] at isRead
      exact (not_suffix_of_cons toRead isRead).elim
    · refine ⟨location, machine, .here, (toRead.eq_of_length_le ?_).symm⟩
      rw [linesOf_inputAfter_input] at isRead
      have atMost := isRead.length_le
      rw [List.length_tail] at atMost
      rw [List.length_cons]
      omega

/-- A line that a run takes from the input is read by an `input` word. -/
theorem exists_readsLine (list : List Statement) (machine : Machine)
    (toRead : line :: others <:+ linesOf machine.input)
    (isRead : linesOf ((statements limit room list).inputAfter machine) <:+ others) :
    ∃ location now, ReadsLine limit room list machine line others location now := by
  induction room generalizing list machine with
  | zero => exact (not_suffix_of_cons toRead isRead).elim
  | succ room inBodies =>
      induction list generalizing machine with
      | nil => exact (not_suffix_of_cons toRead isRead).elim
      | cons statement rest inRest =>
          rcases suffix_or_of_cons toRead
            (linesOf_inputAfter statement_hasRead machine) with
            later | now
          · cases ran : Run.statement (statements limit room) limit statement machine with
            | ok _ between =>
                rw [inputAfter_ok ran] at later
                rw [inputAfter_cons_ok ran] at isRead
                rcases inRest between later isRead with ⟨location, now, moment, isNext⟩
                exact ⟨location, now, .later ran moment, isNext⟩
            | error stop left =>
                rw [inputAfter_error ran] at later
                rw [inputAfter_cons_error ran] at isRead
                exact (not_suffix_of_cons later isRead).elim
          · exact exists_readsLine_of_statement inBodies toRead now rest

theorem ReadsLine.not_again {list : List Statement} {machine left now : Machine}
    {run : Run Unit} {location : Location}
    (isRead : linesOf (run.inputAfter machine) <:+ others)
    (ran : run machine = .ok () left) :
    ¬ ReadsLine limit room list left line others location now := by
  intro again
  rw [inputAfter_ok ran] at isRead
  have unread := again.moment.hasRead
  rw [Machine.HasRead, again.isNext] at unread
  exact not_suffix_of_cons unread isRead

theorem ReadsLine.unique {list : List Statement} {machine now now' : Machine}
    {location location' : Location}
    (first : ReadsLine limit room list machine line others location now)
    (second : ReadsLine limit room list machine line others location' now') :
    location' = location ∧ now' = now := by
  rcases first with ⟨moment, isNext⟩
  rcases second with ⟨moment', isNext'⟩
  have tail : (linesOf now.input).tail <:+ others := isNext ▸ List.suffix_refl _
  have tail' : (linesOf now'.input).tail <:+ others := isNext' ▸ List.suffix_refl _
  generalize isInput : Statement.word location BuiltinWord.input.name = current at moment
  induction moment with
  | here =>
      subst isInput
      cases moment' with
      | here => exact ⟨rfl, rfl⟩
      | inside enters => cases enters
      | later ran moment' =>
          rw [← linesOf_inputAfter_input] at tail
          exact (not_again tail ran ⟨moment', isNext'⟩).elim
  | inside enters moment induction =>
      subst isInput
      cases moment' with
      | here => cases enters
      | inside enters' moment' =>
          rcases enters.unique enters' with ⟨rfl, rfl⟩
          exact induction isNext moment' tail rfl
      | later ran moment' =>
          have isRead := moment.inputAfter.trans tail
          rw [← (inputAfter_enters _ enters).2] at isRead
          exact (not_again isRead ran ⟨moment', isNext'⟩).elim
  | later ran moment induction =>
      subst isInput
      cases moment' with
      | here =>
          rw [← linesOf_inputAfter_input] at tail'
          exact (not_again tail' ran ⟨moment, isNext⟩).elim
      | inside enters' moment' =>
          have isRead := moment'.inputAfter.trans tail'
          rw [← (inputAfter_enters _ enters').2] at isRead
          exact (not_again isRead ran ⟨moment, isNext⟩).elim
      | later ran' moment' =>
          cases ran.symm.trans ran'
          exact induction isNext moment' tail rfl

end

end Run

end StackLanguage
