import StackLanguage.Proofs.Evaluation.Effects

namespace StackLanguage

/-! Runs come to an end, although functions may call themselves and each other. Some room
is enough for every run: what a statement goes into in place is smaller than the
statement, and a call leaves one call less to the limit. Once there is enough room, more
of it changes nothing. -/

def Statement.parts : Statement → List (List Statement)
  | .ifThen _ thenBody => [thenBody]
  | .ifThenElse _ thenBody elseBody => [thenBody, elseBody]
  | .block _ body => [body]
  | _ => []

theorem Statement.sizeOf_lt_of_mem_parts {statement : Statement} {list : List Statement}
    (isPart : list ∈ statement.parts) : sizeOf list < sizeOf statement := by
  cases statement <;>
    simp only [parts, List.mem_cons, List.not_mem_nil, or_false] at isPart
  case ifThen => subst isPart; rw [ifThen.sizeOf_spec]; omega
  case ifThenElse => rw [ifThenElse.sizeOf_spec]; rcases isPart with rfl | rfl <;> omega
  case block => subst isPart; rw [block.sizeOf_spec]; omega

theorem Statement.exists_body_of_mem_parts {statement : Statement} {list : List Statement}
    (isPart : list ∈ statement.parts) : ([], list) ∈ statement.bodies := by
  cases statement <;> simp_all [parts, bodies]

namespace Run

variable {limit : Nat} {statement : Statement} {machine bodyMachine : Machine}
variable {list : List Statement}

theorem Enters.call_or_part (enters : Enters limit statement machine list bodyMachine) :
    (∃ location name function inner defining, statement = .call location name ∧
      lookupFunction? machine.scopes name = some (function, inner, defining) ∧
      machine.depth < limit ∧ list = function.body ∧
      bodyMachine = machine.enter function defining) ∨
    list ∈ statement.parts ∧ ∃ stack, bodyMachine = machine.inner stack := by
  cases enters with
  | call found allowed => exact .inl ⟨_, _, _, _, _, rfl, found, allowed, rfl, rfl⟩
  | onlyBranch => exact .inr ⟨.head _, _, rfl⟩
  | thenBranch => exact .inr ⟨.head _, _, rfl⟩
  | elseBranch => exact .inr ⟨.tail _ (.head _), _, rfl⟩
  | block => exact .inr ⟨.head _, _, rfl⟩

/-! ## What a run of statements leaves -/

theorem after_of_ends {run : Run Unit} {holds : Machine → Prop}
    (ends : Ends run machine (fun _ left => holds left) fun _ left => holds left) :
    holds (run.after machine) := by
  unfold Ends at ends
  unfold after
  cases outcome : run machine <;> (rw [outcome] at ends; exact ends)

/-- A relation between the machines before and after a run of statements: it holds of a
statement that goes into no body, is carried out of the body that a statement goes into,
and adds up over the statements of a list. -/
theorem after_induction (relates : List Statement → Machine → Machine → Prop)
    (nothing : ∀ list machine, relates list machine machine)
    (apart : ∀ statement machine left, IsApart statement machine left →
      relates [statement] machine left)
    (back : ∀ statement machine list bodyMachine inside left,
      Enters limit statement machine list bodyMachine → relates list bodyMachine inside →
      IsBack machine bodyMachine inside left → relates [statement] machine left)
    (early : ∀ statement rest machine left, relates [statement] machine left →
      relates (statement :: rest) machine left)
    (later : ∀ statement rest machine between left, relates [statement] machine between →
      relates rest between left → relates (statement :: rest) machine left)
    (room : Nat) (list : List Statement) (machine : Machine) :
    relates list machine ((statements limit room list).after machine) := by
  induction room generalizing list machine with
  | zero => exact nothing list machine
  | succ room inBodies =>
      induction list generalizing machine with
      | nil => exact nothing [] machine
      | cons statement rest inRest =>
          have first : relates [statement] machine
              ((Run.statement (statements limit room) limit statement).after
                machine) := by
            rcases Enters.exists_or_none limit statement machine with
              ⟨list, bodyMachine, enters⟩ | none
            · exact back _ _ _ _ _ _ enters (inBodies list bodyMachine)
                (statement_isBack _ enters)
            · apply apart
              exact after_of_ends ((statement_ends_of_not_enters _ none).mono
                (fun _ _ ended => ended.1) fun _ _ stopped => .of_idles stopped.2)
          unfold after at first ⊢
          rw [statements_cons]
          cases outcome :
            Run.statement (statements limit room) limit statement machine with
          | ok _ between =>
              rw [outcome] at first
              exact later _ _ _ _ _ first (inRest between)
          | error stop left =>
              rw [outcome] at first
              exact early _ _ _ _ first

theorem after_depth (limit room : Nat) (list : List Statement) (machine : Machine) :
    ((statements limit room list).after machine).depth = machine.depth := by
  apply after_induction fun _ machine left => left.depth = machine.depth
  case nothing => exact fun _ _ => rfl
  case apart => exact fun _ _ _ isApart => isApart.depth
  case back => exact fun _ _ _ _ _ _ _ same isBack => isBack.depth same
  case early => exact fun _ _ _ _ same => same
  case later => exact fun _ _ _ _ _ same again => again.trans same

theorem after_singleton {room : Nat} {between : Machine}
    (ran : Run.statement (statements limit room) limit statement machine =
      .ok () between) :
    (statements limit (room + 1) [statement]).after machine = between := by
  rw [after, statements_cons, ran]
  rfl

theorem statement_depth {room : Nat} {between : Machine}
    (ran : Run.statement (statements limit room) limit statement machine =
      .ok () between) : between.depth = machine.depth :=
  after_singleton ran ▸ after_depth limit (room + 1) [statement] machine

/-! ## Enough room -/

theorem statement_exhausts_iff_exists {body : List Statement → Run Unit} :
    Exhausts (Run.statement body limit statement) machine ↔
      ∃ list bodyMachine, Enters limit statement machine list bodyMachine ∧
        Exhausts (body list) bodyMachine := by
  constructor
  · intro exhausts
    rcases Enters.exists_or_none limit statement machine with
      ⟨list, bodyMachine, enters⟩ | none
    · exact ⟨list, bodyMachine, enters, (statement_exhausts_iff enters).mp exhausts⟩
    · rcases exhausts with ⟨left, stopped⟩
      exact absurd rfl ((statement_ends_of_not_enters body none).outcomes.2 _ _ stopped).1
  · rintro ⟨list, bodyMachine, enters, exhausts⟩
    exact (statement_exhausts_iff enters).mpr exhausts

theorem statement_of_not_exhausts {first second : List Statement → Run Unit}
    (enough : ¬ Exhausts (Run.statement first limit statement) machine)
    (same : ∀ list bodyMachine, ¬ Exhausts (first list) bodyMachine →
      second list bodyMachine = first list bodyMachine) :
    Run.statement second limit statement machine =
      Run.statement first limit statement machine :=
  statement_congr fun list bodyMachine enters =>
    same list bodyMachine fun exhausts =>
      enough ((statement_exhausts_iff enters).mpr exhausts)

theorem exhausts_of_statement {room : Nat} {rest : List Statement}
    (exhausts :
      Exhausts (Run.statement (statements limit room) limit statement) machine) :
    Exhausts (statements limit (room + 1) (statement :: rest)) machine := by
  rcases exhausts with ⟨left, stopped⟩
  exact ⟨left, by rw [statements_cons, stopped]⟩

theorem statements_of_le {room more : Nat} (le : room ≤ more)
    (enough : ¬ Exhausts (statements limit room list) machine) :
    statements limit more list machine = statements limit room list machine := by
  induction room generalizing more list machine with
  | zero => exact absurd ⟨machine, rfl⟩ enough
  | succ room inBodies =>
      rcases Nat.exists_eq_add_of_lt le with ⟨extra, rfl⟩
      induction list generalizing machine with
      | nil => rfl
      | cons statement rest inRest =>
          have first := statement_of_not_exhausts
            (fun exhausts => enough (exhausts_of_statement exhausts))
            fun list bodyMachine enough => inBodies (Nat.le_add_right room extra) enough
          rw [statements_cons, statements_cons, first]
          cases outcome :
            Run.statement (statements limit room) limit statement machine with
          | error stop left => rfl
          | ok _ between =>
              apply inRest
              intro exhausts
              apply enough
              unfold Exhausts
              rw [statements_cons, outcome]
              exact exhausts

theorem not_exhausts_cons {room : Nat} {rest : List Statement}
    (enough : ¬ Exhausts (Run.statement (statements limit room) limit statement) machine)
    (enoughAfter : ∀ between,
      Run.statement (statements limit room) limit statement machine = .ok () between →
      ∃ roomAfter, ¬ Exhausts (statements limit roomAfter rest) between) :
    ∃ room, ¬ Exhausts (statements limit room (statement :: rest)) machine := by
  cases outcome : Run.statement (statements limit room) limit statement machine with
  | error stop left =>
      refine ⟨room + 1, fun exhausts => enough ?_⟩
      unfold Exhausts at exhausts ⊢
      rw [statements_cons, outcome] at exhausts
      rwa [outcome]
  | ok _ between =>
      rcases enoughAfter between outcome with ⟨roomAfter, enoughAfter⟩
      have same := statement_of_not_exhausts enough fun list bodyMachine enough =>
        statements_of_le (Nat.le_max_left room roomAfter) enough
      refine ⟨max room roomAfter + 1, ?_⟩
      unfold Exhausts
      rw [statements_cons, same, outcome]
      dsimp only
      rw [statements_of_le (by omega) enoughAfter]
      exact enoughAfter

/-- Some room is enough: the calls that may still be made grow fewer, or else the
statements. -/
theorem exists_room (limit remaining : Nat) (list : List Statement) (machine : Machine)
    (within : limit ≤ machine.depth + remaining) :
    ∃ room, ¬ Exhausts (statements limit room list) machine := by
  cases list with
  | nil =>
      refine ⟨1, ?_⟩
      rintro ⟨_, stopped⟩
      cases stopped
  | cons statement rest =>
      have first : ∃ room,
          ¬ Exhausts (Run.statement (statements limit room) limit statement) machine := by
        rcases Enters.exists_or_none limit statement machine with
          ⟨list, bodyMachine, enters⟩ | none
        · have inBody : ∃ room, ¬ Exhausts (statements limit room list) bodyMachine := by
            rcases enters.call_or_part with
              ⟨_, _, function, _, defining, _, _, allowed, rfl, rfl⟩ |
                ⟨isPart, stack, rfl⟩
            · refine exists_room limit (remaining - 1) function.body _ ?_
              change limit ≤ machine.depth + 1 + (remaining - 1)
              omega
            · exact exists_room limit remaining list _ within
          rcases inBody with ⟨room, enough⟩
          exact ⟨room,
            fun exhausts => enough ((statement_exhausts_iff enters).mp exhausts)⟩
        · refine ⟨0, fun exhausts => ?_⟩
          rcases statement_exhausts_iff_exists.mp exhausts with
            ⟨list, bodyMachine, enters, _⟩
          exact none list bodyMachine enters
      rcases first with ⟨room, enough⟩
      refine not_exhausts_cons enough fun between ended => ?_
      have depth := statement_depth ended
      exact exists_room limit remaining rest between (by omega)
termination_by (remaining, sizeOf list)
decreasing_by
  · exact .left _ _ (by omega)
  · have smaller := Statement.sizeOf_lt_of_mem_parts isPart
    exact .right _ (by rw [List.cons.sizeOf_spec]; omega)
  · exact .right _ (by rw [List.cons.sizeOf_spec]; omega)

end Run

end StackLanguage
