import StackLanguage.Program

namespace StackLanguage

/-! The statements of a program at every depth, the identifiers that they declare and use,
and the order in which one list of statements declares identifiers and defines the
functions that use them.

A body is looked up in the scopes around the definition of its function at the time of
each call. `DeclaresInTime` says of a list that by then it has declared nothing that the
body would have found further out when the function was defined. -/

inductive NameKind where
  | value
  | function
deriving DecidableEq, Repr

structure Identifier where
  kind : NameKind
  name : String
deriving DecidableEq, Repr

def Parameter.identifiers (parameters : List Parameter) : List Identifier :=
  if areNamed parameters then
    parameters.filterMap fun parameter => parameter.name.map (⟨.value, ·⟩)
  else []

namespace Statement

def declared? : Statement → Option Identifier
  | .bind _ name _ _ => some ⟨.value, name⟩
  | .define _ name _ _ _ => some ⟨.function, name⟩
  | _ => none

def used? : Statement → Option Identifier
  | .load _ name => some ⟨.value, name⟩
  | .call _ name => some ⟨.function, name⟩
  | _ => none

def bodies : Statement → List (List Identifier × List Statement)
  | .define _ _ parameters _ body => [(Parameter.identifiers parameters, body)]
  | .ifThen _ thenBody => [([], thenBody)]
  | .ifThenElse _ thenBody elseBody => [([], thenBody), ([], elseBody)]
  | .block _ body => [([], body)]
  | _ => []

mutual

def withNested : Statement → List Statement
  | .define location name parameters result body =>
      .define location name parameters result body :: everyNested body
  | .ifThen location thenBody => .ifThen location thenBody :: everyNested thenBody
  | .ifThenElse location thenBody elseBody =>
      .ifThenElse location thenBody elseBody ::
        (everyNested thenBody ++ everyNested elseBody)
  | .block location body => .block location body :: everyNested body
  | .push location value => [.push location value]
  | .word location name => [.word location name]
  | .operator location symbol => [.operator location symbol]
  | .load location name => [.load location name]
  | .call location name => [.call location name]
  | .bind location name type initial => [.bind location name type initial]
  | .unknown location kind => [.unknown location kind]

def everyNested : List Statement → List Statement
  | [] => []
  | statement :: rest => statement.withNested ++ everyNested rest

end

theorem withNested_eq (statement : Statement) :
    statement.withNested =
      statement :: statement.bodies.flatMap fun body => everyNested body.2 := by
  cases statement <;> simp [withNested, bodies]

theorem mem_everyNested {inner : Statement} {statements : List Statement} :
    inner ∈ everyNested statements ↔ ∃ outer ∈ statements, inner ∈ outer.withNested := by
  induction statements with
  | nil => simp [everyNested]
  | cons statement rest induction => simp [everyNested, induction]

theorem mem_withNested_self (statement : Statement) :
    statement ∈ statement.withNested := by
  cases statement <;> simp [withNested]

theorem mem_everyNested_head {statement inner : Statement} {rest : List Statement}
    (member : inner ∈ statement.withNested) :
    inner ∈ everyNested (statement :: rest) := by
  simp [everyNested, member]

theorem mem_everyNested_tail {statement inner : Statement} {rest : List Statement}
    (member : inner ∈ everyNested rest) : inner ∈ everyNested (statement :: rest) := by
  simp [everyNested, member]

theorem mem_withNested_of_body {statement inner : Statement}
    {known : List Identifier} {body : List Statement}
    (isBody : (known, body) ∈ statement.bodies) (member : inner ∈ everyNested body) :
    inner ∈ statement.withNested := by
  cases statement <;> simp only [bodies, List.mem_cons, Prod.mk.injEq, List.not_mem_nil,
    or_false] at isBody
  case define => obtain ⟨_, rfl⟩ := isBody; simp [withNested, member]
  case ifThen => obtain ⟨_, rfl⟩ := isBody; simp [withNested, member]
  case ifThenElse =>
    rcases isBody with ⟨_, rfl⟩ | ⟨_, rfl⟩ <;> simp [withNested, member]
  case block => obtain ⟨_, rfl⟩ := isBody; simp [withNested, member]

def usedIn (statements : List Statement) : List Identifier :=
  (everyNested statements).filterMap used?

/-- What the definition of a function expects to find around it: what the body uses and
the parameters are not. -/
def expected : Statement → List Identifier
  | .define _ _ parameters _ body =>
      (usedIn body).filter fun identifier => identifier ∉ Parameter.identifiers parameters
  | _ => []

/-- A list that starts from the identifiers `known` declares nothing that a function
defined before in the list expects, unless the list had declared the same at or before the
definition. -/
def DeclaresInTime : (known : List Identifier) → List Statement → Prop
  | _, [] => True
  | known, statement :: rest =>
      (∀ identifier ∈ statement.expected, identifier ∈ rest.filterMap declared? →
        identifier ∈ statement.declared?.toList ++ known) ∧
      DeclaresInTime (statement.declared?.toList ++ known) rest

instance decidableDeclaresInTime :
    (known : List Identifier) → (statements : List Statement) →
    Decidable (DeclaresInTime known statements)
  | _, [] => .isTrue trivial
  | known, statement :: rest =>
      have := decidableDeclaresInTime (statement.declared?.toList ++ known) rest
      inferInstanceAs (Decidable (_ ∧ _))

/-- Every list inside the statements, at any depth, declares in time. -/
def NestedInTime (statements : List Statement) : Prop :=
  ∀ statement ∈ everyNested statements, ∀ body ∈ statement.bodies,
    DeclaresInTime body.1 body.2

instance (statements : List Statement) : Decidable (NestedInTime statements) :=
  inferInstanceAs
    (Decidable (∀ statement ∈ everyNested statements, ∀ body ∈ statement.bodies,
      DeclaresInTime body.1 body.2))

namespace NestedInTime

theorem tail {statement : Statement} {rest : List Statement}
    (inTime : NestedInTime (statement :: rest)) : NestedInTime rest :=
  fun inner member => inTime inner (mem_everyNested_tail member)

theorem body {statement : Statement} {rest : List Statement} {known : List Identifier}
    {body : List Statement} (inTime : NestedInTime (statement :: rest))
    (isBody : (known, body) ∈ statement.bodies) : NestedInTime body :=
  fun inner member =>
    inTime inner (mem_everyNested_head (mem_withNested_of_body isBody member))

theorem declaresInTime {statement : Statement} {rest : List Statement}
    {known : List Identifier} {body : List Statement}
    (inTime : NestedInTime (statement :: rest))
    (isBody : (known, body) ∈ statement.bodies) : DeclaresInTime known body :=
  inTime statement (mem_everyNested_head statement.mem_withNested_self)
    (known, body) isBody

end NestedInTime

end Statement

end StackLanguage
