import StackLanguage.Proofs.Ends

namespace StackLanguage

/-! Two computations side by side: from alike states they come to alike ends, one where
the other does. The states may be of two types, and for some causes of stopping nothing is
asked. -/

variable {Cause State Other : Type}

/-- What is alike in two computations that go side by side. -/
structure Likeness (Cause State Other : Type) where
  states : State → Other → Prop
  causes : Cause → Cause → Prop
  /-- When the first computation stops for such a cause, the second one may do
  anything. -/
  excused : Cause → Prop

namespace Likeness

variable (likeness : Likeness Cause State Other) {Result OtherResult : Type}

def Outcomes (results : Result → OtherResult → Prop) :
    EStateM.Result Cause State Result → EStateM.Result Cause Other OtherResult → Prop
  | .ok result after, .ok otherResult otherAfter =>
      results result otherResult ∧ likeness.states after otherAfter
  | .error cause after, .error otherCause otherAfter =>
      likeness.excused cause ∨
        likeness.causes cause otherCause ∧ likeness.states after otherAfter
  | .error cause _, .ok _ _ => likeness.excused cause
  | .ok _ _, .error _ _ => False

def Alongside (results : Result → OtherResult → Prop) (first : EStateM Cause State Result)
    (second : EStateM Cause Other OtherResult) : Prop :=
  ∀ state other, likeness.states state other →
    likeness.Outcomes results (first state) (second other)

variable {likeness} {results : Result → OtherResult → Prop}

theorem Outcomes.of_excused {cause : Cause} {after : State}
    (outcome : EStateM.Result Cause Other OtherResult)
    (excused : likeness.excused cause) :
    likeness.Outcomes results (.error cause after) outcome := by
  cases outcome with
  | ok => exact excused
  | error => exact .inl excused

theorem Outcomes.mono {outcome : EStateM.Result Cause State Result}
    {other : EStateM.Result Cause Other OtherResult} {holds : State → Other → Prop}
    (alike : likeness.Outcomes results outcome other)
    (implies : ∀ after otherAfter,
      likeness.states after otherAfter → holds after otherAfter) :
    { likeness with states := holds }.Outcomes results outcome other := by
  cases outcome <;> cases other
  · exact alike.imp_right (implies _ _)
  · exact alike
  · exact alike
  · exact alike.imp_right (·.imp_right (implies _ _))

theorem Outcomes.through_iff {outcome : EStateM.Result Cause State Unit}
    {other : EStateM.Result Cause Other Unit} {unitResults : Unit → Unit → Prop}
    (alike : likeness.Outcomes unitResults outcome other)
    (nothing : ∀ cause, ¬ likeness.excused cause) :
    (∃ after, outcome = .ok () after) ↔ ∃ after, other = .ok () after := by
  cases outcome <;> cases other
  · exact iff_of_true ⟨_, rfl⟩ ⟨_, rfl⟩
  · exact alike.elim
  · exact absurd alike (nothing _)
  · exact iff_of_false (fun ⟨_, same⟩ => nomatch same) fun ⟨_, same⟩ => nomatch same

theorem Outcomes.and_ends {first : EStateM Cause State Result}
    {second : EStateM Cause Other OtherResult} {state : State} {other : Other}
    {holds : State → Prop} {otherHolds : Other → Prop}
    (alike : likeness.Outcomes results (first state) (second other))
    (ends : Ends first state (fun _ after => holds after) fun _ after => holds after)
    (otherEnds :
      Ends second other (fun _ after => otherHolds after)
        fun _ after => otherHolds after) :
    { likeness with states := fun after otherAfter =>
        likeness.states after otherAfter ∧ holds after ∧
          otherHolds otherAfter }.Outcomes results (first state) (second other) := by
  unfold Ends at ends otherEnds
  cases outcome : first state <;> cases otherOutcome : second other <;>
    rw [outcome, otherOutcome] at alike <;> rw [outcome] at ends <;>
    rw [otherOutcome] at otherEnds
  · exact ⟨alike.1, alike.2, ends, otherEnds⟩
  · exact alike.elim
  · exact alike
  · exact alike.imp_right fun both => ⟨both.1, both.2, ends, otherEnds⟩

namespace Alongside

theorem pure {result : Result} {otherResult : OtherResult}
    (alike : results result otherResult) :
    likeness.Alongside results (Pure.pure result) (Pure.pure otherResult) :=
  fun _ _ states => ⟨alike, states⟩

theorem throw {cause otherCause : Cause} (alike : likeness.causes cause otherCause) :
    likeness.Alongside results (MonadExcept.throw cause) (MonadExcept.throw otherCause) :=
  fun _ _ states => .inr ⟨alike, states⟩

theorem bind {NextResult OtherNextResult : Type}
    {nextResults : NextResult → OtherNextResult → Prop}
    {first : EStateM Cause State Result} {otherFirst : EStateM Cause Other OtherResult}
    {second : Result → EStateM Cause State NextResult}
    {otherSecond : OtherResult → EStateM Cause Other OtherNextResult}
    (firstAlongside : likeness.Alongside results first otherFirst)
    (secondAlongside : ∀ result otherResult, results result otherResult →
      likeness.Alongside nextResults (second result) (otherSecond otherResult)) :
    likeness.Alongside nextResults (first >>= second) (otherFirst >>= otherSecond) := by
  intro state other states
  have firstAlike := firstAlongside state other states
  change likeness.Outcomes nextResults (EStateM.bind first second state)
    (EStateM.bind otherFirst otherSecond other)
  unfold EStateM.bind
  cases outcome : first state <;> cases otherOutcome : otherFirst other <;>
    rw [outcome, otherOutcome] at firstAlike
  · exact secondAlongside _ _ firstAlike.1 _ _ firstAlike.2
  · exact firstAlike.elim
  · exact .of_excused _ firstAlike
  · exact firstAlike

theorem get {reader : State → EStateM Cause State Result}
    {otherReader : Other → EStateM Cause Other OtherResult}
    (alongside : ∀ state other, likeness.states state other →
      likeness.Outcomes results (reader state state) (otherReader other other)) :
    likeness.Alongside results (MonadState.get >>= reader)
      (MonadState.get >>= otherReader) :=
  alongside

theorem modify {change : State → State} {otherChange : Other → Other}
    {unitResults : Unit → Unit → Prop} (holds : unitResults () ())
    (alike : ∀ state other, likeness.states state other →
      likeness.states (change state) (otherChange other)) :
    likeness.Alongside unitResults (modifyThe State change)
      (modifyThe Other otherChange) :=
  fun state other states => ⟨holds, alike state other states⟩

theorem ite {condition otherCondition : Prop} [Decidable condition]
    [Decidable otherCondition] {yes no : EStateM Cause State Result}
    {otherYes otherNo : EStateM Cause Other OtherResult}
    (same : condition ↔ otherCondition)
    (yesAlongside : likeness.Alongside results yes otherYes)
    (noAlongside : likeness.Alongside results no otherNo) :
    likeness.Alongside results (if condition then yes else no)
      (if otherCondition then otherYes else otherNo) := by
  by_cases holds : condition
  · rwa [if_pos holds, if_pos (same.mp holds)]
  · rwa [if_neg holds, if_neg fun other => holds (same.mpr other)]

end Alongside

end Likeness

theorem Commutes.alongside {Result : Type} {change : State → State}
    {computation : EStateM Cause State Result} (commutes : Commutes change computation)
    (excused : Cause → Prop) :
    (Likeness.mk (fun state other => other = change state) Eq excused).Alongside Eq
      computation computation := by
  rintro state _ rfl
  rw [commutes state]
  cases computation state with
  | ok result after => exact ⟨rfl, rfl⟩
  | error cause after => exact .inr ⟨rfl, rfl⟩

end StackLanguage
