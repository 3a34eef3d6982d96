import Mathlib.Order.Defs.Unbundled

namespace StackLanguage

/-! How a computation that keeps its state when it stops early comes to an end. Runs work
on a machine in this way, steps of a session on the session. -/

variable {Cause State Result : Type}

/-- What holds when a computation ends and what holds when it stops early. -/
def Ends (computation : EStateM Cause State Result) (state : State)
    (atEnd : Result → State → Prop) (atStop : Cause → State → Prop) : Prop :=
  match computation state with
  | .ok result after => atEnd result after
  | .error cause after => atStop cause after

namespace Ends

variable {state : State} {atStop : Cause → State → Prop}

theorem bind {Other : Type} {first : EStateM Cause State Result}
    {second : Result → EStateM Cause State Other} {atEnd : Other → State → Prop}
    (ends : Ends first state (fun result after => Ends (second result) after atEnd atStop)
      atStop) :
    Ends (first >>= second) state atEnd atStop := by
  change match EStateM.bind first second state with
    | .ok result after => atEnd result after
    | .error cause after => atStop cause after
  unfold Ends at ends
  unfold EStateM.bind
  cases outcome : first state <;> rw [outcome] at ends <;> exact ends

theorem get {atEnd : State → State → Prop} (holds : atEnd state state) :
    Ends (getThe State : EStateM Cause State State) state atEnd atStop :=
  holds

theorem modify {change : State → State} {atEnd : Unit → State → Prop}
    (holds : atEnd () (change state)) :
    Ends (modifyThe State change : EStateM Cause State Unit) state atEnd atStop :=
  holds

theorem of_eq {computation other : EStateM Cause State Result} {start : State}
    {atEnd : Result → State → Prop} (ends : Ends other start atEnd atStop)
    (same : computation state = other start) : Ends computation state atEnd atStop := by
  unfold Ends at ends ⊢
  rw [same]
  exact ends

theorem mono {computation : EStateM Cause State Result}
    {atEnd atEnd' : Result → State → Prop} {atStop' : Cause → State → Prop}
    (ends : Ends computation state atEnd atStop)
    (endImplies : ∀ result after, atEnd result after → atEnd' result after)
    (stopImplies : ∀ cause after, atStop cause after → atStop' cause after) :
    Ends computation state atEnd' atStop' := by
  unfold Ends at ends ⊢
  cases outcome : computation state <;> rw [outcome] at ends
  · exact endImplies _ _ ends
  · exact stopImplies _ _ ends

theorem and {computation : EStateM Cause State Result}
    {atEnd atEnd' : Result → State → Prop} {atStop' : Cause → State → Prop}
    (ends : Ends computation state atEnd atStop)
    (ends' : Ends computation state atEnd' atStop') :
    Ends computation state (fun result after => atEnd result after ∧ atEnd' result after)
      fun cause after => atStop cause after ∧ atStop' cause after := by
  unfold Ends at ends ends' ⊢
  cases outcome : computation state <;> rw [outcome] at ends ends' <;> exact ⟨ends, ends'⟩

theorem outcomes {computation : EStateM Cause State Result}
    {atEnd : Result → State → Prop} (ends : Ends computation state atEnd atStop) :
    (∀ result after, computation state = .ok result after → atEnd result after) ∧
      ∀ cause after, computation state = .error cause after → atStop cause after := by
  unfold Ends at ends
  constructor <;> intro _ _ same <;> rw [same] at ends <;> exact ends

end Ends

section

variable {Other : Type} {first : EStateM Cause State Result}
variable {second : Result → EStateM Cause State Other}

def Keeps (related : State → State → Prop) (computation : EStateM Cause State Result) :
    Prop :=
  ∀ state, Ends computation state (fun _ after => related state after)
    fun _ after => related state after

namespace Keeps

variable {related : State → State → Prop}

theorem get {reader : State → EStateM Cause State Result}
    (keeps : ∀ state, Keeps related (reader state)) :
    Keeps related (MonadState.get >>= reader) :=
  fun state => keeps state state

theorem modify {change : State → State} (holds : ∀ state, related state (change state)) :
    Keeps related (modifyThe State change : EStateM Cause State Unit) :=
  holds

theorem ite {condition : Prop} [Decidable condition] {yes no : EStateM Cause State Result}
    (yesKeeps : Keeps related yes) (noKeeps : Keeps related no) :
    Keeps related (if condition then yes else no) := by
  by_cases holds : condition
  · rwa [if_pos holds]
  · rwa [if_neg holds]

variable [IsPreorder State related]

theorem pure (result : Result) :
    Keeps related (Pure.pure result : EStateM Cause State Result) :=
  fun state => refl_of related state

theorem throw (cause : Cause) :
    Keeps related (MonadExcept.throw cause : EStateM Cause State Result) :=
  fun state => refl_of related state

theorem bind (firstKeeps : Keeps related first)
    (secondKeeps : ∀ result, Keeps related (second result)) :
    Keeps related (first >>= second) := by
  intro state
  refine Ends.bind ((firstKeeps state).mono ?_ fun _ _ kept => kept)
  intro result between kept
  exact (secondKeeps result between).mono (fun _ _ again => trans_of related kept again)
    fun _ _ again => trans_of related kept again

end Keeps

def StopsFor (allowed : Cause → Prop) (computation : EStateM Cause State Result) : Prop :=
  ∀ state, Ends computation state (fun _ _ => True) fun cause _ => allowed cause

namespace StopsFor

variable {allowed : Cause → Prop}

theorem of_error {computation : EStateM Cause State Result}
    (stops : StopsFor allowed computation) {state after : State} {cause : Cause}
    (stopped : computation state = .error cause after) : allowed cause :=
  (stops state).outcomes.2 cause after stopped

theorem mono {computation : EStateM Cause State Result} {more : Cause → Prop}
    (stops : StopsFor allowed computation)
    (implies : ∀ cause, allowed cause → more cause) : StopsFor more computation :=
  fun state => (stops state).mono (fun _ _ => id) fun cause _ => implies cause

theorem pure (result : Result) :
    StopsFor allowed (Pure.pure result : EStateM Cause State Result) := fun _ => trivial

theorem throw {cause : Cause} (isAllowed : allowed cause) :
    StopsFor allowed (MonadExcept.throw cause : EStateM Cause State Result) :=
      fun _ => isAllowed

theorem get {reader : State → EStateM Cause State Result}
    (stops : ∀ state, StopsFor allowed (reader state)) :
    StopsFor allowed (MonadState.get >>= reader) :=
  fun state => stops state state

theorem modify (change : State → State) :
    StopsFor allowed (modifyThe State change : EStateM Cause State Unit) :=
      fun _ => trivial

theorem ite {condition : Prop} [Decidable condition] {yes no : EStateM Cause State Result}
    (yesStops : StopsFor allowed yes) (noStops : StopsFor allowed no) :
    StopsFor allowed (if condition then yes else no) := by
  by_cases holds : condition
  · rwa [if_pos holds]
  · rwa [if_neg holds]

theorem bind (firstStops : StopsFor allowed first)
    (secondStops : ∀ result, StopsFor allowed (second result)) :
    StopsFor allowed (first >>= second) :=
  fun state => Ends.bind ((firstStops state).mono
    (fun result between _ => secondStops result between) fun _ _ => id)

theorem forM {Element : Type} {step : Element → EStateM Cause State Unit}
    {list : List Element} (stops : ∀ element ∈ list, StopsFor allowed (step element)) :
    StopsFor allowed (list.forM step) := by
  induction list with
  | nil => exact .pure ()
  | cons element rest induction =>
      rw [List.forall_mem_cons] at stops
      exact .bind stops.1 fun _ => induction stops.2

end StopsFor

/-- A computation does the same from a changed state, and leaves the state that it would
have left with the same change. -/
def Commutes (change : State → State) (computation : EStateM Cause State Result) : Prop :=
  ∀ state, computation (change state) =
    match computation state with
    | .ok result after => .ok result (change after)
    | .error cause after => .error cause (change after)

namespace Commutes

variable {change : State → State}

theorem unchanged (computation : EStateM Cause State Result) :
    Commutes id computation := by
  intro state
  change computation state = _
  cases computation state <;> rfl

theorem pure (result : Result) :
    Commutes change (Pure.pure result : EStateM Cause State Result) := fun _ => rfl

theorem throw (cause : Cause) :
    Commutes change (MonadExcept.throw cause : EStateM Cause State Result) := fun _ => rfl

theorem bind (firstCommutes : Commutes change first)
    (secondCommutes : ∀ result, Commutes change (second result)) :
    Commutes change (first >>= second) := by
  intro state
  change EStateM.bind first second (change state) =
    match EStateM.bind first second state with
    | .ok result after => .ok result (change after)
    | .error cause after => .error cause (change after)
  unfold EStateM.bind
  rw [firstCommutes state]
  cases first state with
  | ok result between => exact secondCommutes result between
  | error => rfl

theorem get {reader : State → EStateM Cause State Result}
    (same : ∀ state, reader (change state) = reader state)
    (commutes : ∀ state, Commutes change (reader state)) :
    Commutes change (MonadState.get >>= reader) := by
  intro state
  exact (congrFun (same state) (change state)).trans (commutes state state)

theorem modify {other : State → State}
    (same : ∀ state, other (change state) = change (other state)) :
    Commutes change (modifyThe State other : EStateM Cause State Unit) :=
  fun state => congrArg (EStateM.Result.ok ()) (same state)

theorem ite {condition : Prop} [Decidable condition] {yes no : EStateM Cause State Result}
    (yesCommutes : Commutes change yes) (noCommutes : Commutes change no) :
    Commutes change (if condition then yes else no) := by
  by_cases holds : condition
  · rwa [if_pos holds]
  · rwa [if_neg holds]

end Commutes

end

end StackLanguage
