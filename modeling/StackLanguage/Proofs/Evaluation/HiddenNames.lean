import StackLanguage.Proofs.Alongside
import StackLanguage.Proofs.Evaluation.Declaring
import StackLanguage.Proofs.Program.Alike

namespace StackLanguage

/-! Runs of statements that are the same up to places, on machines that differ in
variables which the statements do not mention and in the form in which functions take
their parameters. Both come to the same end, up to the places of errors. -/

/-- Two runs stop for the same reason, though an error may be found at different
places. -/
def Stop.SameCause : Stop → Stop → Prop
  | .error located, .error other => other.cause = located.cause
  | stop, other => other = stop

theorem Stop.SameCause.error {cause : RuntimeError} {location other : Location} :
    SameCause (.error ⟨cause, location⟩) (.error ⟨cause, other⟩) :=
  rfl

namespace Run

def besides (related : List Scope → List Scope → Prop) :
    Likeness Stop Machine Machine where
  states machine other :=
    ∃ scopes, related machine.scopes scopes ∧ other = { machine with scopes }
  causes := Stop.SameCause
  excused _ := False

/-! ## Words and operators -/

section Words

variable {related : List Scope → List Scope → Prop} {location other : Location}

theorem modify_besides {change : Machine → Machine}
    (apart : ∀ (machine : Machine) (scopes : List Scope),
      (change machine).scopes = machine.scopes ∧
        change { machine with scopes } = { change machine with scopes }) :
    (besides related).Alongside Eq (modifyThe Machine change : Run Unit)
      (modifyThe Machine change) := by
  refine .modify rfl ?_
  rintro machine _ ⟨scopes, alike, rfl⟩
  obtain ⟨sameScopes, same⟩ := apart machine scopes
  exact ⟨scopes, sameScopes ▸ alike, same⟩

theorem fail_besides {Result : Type} (cause : RuntimeError) :
    (besides related).Alongside Eq (fail location cause : Run Result)
      (fail other cause) :=
  .throw Stop.SameCause.error

theorem push_besides (value : Value) :
    (besides related).Alongside Eq (push value) (push value) :=
  modify_besides fun _ _ => ⟨rfl, rfl⟩

theorem pop_besides : (besides related).Alongside Eq (pop location) (pop other) := by
  refine .get ?_
  rintro ⟨stack, _, output, input, calls, depth⟩ _ ⟨scopes, alike, rfl⟩
  cases stack with
  | nil => exact fail_besides _ _ _ ⟨scopes, alike, rfl⟩
  | cons top rest => exact ⟨rfl, scopes, alike, rfl⟩

theorem print_besides (value : Value) (after : String) :
    (besides related).Alongside Eq (print location value after)
      (print other value after) := by
  unfold print
  cases value.text? with
  | none => exact fail_besides _
  | some text => exact modify_besides fun _ _ => ⟨rfl, rfl⟩

theorem printAll_besides (values : List Value) (after : String) :
    (besides related).Alongside Eq (values.forM (print location · after))
      (values.forM (print other · after)) := by
  induction values with
  | nil => exact .pure rfl
  | cons value rest induction =>
      exact .bind (print_besides value after) fun _ _ _ => induction

theorem rearrange_besides (change : List Value → Option (List Value)) :
    (besides related).Alongside Eq (rearrange location change)
      (rearrange other change) := by
  refine .get ?_
  rintro machine _ ⟨scopes, alike, rfl⟩
  dsimp only
  cases change machine.stack with
  | none => exact fail_besides _ _ _ ⟨scopes, alike, rfl⟩
  | some stack => exact ⟨rfl, scopes, alike, rfl⟩

theorem popArguments_besides (count : Nat) :
    (besides related).Alongside
      (fun arguments others => others = arguments ∧ arguments.length = count)
      (popArguments location count) (popArguments other count) := by
  refine .get ?_
  rintro machine _ ⟨scopes, alike, rfl⟩
  change (besides related).Outcomes _
    ((if machine.stack.length < count then _ else _ : Run (List Value)) machine)
    ((if machine.stack.length < count then _ else _ : Run (List Value)) _)
  by_cases missing : machine.stack.length < count
  · rw [if_pos missing, if_pos missing]
    exact .inr ⟨Stop.SameCause.error, scopes, alike, rfl⟩
  · rw [if_neg missing, if_neg missing]
    exact ⟨⟨rfl, List.length_take_of_le (Nat.not_lt.mp missing)⟩, scopes, alike, rfl⟩

theorem word_besides (builtin : BuiltinWord) :
    (besides related).Alongside Eq (word location builtin) (word other builtin) := by
  cases builtin with
  | dup | swap | overTop | rot =>
      unfold word
      apply rearrange_besides
  | clear => exact modify_besides fun _ _ => ⟨rfl, rfl⟩
  | drop => exact .bind pop_besides fun _ _ _ => .pure rfl
  | print | println =>
      refine .bind pop_besides ?_
      rintro value _ rfl
      exact print_besides value _
  | pstack =>
      refine .get ?_
      rintro machine _ ⟨scopes, alike, rfl⟩
      exact printAll_besides _ _ machine _ ⟨scopes, alike, rfl⟩
  | input =>
      have reads :
          (besides related).Alongside Eq (modifyGet Machine.readLine : Run String)
            (modifyGet Machine.readLine) := by
        rintro machine _ ⟨scopes, alike, rfl⟩
        exact ⟨rfl, scopes, alike, rfl⟩
      refine .bind reads ?_
      rintro line _ rfl
      exact push_besides _
  | exit =>
      refine .bind pop_besides ?_
      rintro value _ rfl
      cases exitCode value with
      | error fault => exact .throw rfl
      | ok code => exact .throw rfl
  | okexit => exact .throw rfl
  | not =>
      refine .bind pop_besides ?_
      rintro value _ rfl
      exact push_besides _

theorem operator_besides (symbol : String) :
    (besides related).Alongside Eq (operator location symbol)
      (operator other symbol) := by
  refine .bind pop_besides ?_
  rintro second _ rfl
  refine .bind pop_besides ?_
  rintro first _ rfl
  rcases Operator.apply symbol first second with (cause | fault) | value
  · exact fail_besides _
  · exact .throw rfl
  · exact push_besides value

end Words

end Run

/-! ## Scopes side by side -/

/-- Two functions that may stand for each other where some names are hidden: they differ
in places only, or, where no name is hidden, in whether the arguments are variables that
the body loads first or are on the stack from the start. -/
inductive Function.Interchangeable (hidden : List String) : Function → Function → Prop
  | alike {name parameters result body others}
      (bodyAlike : Statement.AllAlike body others) (avoid : Statement.Avoid hidden body) :
      Interchangeable hidden ⟨name, parameters, result, body⟩
        ⟨name, parameters, result, others⟩
  | forms {name parameters result loads body others} (unhidden : hidden = [])
      (nonempty : parameters ≠ []) (distinct : (parameters.map (·.2)).Nodup)
      (isLoads : Statement.Load (parameters.map (·.2)) loads)
      (bodyAlike : Statement.AllAlike body others)
      (avoid : Statement.Avoid (parameters.map (·.2)) body) :
      Interchangeable hidden ⟨name, Parameter.named parameters, result, loads ++ body⟩
        ⟨name, Parameter.unnamed parameters, result, others⟩

namespace Function.Interchangeable

variable {hidden : List String} {function other : Function}

theorem sameName (interchangeable : Interchangeable hidden function other) :
    other.name = function.name := by
  cases interchangeable <;> rfl

theorem sameResult (interchangeable : Interchangeable hidden function other) :
    other.result = function.result := by
  cases interchangeable <;> rfl

theorem sameLength (interchangeable : Interchangeable hidden function other) :
    other.parameters.length = function.parameters.length := by
  cases interchangeable with
  | alike => rfl
  | forms => exact (Parameter.length_unnamed _).trans (Parameter.length_named _).symm

end Function.Interchangeable

structure Scope.IsLike (hidden : List String) (scope other : Scope) : Prop where
  bindings : ∀ name, name ∉ hidden → other.bindings.get? name = scope.bindings.get? name
  functions : ∀ name,
    Option.Rel (Function.Interchangeable hidden) (scope.functions.get? name)
      (other.functions.get? name)

namespace Scope.IsLike

variable {hidden : List String} {scope other : Scope}

theorem of_noFunctions (hidden : List String) (noFunctions : scope.functions = .empty) :
    IsLike hidden scope scope := by
  refine ⟨fun _ _ => rfl, fun name => ?_⟩
  rw [noFunctions]
  exact .none

theorem bind (like : IsLike hidden scope other) (name : String) (binding : Binding) :
    IsLike hidden (scope.bind name binding) (other.bind name binding) := by
  refine ⟨fun another visible => ?_, like.functions⟩
  simp only [Scope.bind, Table.get?_set, like.bindings another visible]

theorem define (like : IsLike hidden scope other) (name : String)
    {function otherFunction : Function}
    (interchangeable : Function.Interchangeable hidden function otherFunction) :
    IsLike hidden (scope.define name function) (other.define name otherFunction) := by
  refine ⟨like.bindings, fun another => ?_⟩
  simp only [Scope.define, Table.get?_set]
  by_cases same : another = name
  · rw [if_pos same, if_pos same]
    exact .some interchangeable
  · rw [if_neg same, if_neg same]
    exact like.functions another

end Scope.IsLike

/-- Scopes that are like each other one by one. Further out fewer names may be hidden. -/
inductive ScopesAlike : (hidden : List String) → List Scope → List Scope → Prop
  | nil {hidden} : ScopesAlike hidden [] []
  | cons {hidden around scope other outer others} (subset : around ⊆ hidden)
      (like : Scope.IsLike hidden scope other)
      (outerAlike : ScopesAlike around outer others) :
      ScopesAlike hidden (scope :: outer) (other :: others)

namespace ScopesAlike

variable {hidden : List String} {scopes others : List Scope}

theorem lookupVariable? (alike : ScopesAlike hidden scopes others) {name : String}
    (visible : name ∉ hidden) :
    StackLanguage.lookupVariable? others name =
      StackLanguage.lookupVariable? scopes name := by
  unfold StackLanguage.lookupVariable?
  congr 1
  induction alike with
  | nil => rfl
  | cons subset like _ induction =>
      rw [List.findSome?_cons, List.findSome?_cons, like.bindings name visible,
        induction fun member => visible (subset member)]

theorem lookupFunction? (alike : ScopesAlike hidden scopes others) (name : String) :
    Option.Rel (fun found otherFound => ∃ around,
        Function.Interchangeable around found.1 otherFound.1 ∧
          ScopesAlike around found.2.2 otherFound.2.2)
      (StackLanguage.lookupFunction? scopes name)
      (StackLanguage.lookupFunction? others name) := by
  induction alike with
  | nil => exact .none
  | @cons hidden around scope other outer others subset like outerAlike induction =>
      have here := like.functions name
      simp only [StackLanguage.lookupFunction?]
      generalize scope.functions.get? name = entry at here ⊢
      generalize other.functions.get? name = otherEntry at here ⊢
      cases here with
      | some interchangeable =>
          exact .some ⟨hidden, interchangeable, .cons subset like outerAlike⟩
      | none =>
          dsimp only
          generalize StackLanguage.lookupFunction? outer name = further at induction ⊢
          generalize StackLanguage.lookupFunction? others name =
            otherFurther at induction ⊢
          cases induction with
          | none => exact .none
          | some same => exact .some same

theorem innermost (alike : ScopesAlike hidden scopes others) :
    Scope.IsLike hidden (scopes.headD .empty) (others.headD .empty) := by
  cases alike with
  | nil => exact .of_noFunctions hidden rfl
  | cons subset like outerAlike => exact like

theorem withInnermost (alike : ScopesAlike hidden scopes others) {scope other : Scope}
    (like : Scope.IsLike hidden scope other) :
    ScopesAlike hidden (scope :: scopes.tail) (other :: others.tail) := by
  cases alike with
  | nil => exact .cons (List.Subset.refl hidden) like .nil
  | cons subset _ outerAlike => exact .cons subset like outerAlike

end ScopesAlike

/-! ## Named arguments -/

theorem Scope.ofArguments_named {parameters : List (ValueType × String)}
    (distinct : (parameters.map (·.2)).Nodup) {values : List Value}
    (sameLength : values.length = parameters.length) :
    List.Forall₂ (fun name value =>
        ((Scope.ofArguments (Parameter.named parameters) values).bindings.get? name).map
          (·.value) =
          some value) (parameters.map (·.2)) values ∧
      ∀ name, name ∉ parameters.map (·.2) →
        (Scope.ofArguments (Parameter.named parameters) values).bindings.get? name =
          Scope.empty.bindings.get? name := by
  unfold ofArguments
  -- The induction is on the parameters that are left, from any scope that
  -- the earlier ones made.
  generalize empty = start
  induction parameters generalizing values start with
  | nil =>
      cases List.length_eq_zero_iff.mp sameLength
      exact ⟨.nil, fun _ _ => rfl⟩
  | cons parameter rest induction =>
      obtain ⟨type, name⟩ := parameter
      obtain ⟨notAgain, distinctRest⟩ := List.nodup_cons.mp distinct
      cases values with
      | nil => cases sameLength
      | cons value values =>
          obtain ⟨bound, others⟩ := induction distinctRest (Nat.succ.inj sameLength)
            (start.bind name ⟨type, value⟩)
          have first : (start.bind name ⟨type, value⟩).bindings.get? name =
              some ⟨type, value⟩ := by
            rw [bind, Table.get?_set, if_pos rfl]
          refine ⟨.cons ?_ bound, fun other absent => ?_⟩
          · exact congrArg (Option.map (·.value)) ((others name notAgain).trans first)
          · have different : other ≠ name := fun same => absent (same ▸ .head _)
            refine (others other fun member => absent (.tail _ member)).trans ?_
            rw [bind, Table.get?_set, if_neg different]

namespace Run

theorem statements_loads {limit : Nat} {names : List String} {loads : List Statement}
    (isLoads : Statement.Load names loads) (room : Nat) {values : List Value}
    {machine : Machine}
    (bound :
      List.Forall₂ (fun name value => lookupVariable? machine.scopes name = some value)
        names values) :
    statements limit (room + 1) loads machine =
      .ok () { machine with stack := values.reverse ++ machine.stack } := by
  induction isLoads generalizing values machine with
  | nil =>
      cases bound
      rfl
  | @cons location name names loads loadsRest induction =>
      cases bound with
      | @cons _ value _ values found boundRest =>
          have first :
              Run.statement (statements limit room) limit (.load location name) machine =
                .ok () { machine with stack := value :: machine.stack } := by
            rw [Run.statement, get_bind]
            simp only [found]
            rfl
          rw [statements_cons, first]
          refine Eq.trans (induction boundRest) ?_
          rw [List.reverse_cons, List.append_assoc]
          rfl

theorem inFrame_loads {limit room : Nat} {names : List String} {loads : List Statement}
    (isLoads : Statement.Load names loads) {scope : Scope} {values : List Value}
    (bound : List.Forall₂
      (fun name value => (scope.bindings.get? name).map (·.value) = some value)
      names values)
    (inner defining : List Scope) (body : List Statement) :
    inFrame [] scope inner defining (statements limit room (loads ++ body)) =
      inFrame values.reverse scope inner defining (statements limit room body) := by
  funext machine
  cases room with
  | zero => rfl
  | succ room =>
      have found : List.Forall₂ (fun name value =>
          lookupVariable? (scope :: defining) name = some value) names values := by
        refine bound.imp fun name value isBound => ?_
        obtain ⟨binding, isBinding, rfl⟩ := Option.map_eq_some_iff.mp isBound
        rw [lookupVariable?, List.findSome?_cons, isBinding]
        rfl
      have same (output : String) (input : List Char) (calls depth : Nat) :
          statements limit (room + 1) (loads ++ body)
              ⟨[], scope :: defining, output, input, calls, depth⟩ =
            statements limit (room + 1) body
              ⟨values.reverse, scope :: defining, output, input, calls, depth⟩ := by
        rw [statements_append]
        change EStateM.bind _ _ _ = _
        unfold EStateM.bind
        rw [statements_loads isLoads room found, List.append_nil]
      unfold inFrame
      rw [same]

end Run

/-! ## Statements side by side -/

namespace Run

theorem changeScope_besides {hidden : List String} {change otherChange : Scope → Scope}
    (apart : ∀ scope other, Scope.IsLike hidden scope other →
      Scope.IsLike hidden (change scope) (otherChange other)) :
    (besides (ScopesAlike hidden)).Alongside Eq (modify (·.changeScope change) : Run Unit)
      (modify (·.changeScope otherChange)) := by
  refine .modify rfl ?_
  rintro machine _ ⟨scopes, alike, rfl⟩
  exact ⟨_, alike.withInnermost (apart _ _ alike.innermost), rfl⟩

section Bodies

variable {limit room : Nat}

variable {hidden : List String} (bodyBesides : ∀ hidden list others,
  Statement.AllAlike list others → Statement.Avoid hidden list →
    (besides (ScopesAlike hidden)).Alongside Eq (statements limit room list)
      (statements limit room others))

include bodyBesides

theorem body_besides {list others : List Statement}
    (alike : Statement.AllAlike list others) (avoid : Statement.Avoid hidden list)
    (start : Machine) {otherScopes : List Scope}
    (scopesAlike : ScopesAlike hidden start.scopes otherScopes) :
    (besides fun scopes others =>
        scopes.tail = start.scopes.tail ∧ others.tail = otherScopes.tail).Outcomes Eq
      (statements limit room list start)
      (statements limit room others { start with scopes := otherScopes }) := by
  have inside := (bodyBesides hidden list others alike avoid start
      { start with scopes := otherScopes } ⟨otherScopes, scopesAlike, rfl⟩).and_ends
    (statements_ends_outer limit room list _) (statements_ends_outer limit room others _)
  refine inside.mono ?_
  rintro after _ ⟨⟨scopes, -, rfl⟩, kept, otherKept⟩
  exact ⟨scopes, ⟨kept, otherKept⟩, rfl⟩

theorem inScope_besides {list others : List Statement}
    (alike : Statement.AllAlike list others) (avoid : Statement.Avoid hidden list) :
    (besides (ScopesAlike hidden)).Alongside Eq (inScope (statements limit room list))
      (inScope (statements limit room others)) := by
  rintro machine _ ⟨scopes, scopesAlike, rfl⟩
  have inside := body_besides bodyBesides alike avoid (machine.inner machine.stack)
    (.cons (List.Subset.refl hidden) (.of_noFunctions hidden rfl) scopesAlike)
  have back {after otherAfter : Machine}
      (states : (besides fun scopes' others' =>
        scopes'.tail = machine.scopes ∧ others'.tail = scopes).states after otherAfter) :
      (besides (ScopesAlike hidden)).states { after with scopes := after.scopes.tail }
        { otherAfter with scopes := otherAfter.scopes.tail } := by
    obtain ⟨others', ⟨kept, otherKept⟩, rfl⟩ := states
    refine ⟨others'.tail, ?_, rfl⟩
    rw [kept, otherKept]
    exact scopesAlike
  rw [inScope_eq, inScope_eq]
  change (besides _).Outcomes Eq _ (statements limit room others
    (Machine.inner { machine with scopes } machine.stack)) at inside
  generalize statements limit room list _ = outcome at inside ⊢
  generalize statements limit room others _ = otherOutcome at inside ⊢
  cases outcome <;> cases otherOutcome
  · exact ⟨rfl, back inside.2⟩
  · exact inside.elim
  · exact inside.elim
  · exact inside.imp_right fun both => ⟨both.1, back both.2⟩

/-! ## Calls -/

theorem inFrame_besides {list others : List Statement}
    (alike : Statement.AllAlike list others) (avoid : Statement.Avoid hidden list)
    (frame : List Value) {scope otherScope : Scope}
    {inner defining otherInner otherDefining : List Scope}
    (scopesAlike : ScopesAlike hidden (scope :: defining) (otherScope :: otherDefining)) :
    (besides fun scopes others =>
        scopes = inner ++ defining ∧ others = otherInner ++ otherDefining).Alongside Eq
      (inFrame frame scope inner defining (statements limit room list))
      (inFrame frame otherScope otherInner otherDefining
        (statements limit room others)) := by
  rintro machine _ ⟨_, ⟨callers, rfl⟩, rfl⟩
  have inside := body_besides bodyBesides alike avoid
    { machine with
      stack := frame, scopes := scope :: defining,
      calls := machine.calls + 1, depth := machine.depth + 1 } scopesAlike
  have back {after otherAfter : Machine}
      (states : (besides fun scopes' others' =>
        scopes'.tail = defining ∧ others'.tail = otherDefining).states after otherAfter) :
      otherAfter.stack = after.stack ∧
      (besides fun scopes' others' =>
          scopes' = inner ++ defining ∧ others' = otherInner ++ otherDefining).states
        { after with
          stack := machine.stack, scopes := inner ++ after.scopes.tail,
          depth := after.depth - 1 }
        { otherAfter with
          stack := machine.stack, scopes := otherInner ++ otherAfter.scopes.tail,
          depth := otherAfter.depth - 1 } := by
    obtain ⟨others', ⟨kept, otherKept⟩, rfl⟩ := states
    refine ⟨rfl, otherInner ++ others'.tail, ?_, rfl⟩
    rw [kept, otherKept]
    exact ⟨rfl, rfl⟩
  unfold inFrame
  generalize statements limit room list _ = outcome at inside ⊢
  generalize statements limit room others _ = otherOutcome at inside ⊢
  cases outcome <;> cases otherOutcome
  · exact ⟨(back inside.2).1.symm, (back inside.2).2⟩
  · exact inside.elim
  · exact inside.elim
  · exact inside.imp_right fun both => ⟨both.1, (back both.2).2⟩

theorem frame_besides {around : List String} {function other : Function}
    (interchangeable : Function.Interchangeable around function other)
    {inner defining otherInner otherDefining : List Scope}
    (definingAlike : ScopesAlike around defining otherDefining) {arguments : List Value}
    (supplied : arguments.length = function.parameters.length) :
    (besides fun scopes others =>
        scopes = inner ++ defining ∧ others = otherInner ++ otherDefining).Alongside Eq
      (inFrame (if Parameter.areNamed function.parameters then [] else arguments)
        (if Parameter.areNamed function.parameters then
          .ofArguments function.parameters arguments.reverse else .empty)
        inner defining (statements limit room function.body))
      (inFrame (if Parameter.areNamed other.parameters then [] else arguments)
        (if Parameter.areNamed other.parameters then
          .ofArguments other.parameters arguments.reverse else .empty)
        otherInner otherDefining (statements limit room other.body)) := by
  cases interchangeable with
  | @alike name parameters result body others bodyAlike avoid =>
      have noFunctions : (if Parameter.areNamed parameters then
          Scope.ofArguments parameters arguments.reverse else .empty).functions =
            .empty := by
        split
        · exact Scope.functions_ofArguments _ _
        · rfl
      exact inFrame_besides bodyBesides bodyAlike avoid _
        (.cons (List.Subset.refl around) (.of_noFunctions around noFunctions)
          definingAlike)
  | @forms name parameters result loads body others unhidden nonempty distinct isLoads
      bodyAlike avoid =>
      subst unhidden
      have sameLength : arguments.reverse.length = parameters.length := by
        rw [List.length_reverse, supplied, Parameter.length_named]
      obtain ⟨bound, noOthers⟩ := Scope.ofArguments_named distinct sameLength
      have hidesNames : Scope.IsLike (parameters.map (·.2))
          (Scope.ofArguments (Parameter.named parameters) arguments.reverse) .empty := by
        refine ⟨fun another visible => (noOthers another visible).symm, fun another => ?_⟩
        rw [Scope.functions_ofArguments]
        exact .none
      dsimp only
      simp only [Parameter.areNamed_named nonempty, Parameter.areNamed_unnamed, if_true,
        Bool.false_eq_true, if_false]
      rw [inFrame_loads isLoads bound, List.reverse_reverse]
      exact inFrame_besides bodyBesides bodyAlike avoid _
        (.cons (List.nil_subset _) hidesNames definingAlike)

theorem call_besides (location other : Location) (name : String) :
    (besides (ScopesAlike hidden)).Alongside Eq
      (call (statements limit room) limit location name)
      (call (statements limit room) limit other name) := by
  refine .get ?_
  rintro machine _ ⟨scopes, alike, rfl⟩
  have found := alike.lookupFunction? name
  dsimp only
  cases here : lookupFunction? machine.scopes name <;>
    cases there : lookupFunction? scopes name <;> rw [here, there] at found
  · exact .inr ⟨Stop.SameCause.error, scopes, alike, rfl⟩
  · cases found
  · cases found
  case some.some entry otherEntry =>
    obtain ⟨function, inner, defining⟩ := entry
    obtain ⟨otherFunction, otherInner, otherDefining⟩ := otherEntry
    cases found with | some callees =>
    obtain ⟨around, interchangeable, definingAlike⟩ := callees
    obtain ⟨sameScopes, -⟩ := lookupFunction?_split here
    obtain ⟨otherSameScopes, -⟩ := lookupFunction?_split there
    -- Until the call is over all that matters of the scopes of the callers
    -- is that they stay.
    have between {first second : Run Unit} (goes : (besides fun scopes others =>
        scopes = inner ++ defining ∧ others = otherInner ++ otherDefining).Alongside
          Eq first second) :
        (besides (ScopesAlike hidden)).Outcomes Eq (first machine)
          (second { machine with scopes }) := by
      have gone := goes machine _ ⟨scopes, ⟨sameScopes.symm, otherSameScopes.symm⟩, rfl⟩
      refine gone.mono ?_
      rintro after _ ⟨_, ⟨kept, rfl⟩, rfl⟩
      refine ⟨_, ?_, rfl⟩
      rw [kept, sameScopes, otherSameScopes]
      exact alike
    dsimp only at interchangeable ⊢
    change (besides _).Outcomes Eq
      ((if limit ≤ machine.depth then _ else _ : Run Unit) machine)
      ((if limit ≤ machine.depth then _ else _ : Run Unit) _)
    by_cases refused : limit ≤ machine.depth
    · rw [if_pos refused, if_pos refused, interchangeable.sameName]
      exact between (fail_besides _)
    · rw [if_neg refused, if_neg refused, interchangeable.sameLength,
        interchangeable.sameResult]
      apply between
      refine .bind (popArguments_besides _) ?_
      rintro arguments _ ⟨rfl, supplied⟩
      refine .bind (frame_besides bodyBesides interchangeable definingAlike supplied) ?_
      rintro left _ rfl
      refine .ite Iff.rfl ?_ (.pure rfl)
      cases left with
      | nil => exact fail_besides _
      | cons top rest => exact push_besides top

theorem statement_besides {statement other : Statement} (alike : statement.Alike other)
    {rest : List Statement} (avoid : Statement.Avoid hidden (statement :: rest)) :
    (besides (ScopesAlike hidden)).Alongside Eq
      (Run.statement (statements limit room) limit statement)
      (Run.statement (statements limit room) limit other) := by
  have visible {name : String} (mentioned : name ∈ statement.mentioned) : name ∉ hidden :=
    fun member => avoid.head name member mentioned
  have inBody {known : List Identifier} {list others : List Statement}
      (isBody : (known, list) ∈ statement.bodies)
      (bodyAlike : Statement.AllAlike list others) :=
    inScope_besides bodyBesides bodyAlike (avoid.body isBody)
  cases alike with
  | @push _ _ value => exact push_besides value
  | @word location other name =>
      unfold Run.statement
      dsimp only
      cases BuiltinWord.ofName? name with
      | none => exact fail_besides _
      | some builtin => exact word_besides builtin
  | @operator _ _ symbol => exact operator_besides symbol
  | @load location other name =>
      refine .get ?_
      rintro machine _ ⟨scopes, scopesAlike, rfl⟩
      dsimp only
      rw [scopesAlike.lookupVariable? (visible (.head _))]
      cases lookupVariable? machine.scopes name with
      | none => exact .inr ⟨Stop.SameCause.error, scopes, scopesAlike, rfl⟩
      | some value => exact push_besides value machine _ ⟨scopes, scopesAlike, rfl⟩
  | @call location other name => exact call_besides bodyBesides location other name
  | @bind location other name type initial =>
      have binds (value : Value) : (besides (ScopesAlike hidden)).Alongside Eq
          (modify (·.changeScope (·.bind name ⟨type, value⟩)) : Run Unit)
          (modify (·.changeScope (·.bind name ⟨type, value⟩))) :=
        changeScope_besides fun _ _ like => like.bind name ⟨type, value⟩
      cases initial with
      | none =>
          refine .bind pop_besides ?_
          rintro value _ rfl
          exact binds value
      | some value => exact binds value
  | @define location other name parameters result list others bodyAlike =>
      exact changeScope_besides fun _ _ like =>
        like.define name (.alike bodyAlike (avoid.body (.head _)))
  | ifThen thenAlike =>
      refine .bind pop_besides ?_
      rintro condition _ rfl
      exact .ite Iff.rfl (inBody (.head _) thenAlike) (.pure rfl)
  | ifThenElse thenAlike elseAlike =>
      refine .bind pop_besides ?_
      rintro condition _ rfl
      exact .ite Iff.rfl (inBody (.head _) thenAlike)
        (inBody (.tail _ (.head _)) elseAlike)
  | block bodyAlike => exact inBody (.head _) bodyAlike
  | unknown => exact fail_besides _

end Bodies

theorem statements_besides (limit room : Nat) {hidden : List String}
    {list others : List Statement} (alike : Statement.AllAlike list others)
    (avoid : Statement.Avoid hidden list) :
    (besides (ScopesAlike hidden)).Alongside Eq (statements limit room list)
      (statements limit room others) := by
  -- Induction on the room for bodies, inside it on the list.
  induction room generalizing hidden list others with
  | zero => exact .throw rfl
  | succ room bodyBesides =>
      induction list generalizing others with
      | nil =>
          cases alike
          exact .pure rfl
      | cons statement rest induction =>
          cases alike with
          | cons head tail =>
              exact .bind (statement_besides (fun _ _ _ => bodyBesides) head avoid)
                fun _ _ _ => induction tail avoid.tail

end Run

end StackLanguage
