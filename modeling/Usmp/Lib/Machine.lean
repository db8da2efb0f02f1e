import Mathlib.Data.List.Basic

/-!
# Runs of partial step functions

A machine is a partial function from a state and an action to the next state.
An action that is not enabled is refused.  This module has the run of a list of
actions, conditions imposed on every step of a run, and the rule that carries a
one-step invariant to every state that a run reaches.
-/

namespace Machine

universe u v

variable {State : Type u} {Action : Type v}

/-- Perform the actions in order.  One refused action refuses the whole run. -/
def run (step : State → Action → Option State) : State → List Action → Option State
  | state, [] => some state
  | state, action :: rest =>
      match step state action with
      | some next => run step next rest
      | none => none

/-- A condition on every step of a run, read in the state before the step. -/
def Along (step : State → Action → Option State) (condition : State → Action → Prop) :
    State → List Action → Prop
  | _, [] => True
  | state, action :: rest =>
      condition state action ∧
        ∀ next, step state action = some next → Along step condition next rest

variable {step : State → Action → Option State}

@[simp] theorem run_nil (state : State) : run step state [] = some state := rfl

theorem run_cons (state : State) (action : Action) (rest : List Action) :
    run step state (action :: rest) = (step state action).bind (run step · rest) := by
  rw [run]
  cases step state action <;> rfl

theorem run_cons_some {state final : State} {action : Action} {rest : List Action} :
    run step state (action :: rest) = some final ↔
      ∃ next, step state action = some next ∧ run step next rest = some final := by
  rw [run_cons, Option.bind_eq_some_iff]

theorem run_append (state : State) (left right : List Action) :
    run step state (left ++ right) = (run step state left).bind (run step · right) := by
  induction left generalizing state with
  | nil => rfl
  | cons action rest ih =>
      rw [List.cons_append, run_cons, run_cons, Option.bind_assoc]
      congr 1
      funext next
      exact ih next

theorem run_append_some {state final : State} {left right : List Action} :
    run step state (left ++ right) = some final ↔
      ∃ middle, run step state left = some middle ∧ run step middle right = some final := by
  rw [run_append, Option.bind_eq_some_iff]

variable {condition : State → Action → Prop}

theorem along_append {state : State} {left right : List Action} :
    Along step condition state (left ++ right) ↔
      Along step condition state left ∧
        ∀ middle, run step state left = some middle → Along step condition middle right := by
  induction left generalizing state with
  | nil => simp [Along]
  | cons action rest ih =>
      simp only [List.cons_append, Along, ih, run_cons_some]
      constructor
      · rintro ⟨here, later⟩
        refine ⟨⟨here, fun next stepped => (later next stepped).1⟩, ?_⟩
        rintro middle ⟨next, stepped, reached⟩
        exact (later next stepped).2 middle reached
      · rintro ⟨⟨here, first⟩, second⟩
        refine ⟨here, fun next stepped => ⟨first next stepped, ?_⟩⟩
        intro middle reached
        exact second middle ⟨next, stepped, reached⟩

theorem along_mono {weaker : State → Action → Prop}
    (implies : ∀ state action, condition state action → weaker state action)
    {state : State} {actions : List Action} (along : Along step condition state actions) :
    Along step weaker state actions := by
  induction actions generalizing state with
  | nil => trivial
  | cons action rest ih =>
      exact ⟨implies _ _ along.1, fun next stepped => ih (along.2 next stepped)⟩

/-- The invariant rule: what every step that meets the condition preserves holds
at the end of every run whose steps meet it. -/
theorem run_invariant (invariant : State → Prop)
    (preserved : ∀ state action next, invariant state → condition state action →
      step state action = some next → invariant next)
    {state final : State} {actions : List Action}
    (initially : invariant state) (along : Along step condition state actions)
    (reached : run step state actions = some final) : invariant final := by
  induction actions generalizing state with
  | nil =>
      cases reached
      exact initially
  | cons action rest ih =>
      obtain ⟨next, stepped, reached⟩ := run_cons_some.mp reached
      exact ih (preserved state action next initially along.1 stepped)
        (along.2 next stepped) reached

theorem along_true (state : State) (actions : List Action) :
    Along step (fun _ _ => True) state actions := by
  induction actions generalizing state with
  | nil => trivial
  | cons action rest ih => exact ⟨trivial, fun next _ => ih next⟩

/-- The invariant rule without a condition on the steps. -/
theorem run_invariant' (invariant : State → Prop)
    (preserved : ∀ state action next, invariant state →
      step state action = some next → invariant next)
    {state final : State} {actions : List Action}
    (initially : invariant state) (reached : run step state actions = some final) :
    invariant final :=
  run_invariant invariant
    (fun state action next holds _ stepped => preserved state action next holds stepped)
    initially (along_true state actions) reached

/-- The invariant rule for the states of one run, with the places at which they are reached. -/
theorem run_invariant_at (invariant : State → Prop) {start final : State} {actions : List Action}
    (preserved : ∀ earlier action later state next, actions = earlier ++ action :: later →
      run step start earlier = some state → invariant state →
      step state action = some next → invariant next)
    (initially : invariant start) (reached : run step start actions = some final) :
    invariant final := by
  have onwards : ∀ later earlier state, actions = earlier ++ later →
      run step start earlier = some state → invariant state →
      run step state later = some final → invariant final := by
    intro later
    induction later with
    | nil =>
        intro earlier state _ _ holds reached
        cases reached
        exact holds
    | cons action rest ih =>
        intro earlier state isRun here holds reached
        obtain ⟨next, stepped, reached⟩ := run_cons_some.mp reached
        refine ih (earlier ++ [action]) next (by rw [isRun, List.append_assoc]; rfl) ?_
          (preserved earlier action rest state next isRun here holds stepped) reached
        exact run_append_some.mpr ⟨state, here, run_cons_some.mpr ⟨next, stepped, rfl⟩⟩
  exact onwards actions [] start rfl rfl initially reached

theorem along_and {other : State → Action → Prop} {state : State} {actions : List Action}
    (left : Along step condition state actions) (right : Along step other state actions) :
    Along step (fun state action => condition state action ∧ other state action) state
      actions := by
  induction actions generalizing state with
  | nil => trivial
  | cons action rest ih =>
      exact ⟨⟨left.1, right.1⟩, fun next stepped => ih (left.2 next stepped) (right.2 next stepped)⟩

/-- A machine that follows another one, some of whose actions are nothing to it, reaches a
related state. -/
theorem run_simulation {State' : Type u} {Action' : Type v}
    {step' : State' → Action' → Option State'} (erase : Action → Option Action')
    (related : State → State' → Prop)
    (follows : ∀ state state' action next, related state state' → condition state action →
      step state action = some next →
      ∃ next', run step' state' (erase action).toList = some next' ∧ related next next')
    {state final : State} {state' : State'} {actions : List Action}
    (initially : related state state') (along : Along step condition state actions)
    (reached : run step state actions = some final) :
    ∃ final', run step' state' (actions.filterMap erase) = some final' ∧ related final final' := by
  induction actions generalizing state state' with
  | nil =>
      cases reached
      exact ⟨state', rfl, initially⟩
  | cons action rest ih =>
      obtain ⟨next, stepped, reached⟩ := run_cons_some.mp reached
      obtain ⟨next', followed, relates⟩ :=
        follows state state' action next initially along.1 stepped
      obtain ⟨final', reached', related'⟩ := ih relates (along.2 next stepped) reached
      refine ⟨final', ?_, related'⟩
      have split : (action :: rest).filterMap erase =
          (erase action).toList ++ rest.filterMap erase := by
        cases erased : erase action <;> simp [erased]
      rw [split]
      exact run_append_some.mpr ⟨next', followed, reached'⟩

/-- What an invariant gives for each step of a run. -/
theorem along_of_invariant (invariant : State → Prop) {property : State → Action → Prop}
    (preserved : ∀ state action next, invariant state → condition state action →
      step state action = some next → invariant next)
    (gives : ∀ state action, invariant state → condition state action → property state action)
    {state : State} {actions : List Action} (initially : invariant state)
    (along : Along step condition state actions) : Along step property state actions := by
  induction actions generalizing state with
  | nil => trivial
  | cons action rest ih =>
      refine ⟨gives state action initially along.1, fun next stepped => ?_⟩
      exact ih (preserved state action next initially along.1 stepped) (along.2 next stepped)

/-- A step that breaks the condition, split off from the run it stands in. -/
theorem not_along {state : State} {actions : List Action}
    (broken : ¬ Along step condition state actions) :
    ∃ before action after middle, actions = before ++ action :: after ∧
      run step state before = some middle ∧ ¬ condition middle action := by
  induction actions generalizing state with
  | nil => exact absurd trivial broken
  | cons action rest ih =>
      by_cases here : condition state action
      · have later : ∃ next, step state action = some next ∧
            ¬ Along step condition next rest := by
          by_contra none
          refine broken ⟨here, fun next stepped => ?_⟩
          by_contra fails
          exact none ⟨next, stepped, fails⟩
        obtain ⟨next, stepped, fails⟩ := later
        obtain ⟨before, bad, after, middle, rfl, reached, violated⟩ := ih fails
        refine ⟨action :: before, bad, after, middle, rfl, ?_, violated⟩
        exact run_cons_some.mpr ⟨next, stepped, reached⟩
      · exact ⟨[], action, rest, state, rfl, rfl, here⟩

/-- A condition that can be decided at every step can be decided along a run. -/
instance Along.decidable [∀ state action, Decidable (condition state action)] :
    (state : State) → (actions : List Action) →
      Decidable (Along step condition state actions)
  | _, [] => isTrue trivial
  | state, action :: rest =>
      have later : Decidable (∀ next, step state action = some next →
          Along step condition next rest) :=
        match stepped : step state action with
        | none => isTrue (fun _ impossible => by cases impossible)
        | some next =>
            match Along.decidable next rest with
            | isTrue along => isTrue (fun _ same => by cases same; exact along)
            | isFalse broken => isFalse (fun all => broken (all next rfl))
      inferInstanceAs (Decidable (_ ∧ _))

/-- A run of a machine that computes, and a decidable property of where it ends. -/
theorem exists_run (step : State → Action → Option State) (state : State)
    (actions : List Action) (property : State → Prop) [DecidablePred property]
    (evaluates : (run step state actions).any (fun final => decide (property final)) = true) :
    ∃ final, run step state actions = some final ∧ property final := by
  cases reached : run step state actions with
  | none => simp [reached] at evaluates
  | some final => exact ⟨final, rfl, by simpa [reached] using evaluates⟩

end Machine
