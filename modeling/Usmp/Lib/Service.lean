import Mathlib.Data.List.Basic

/-!
# Services

A service answers each input and goes to its next state.  This module has the log of
a run, the rule that compares the logs of two services, and the rule for what every
answer preserves.
-/

namespace Service

variable {State Other Input Output : Type}

/-- Each input with the answer to it. -/
def log (serve : State → Input → State × Output) : State → List Input → List (Input × Output)
  | _, [] => []
  | state, input :: rest => (input, (serve state input).2) :: log serve (serve state input).1 rest

/-- The state after a list of inputs. -/
def after (serve : State → Input → State × Output) (state : State) : List Input → State
  | [] => state
  | input :: rest => after serve (serve state input).1 rest

variable {serve : State → Input → State × Output} {serveOther : Other → Input → Other × Output}

@[simp] theorem log_nil (state : State) : log serve state [] = [] := rfl

@[simp] theorem log_cons (state : State) (input : Input) (rest : List Input) :
    log serve state (input :: rest) =
      (input, (serve state input).2) :: log serve (serve state input).1 rest := rfl

/-- Two services with one log: a relation on their states that looks at the inputs to
come, under which the next answers agree and which the answers preserve. -/
theorem log_eq_log (related : State → Other → List Input → Prop)
    (answers : ∀ state other input rest, related state other (input :: rest) →
      (serve state input).2 = (serveOther other input).2 ∧
        related (serve state input).1 (serveOther other input).1 rest)
    {state : State} {other : Other} {inputs : List Input}
    (initially : related state other inputs) :
    log serve state inputs = log serveOther other inputs := by
  induction inputs generalizing state other with
  | nil => rfl
  | cons input rest ih =>
      have here := answers state other input rest initially
      rw [log_cons, log_cons, here.1, ih here.2]

theorem after_invariant (invariant : State → Prop)
    (preserved : ∀ state input, invariant state → invariant (serve state input).1)
    {state : State} (initially : invariant state) (inputs : List Input) :
    invariant (after serve state inputs) := by
  induction inputs generalizing state with
  | nil => exact initially
  | cons input rest ih => exact ih (preserved state input initially)

end Service
