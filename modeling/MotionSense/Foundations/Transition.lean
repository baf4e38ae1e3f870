import Mathlib

/-!
# Runs of deterministic machines

A machine takes one event at a time; its nondeterminism is in the events.  A run
is a fold of the step function, and `Along` says that every step of a run meets a
condition on the state before it and the event.
-/

namespace MotionSense
namespace Transition

variable {σ ε : Type}

/-- State after a list of events. -/
def run (step : σ → ε → σ) (state : σ) (events : List ε) : σ :=
  events.foldl step state

@[simp] theorem run_nil (step : σ → ε → σ) (state : σ) :
    run step state [] = state := rfl

@[simp] theorem run_cons
    (step : σ → ε → σ) (state : σ) (event : ε) (events : List ε) :
    run step state (event :: events) =
      run step (step state event) events := rfl

theorem run_append
    (step : σ → ε → σ) (state : σ) (first second : List ε) :
    run step state (first ++ second) =
      run step (run step state first) second :=
  List.foldl_append

/-- Every step of the run meets a condition on the state before it. -/
def Along (step : σ → ε → σ) (condition : σ → ε → Prop) :
    σ → List ε → Prop
  | _, [] => True
  | state, event :: events =>
      condition state event ∧ Along step condition (step state event) events

@[simp] theorem along_nil
    (step : σ → ε → σ) (condition : σ → ε → Prop) (state : σ) :
    Along step condition state [] := trivial

@[simp] theorem along_cons
    (step : σ → ε → σ) (condition : σ → ε → Prop) (state : σ)
    (event : ε) (events : List ε) :
    Along step condition state (event :: events) ↔
      condition state event ∧
        Along step condition (step state event) events := Iff.rfl

instance Along.decidable
    (step : σ → ε → σ) (condition : σ → ε → Prop)
    [∀ state event, Decidable (condition state event)] :
    ∀ state events, Decidable (Along step condition state events)
  | _, [] => .isTrue trivial
  | state, event :: events =>
      have := Along.decidable step condition (step state event) events
      inferInstanceAs (Decidable (_ ∧ _))

/-- An invariant kept by every step that meets the condition holds at the end
of every run whose steps meet it. -/
theorem run_invariant
    {step : σ → ε → σ}
    {condition : σ → ε → Prop}
    {invariant : σ → Prop}
    (keeps : ∀ state event, condition state event →
      invariant state → invariant (step state event))
    {state : σ}
    {events : List ε}
    (along : Along step condition state events)
    (starts : invariant state) :
    invariant (run step state events) := by
  induction events generalizing state with
  | nil => exact starts
  | cons event events inductionHypothesis =>
      exact inductionHypothesis along.2 (keeps state event along.1 starts)

/-- The form for invariants kept by every step. -/
theorem run_invariant_of_step
    {step : σ → ε → σ}
    {invariant : σ → Prop}
    (keeps : ∀ state event, invariant state → invariant (step state event))
    {state : σ}
    (events : List ε)
    (starts : invariant state) :
    invariant (run step state events) := by
  induction events generalizing state with
  | nil => exact starts
  | cons event events inductionHypothesis =>
      exact inductionHypothesis (keeps state event starts)

/-! ## Machines in which not every event is enabled -/

/-- State after a list of events, each enabled in its turn. -/
def runEnabled (step : σ → ε → Option σ) (state : σ) (events : List ε) :
    Option σ :=
  events.foldlM step state

@[simp] theorem runEnabled_nil (step : σ → ε → Option σ) (state : σ) :
    runEnabled step state [] = some state := rfl

theorem runEnabled_cons_eq_some
    {step : σ → ε → Option σ} {state final : σ} {event : ε}
    {events : List ε} :
    runEnabled step state (event :: events) = some final ↔
      ∃ next, step state event = some next ∧
        runEnabled step next events = some final := by
  rw [runEnabled, List.foldlM_cons]
  exact Option.bind_eq_some_iff

/-- An invariant kept by every enabled step holds at the end of a run. -/
theorem runEnabled_invariant
    {step : σ → ε → Option σ}
    {invariant : σ → Prop}
    (keeps : ∀ state event next, step state event = some next →
      invariant state → invariant next)
    {state final : σ}
    {events : List ε}
    (ran : runEnabled step state events = some final)
    (starts : invariant state) :
    invariant final := by
  induction events generalizing state with
  | nil =>
      obtain rfl := Option.some.inj ran
      exact starts
  | cons event events inductionHypothesis =>
      obtain ⟨next, stepped, later⟩ := runEnabled_cons_eq_some.mp ran
      exact inductionHypothesis later (keeps state event next stepped starts)

/-- A view that only some events change, as a function of the view, is at the
end of a run what these events make of it. -/
theorem view_runEnabled
    {step : σ → ε → Option σ}
    {invariant : σ → Prop}
    (keeps : ∀ state event next, step state event = some next →
      invariant state → invariant next)
    {view : σ → ν}
    {concerns : ε → Bool}
    {change : ν → ε → ν}
    (sees : ∀ state event next, invariant state →
      step state event = some next →
        view next =
          if concerns event then change (view state) event else view state)
    {state final : σ}
    {events : List ε}
    (ran : runEnabled step state events = some final)
    (starts : invariant state) :
    view final = (events.filter concerns).foldl change (view state) := by
  induction events generalizing state with
  | nil =>
      obtain rfl := Option.some.inj ran
      rfl
  | cons event events inductionHypothesis =>
      obtain ⟨next, stepped, later⟩ := runEnabled_cons_eq_some.mp ran
      have first := sees state event next starts stepped
      rw [inductionHypothesis later (keeps state event next stepped starts),
        first, List.filter_cons]
      split <;> rfl

end Transition
end MotionSense
