import Mathlib

/-!
# Runs of machines that several parties move

A machine is a relation between a state, an event and a state after it.  An
invariant is shown once for a step, and a measure that every step lowers bounds the
length of a run.
-/

namespace MotionSense

/-- A list of events takes one state to another. -/
inductive Runs (step : σ → ε → σ → Prop) : σ → List ε → σ → Prop
  | nil (state : σ) : Runs step state [] state
  | cons {state next last : σ} {event : ε} {events : List ε}
      (first : step state event next) (later : Runs step next events last) :
      Runs step state (event :: events) last

namespace Runs

variable {σ ε : Type} {step : σ → ε → σ → Prop} {state last : σ}
  {events : List ε}

/-- What every step keeps holds at the end of a run. -/
theorem invariant
    {holds : σ → Prop}
    (keeps : ∀ {state event next}, step state event next → holds state →
      holds next)
    (runs : Runs step state events last) (starts : holds state) :
    holds last := by
  induction runs with
  | nil => exact starts
  | cons moved _ inductionHypothesis =>
      exact inductionHypothesis (keeps moved starts)

/-- A measure that every step lowers bounds the length of a run. -/
theorem length_le
    {holds : σ → Prop} {lowers : ε → Prop} {measure : σ → Nat}
    (keeps : ∀ {state event next}, step state event next → holds state →
      lowers event → holds next ∧ measure next < measure state)
    (runs : Runs step state events last) (starts : holds state)
    (all : ∀ event ∈ events, lowers event) :
    holds last ∧ events.length + measure last ≤ measure state := by
  induction runs with
  | nil => exact ⟨starts, by simp⟩
  | @cons state next last event events moved _ inductionHypothesis =>
      have lower := keeps moved starts (all _ List.mem_cons_self)
      have later := inductionHypothesis lower.1 fun event member =>
        all event (List.mem_cons_of_mem _ member)
      refine ⟨later.1, ?_⟩
      rw [List.length_cons]
      omega

/-- The state that a list of events leads to, where each event leads to at most
one. -/
def follow (next : σ → ε → Option σ) : σ → List ε → Option σ
  | state, [] => some state
  | state, event :: events =>
      (next state event).bind fun reached => follow next reached events

theorem of_follow
    {next : σ → ε → Option σ}
    (sound : ∀ {state event reached}, next state event = some reached →
      step state event reached)
    (leads : follow next state events = some last) :
    Runs step state events last := by
  induction events generalizing state with
  | nil =>
      obtain rfl := Option.some.inj leads
      exact .nil _
  | cons event events inductionHypothesis =>
      obtain ⟨reached, moved, later⟩ := Option.bind_eq_some_iff.mp leads
      exact .cons (sound moved) (inductionHypothesis later)

end Runs
end MotionSense
