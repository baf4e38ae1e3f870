import Mathlib

/-!
# Programs that the environment can stop at any step

A program reads and writes a state and, at each call it makes, asks its
environment how the call turns out.  A finite script supplies the answers; when
the script is used up the program stops where it is, which models loss of power
between two calls.  Weakest preconditions therefore carry two conditions: one
for the states in which the program returns and one for the states in which it
may be stopped.
-/

namespace MotionSense

/-- A program over environment answers `χ`, state `σ` and result `α`. -/
inductive Program (χ σ α : Type) : Type
  | pure (value : α)
  | ask (next : χ → Program χ σ α)
  | get (next : σ → Program χ σ α)
  | put (state : σ) (next : Program χ σ α)
  | halt

namespace Program

/-- What is left after a run: a result with the unused script, or the state in
which the run was stopped. -/
inductive Outcome (χ σ α : Type) : Type
  | done (value : α) (state : σ) (script : List χ)
  | halted (state : σ)

namespace Outcome

/-- The state at the end of a run, however the run ended. -/
def state : Outcome χ σ α → σ
  | .done _ state _ => state
  | .halted state => state

/-- The result of a run that returned. -/
def value : Outcome χ σ α → Option α
  | .done value _ _ => some value
  | .halted _ => none

@[simp] theorem state_done (value : α) (state : σ) (script : List χ) :
    (done value state script).state = state := rfl

@[simp] theorem state_halted (state : σ) :
    (halted state : Outcome χ σ α).state = state := rfl

/-- An outcome meets a postcondition when it returned and a halting condition
when it was stopped. -/
def Meets (post : α → σ → Prop) (stopped : σ → Prop) :
    Outcome χ σ α → Prop
  | .done value state _ => post value state
  | .halted state => stopped state

instance
    (post : α → σ → Prop) (stopped : σ → Prop)
    [∀ value state, Decidable (post value state)]
    [DecidablePred stopped] :
    (outcome : Outcome χ σ α) → Decidable (outcome.Meets post stopped)
  | .done value state _ => inferInstanceAs (Decidable (post value state))
  | .halted state => inferInstanceAs (Decidable (stopped state))

/-- A condition on every ending holds of the final state. -/
theorem Meets.state
    {condition : σ → Prop}
    {outcome : Outcome χ σ α}
    (meets : outcome.Meets (fun _ => condition) condition) :
    condition outcome.state := by
  cases outcome <;> exact meets

/-- Weakening both conditions. -/
theorem Meets.mono
    {post weakerPost : α → σ → Prop}
    {stopped weakerStopped : σ → Prop}
    {outcome : Outcome χ σ α}
    (meets : outcome.Meets post stopped)
    (onReturn : ∀ value state, post value state → weakerPost value state)
    (onStop : ∀ state, stopped state → weakerStopped state) :
    outcome.Meets weakerPost weakerStopped := by
  cases outcome with
  | done value state script => exact onReturn value state meets
  | halted state => exact onStop state meets

end Outcome

/-- Sequential composition. -/
def bind : Program χ σ α → (α → Program χ σ β) → Program χ σ β
  | .pure value, rest => rest value
  | .ask next, rest => .ask fun answer => (next answer).bind rest
  | .get next, rest => .get fun state => (next state).bind rest
  | .put state next, rest => .put state (next.bind rest)
  | .halt, _ => .halt

instance : Monad (Program χ σ) where
  pure := .pure
  bind := bind

/-- Learn how the next call turns out. -/
def answer : Program χ σ χ := .ask .pure

/-- Read the current state. -/
def current : Program χ σ σ := .get .pure

/-- Change the current state. -/
def modify (update : σ → σ) : Program χ σ Unit :=
  .get fun state => .put (update state) (.pure ())

/-- Run a program on a script of answers. -/
def run : Program χ σ α → σ → List χ → Outcome χ σ α
  | .pure value, state, script => .done value state script
  | .ask _, state, [] => .halted state
  | .ask next, state, answer :: script => (next answer).run state script
  | .get next, state, script => (next state).run state script
  | .put state next, _, script => next.run state script
  | .halt, state, _ => .halted state

/-- Weakest precondition for a postcondition and a halting condition. -/
def wp : Program χ σ α → (α → σ → Prop) → (σ → Prop) → σ → Prop
  | .pure value, post, _, state => post value state
  | .ask next, post, stopped, state =>
      stopped state ∧ ∀ answer, (next answer).wp post stopped state
  | .get next, post, stopped, state => (next state).wp post stopped state
  | .put state next, post, stopped, _ => next.wp post stopped state
  | .halt, _, stopped, state => stopped state

/-! ## Rules of the weakest precondition -/

@[simp] theorem wp_pure
    (value : α) (post : α → σ → Prop) (stopped : σ → Prop) (state : σ) :
    (Pure.pure value : Program χ σ α).wp post stopped state =
      post value state := rfl

@[simp] theorem wp_halt
    (post : α → σ → Prop) (stopped : σ → Prop) (state : σ) :
    (halt : Program χ σ α).wp post stopped state = stopped state := rfl

@[simp] theorem wp_answer
    (post : χ → σ → Prop) (stopped : σ → Prop) (state : σ) :
    (answer : Program χ σ χ).wp post stopped state =
      (stopped state ∧ ∀ given, post given state) := rfl

@[simp] theorem wp_current
    (post : σ → σ → Prop) (stopped : σ → Prop) (state : σ) :
    (current : Program χ σ σ).wp post stopped state =
      post state state := rfl

@[simp] theorem wp_modify
    (update : σ → σ) (post : Unit → σ → Prop) (stopped : σ → Prop)
    (state : σ) :
    (modify update : Program χ σ Unit).wp post stopped state =
      post () (update state) := rfl

/-- Sequencing nests weakest preconditions. -/
@[simp] theorem wp_bind
    (program : Program χ σ α)
    (rest : α → Program χ σ β)
    (post : β → σ → Prop)
    (stopped : σ → Prop)
    (state : σ) :
    (program >>= rest).wp post stopped state =
      program.wp (fun value => (rest value).wp post stopped)
        stopped state := by
  change (program.bind rest).wp post stopped state = _
  induction program generalizing state with
  | pure value => rfl
  | ask next inductionHypothesis =>
      simp only [bind, wp, inductionHypothesis]
  | get next inductionHypothesis =>
      simp only [bind, wp, inductionHypothesis]
  | put written next inductionHypothesis =>
      simp only [bind, wp, inductionHypothesis]
  | halt => rfl

@[simp] theorem wp_ite
    (condition : Prop) [Decidable condition]
    (first second : Program χ σ α)
    (post : α → σ → Prop) (stopped : σ → Prop) (state : σ) :
    (if condition then first else second).wp post stopped state =
      if condition then first.wp post stopped state
      else second.wp post stopped state := by
  split <;> rfl

/-- Weakening the postcondition and the halting condition. -/
theorem wp_mono
    {program : Program χ σ α}
    {post weakerPost : α → σ → Prop}
    {stopped weakerStopped : σ → Prop}
    {state : σ}
    (holds : program.wp post stopped state)
    (onReturn : ∀ value state, post value state → weakerPost value state)
    (onStop : ∀ state, stopped state → weakerStopped state) :
    program.wp weakerPost weakerStopped state := by
  induction program generalizing state with
  | pure value => exact onReturn value state holds
  | ask next inductionHypothesis =>
      exact ⟨onStop state holds.1,
        fun answer => inductionHypothesis answer (holds.2 answer)⟩
  | get next inductionHypothesis => exact inductionHypothesis state holds
  | put written next inductionHypothesis => exact inductionHypothesis holds
  | halt => exact onStop state holds

/-- Sequencing through an intermediate condition. -/
theorem wp_then
    {program : Program χ σ α}
    {rest : α → Program χ σ β}
    {middle : α → σ → Prop}
    {post : β → σ → Prop}
    {stopped : σ → Prop}
    {state : σ}
    (first : program.wp middle stopped state)
    (second : ∀ value reached, middle value reached →
      (rest value).wp post stopped reached) :
    (program >>= rest).wp post stopped state := by
  rw [wp_bind]
  exact wp_mono first second fun _ stops => stops

/-- The form that names the intermediate condition. -/
theorem wp_via
    {program : Program χ σ α}
    {rest : α → Program χ σ β}
    (middle : α → σ → Prop)
    {post : β → σ → Prop}
    {stopped : σ → Prop}
    {state : σ}
    (first : program.wp middle stopped state)
    (second : ∀ value reached, middle value reached →
      (rest value).wp post stopped reached) :
    (program >>= rest).wp post stopped state :=
  wp_then first second

/-- Both branches of a conditional. -/
theorem wp_split
    {condition : Prop} [Decidable condition]
    {first second : Program χ σ α}
    {post : α → σ → Prop}
    {stopped : σ → Prop}
    {state : σ}
    (whenTrue : condition → first.wp post stopped state)
    (whenFalse : ¬condition → second.wp post stopped state) :
    (if condition then first else second).wp post stopped state := by
  split
  · exact whenTrue ‹_›
  · exact whenFalse ‹_›

/-- Two facts about one run hold together. -/
theorem wp_and
    {program : Program χ σ α}
    {firstPost secondPost : α → σ → Prop}
    {firstStopped secondStopped : σ → Prop}
    {state : σ}
    (first : program.wp firstPost firstStopped state)
    (second : program.wp secondPost secondStopped state) :
    program.wp
      (fun value state => firstPost value state ∧ secondPost value state)
      (fun state => firstStopped state ∧ secondStopped state) state := by
  induction program generalizing state with
  | pure value => exact ⟨first, second⟩
  | ask next inductionHypothesis =>
      exact ⟨⟨first.1, second.1⟩, fun answer =>
        inductionHypothesis answer (first.2 answer) (second.2 answer)⟩
  | get next inductionHypothesis => exact inductionHypothesis state first second
  | put written next inductionHypothesis =>
      exact inductionHypothesis first second
  | halt => exact ⟨first, second⟩

/-- The weakest precondition describes every run of the program. -/
theorem wp_iff_run
    (program : Program χ σ α)
    (post : α → σ → Prop)
    (stopped : σ → Prop)
    (state : σ) :
    program.wp post stopped state ↔
      ∀ script, (program.run state script).Meets post stopped := by
  induction program generalizing state with
  | pure value => simp [wp, run, Outcome.Meets]
  | ask next inductionHypothesis =>
      simp only [wp, inductionHypothesis]
      constructor
      · rintro ⟨atStop, later⟩ (_ | ⟨answer, script⟩)
        · exact atStop
        · exact later answer script
      · intro every
        exact ⟨every [], fun answer script => every (answer :: script)⟩
  | get next inductionHypothesis => simp only [wp, run, inductionHypothesis]
  | put written next inductionHypothesis =>
      simp only [wp, run, inductionHypothesis]
  | halt => simp [wp, run, Outcome.Meets]

/-- Nothing is promised. -/
theorem wp_true (program : Program χ σ α) (state : σ) :
    program.wp (fun _ _ => True) (fun _ => True) state := by
  rw [wp_iff_run]
  intro script
  cases program.run state script <;> trivial

/-! ## Answers through a function -/

/-- Let every answer of the environment go through a function. -/
def relabel (through : χ → χ) : Program χ σ α → Program χ σ α
  | .pure value => .pure value
  | .ask next => .ask fun answer => (next (through answer)).relabel through
  | .get next => .get fun state => (next state).relabel through
  | .put state next => .put state (next.relabel through)
  | .halt => .halt

@[simp] theorem relabel_pure (through : χ → χ) (value : α) :
    (Pure.pure value : Program χ σ α).relabel through = Pure.pure value := rfl

@[simp] theorem relabel_halt (through : χ → χ) :
    (halt : Program χ σ α).relabel through = halt := rfl

@[simp] theorem relabel_current (through : χ → χ) :
    (current : Program χ σ σ).relabel through = current := rfl

@[simp] theorem relabel_modify (through : χ → χ) (update : σ → σ) :
    (modify update : Program χ σ Unit).relabel through = modify update := rfl

@[simp] theorem relabel_answer (through : χ → χ) :
    (answer : Program χ σ χ).relabel through =
      answer >>= fun given => Pure.pure (through given) := rfl

@[simp] theorem relabel_bind
    (through : χ → χ)
    (program : Program χ σ α)
    (rest : α → Program χ σ β) :
    (program >>= rest).relabel through =
      program.relabel through >>= fun value =>
        (rest value).relabel through := by
  change (program.bind rest).relabel through =
    (program.relabel through).bind _
  induction program with
  | pure value => rfl
  | ask next inductionHypothesis =>
      simp only [bind, relabel, inductionHypothesis]
  | get next inductionHypothesis =>
      simp only [bind, relabel, inductionHypothesis]
  | put written next inductionHypothesis =>
      simp only [bind, relabel, inductionHypothesis]
  | halt => rfl

@[simp] theorem relabel_ite
    (through : χ → χ)
    (condition : Prop) [Decidable condition]
    (first second : Program χ σ α) :
    (if condition then first else second).relabel through =
      if condition then first.relabel through
      else second.relabel through := by
  split <;> rfl

/-- What holds for all answers holds for those that go through a function. -/
theorem wp_relabel
    {program : Program χ σ α}
    {post : α → σ → Prop}
    {stopped : σ → Prop}
    {state : σ}
    (holds : program.wp post stopped state)
    (through : χ → χ) :
    (program.relabel through).wp post stopped state := by
  induction program generalizing state with
  | pure value => exact holds
  | ask next inductionHypothesis =>
      exact ⟨holds.1, fun answer =>
        inductionHypothesis _ (holds.2 (through answer))⟩
  | get next inductionHypothesis => exact inductionHypothesis state holds
  | put written next inductionHypothesis => exact inductionHypothesis holds
  | halt => exact holds

/-- Only what the function makes of the answers that are given matters. -/
theorem run_relabel_congr
    {first second : χ → χ}
    (program : Program χ σ α)
    {state : σ}
    {script : List χ}
    (same : ∀ answer ∈ script, first answer = second answer) :
    (program.relabel first).run state script =
      (program.relabel second).run state script := by
  induction program generalizing state script with
  | pure value => rfl
  | ask next inductionHypothesis =>
      cases script with
      | nil => rfl
      | cons answer script =>
          change ((next (first answer)).relabel first).run state script =
            ((next (second answer)).relabel second).run state script
          rw [same answer List.mem_cons_self]
          exact inductionHypothesis _ fun other there =>
            same other (List.mem_cons_of_mem _ there)
  | get next inductionHypothesis => exact inductionHypothesis _ same
  | put written next inductionHypothesis => exact inductionHypothesis same
  | halt => rfl

/-! ## A part of the state -/

/-- A part of a state that can be read and replaced. -/
structure Part (τ σ : Type) where
  get : τ → σ
  set : τ → σ → τ
  get_set : ∀ whole part, get (set whole part) = part
  set_get : ∀ whole, set whole (get whole) = whole
  set_set : ∀ whole first second,
    set (set whole first) second = set whole second

/-- Run a program on a part of the state, with its own answers. -/
def onPart (part : Part τ σ) (own : ω → χ) :
    Program χ σ α → Program ω τ α
  | .pure value => .pure value
  | .ask next => .ask fun answer => (next (own answer)).onPart part own
  | .get next => .get fun whole => (next (part.get whole)).onPart part own
  | .put state next =>
      .get fun whole => .put (part.set whole state) (next.onPart part own)
  | .halt => .halt

/-- The rest of the state stays as it is. -/
theorem wp_onPart
    {part : Part τ σ} {own : ω → χ}
    {program : Program χ σ α}
    {post : α → τ → Prop}
    {stopped : τ → Prop}
    {whole : τ}
    (holds : program.wp (fun value state => post value (part.set whole state))
      (fun state => stopped (part.set whole state)) (part.get whole)) :
    (program.onPart part own).wp post stopped whole := by
  induction program generalizing whole with
  | pure value =>
      change post value (part.set whole (part.get whole)) at holds
      rw [part.set_get] at holds
      exact holds
  | ask next inductionHypothesis =>
      obtain ⟨stops, later⟩ := holds
      rw [part.set_get] at stops
      exact ⟨stops, fun answer => inductionHypothesis _ (later (own answer))⟩
  | get next inductionHypothesis => exact inductionHypothesis _ holds
  | put state next inductionHypothesis =>
      refine @inductionHypothesis (part.set whole state) ?_
      rw [part.get_set]
      refine wp_mono holds (fun value reached ends => ?_) fun reached ends => ?_
      · rw [part.set_set]
        exact ends
      · rw [part.set_set]
        exact ends
  | halt =>
      change stopped (part.set whole (part.get whole)) at holds
      rw [part.set_get] at holds
      exact holds

/-! ## Loops over a list -/

/-- Run a program for each element of a list. -/
def forEach (body : ι → Program χ σ Unit) : List ι → Program χ σ Unit
  | [] => Pure.pure ()
  | item :: items => body item >>= fun _ => forEach body items

/-- An invariant kept by the body of a loop is kept by the loop. -/
theorem wp_forEach
    {body : ι → Program χ σ Unit}
    {invariant stopped : σ → Prop}
    (step : ∀ item state, invariant state →
      (body item).wp (fun _ => invariant) stopped state)
    (items : List ι)
    (state : σ)
    (holds : invariant state) :
    (forEach body items).wp (fun _ => invariant) stopped state := by
  induction items generalizing state with
  | nil => exact holds
  | cons item items inductionHypothesis =>
      rw [forEach, wp_bind]
      exact wp_mono (step item state holds)
        (fun _ next keeps => inductionHypothesis next keeps)
        (fun _ stops => stops)

/-! ## Step relations -/

/-- Every write of the program is a step of the relation, so that the states
it passes through form a path of the relation. -/
def Within (step : σ → σ → Prop) (program : Program χ σ α) : Prop :=
  ∀ state, program.wp
    (fun _ => Relation.ReflTransGen step state)
    (Relation.ReflTransGen step state) state

/-- A predicate closed under the steps is kept by the program, at its return
and wherever it is stopped. -/
theorem Within.keeps
    {step : σ → σ → Prop}
    {program : Program χ σ α}
    (within : program.Within step)
    {invariant : σ → Prop}
    (closed : ∀ before after, step before after →
      invariant before → invariant after)
    (state : σ)
    (holds : invariant state) :
    program.wp (fun _ => invariant) invariant state := by
  have carried : ∀ after, Relation.ReflTransGen step state after →
      invariant after := by
    intro after path
    induction path with
    | refl => exact holds
    | tail _ last earlier => exact closed _ _ last earlier
  exact wp_mono (within state) (fun _ => carried) carried

/-- What no step changes, the program does not change. -/
theorem Within.preserves
    {step : σ → σ → Prop}
    {program : Program χ σ α}
    (within : program.Within step)
    {view : σ → β}
    (kept : ∀ before after, step before after → view after = view before)
    (state : σ) :
    program.wp (fun _ after => view after = view state)
      (fun after => view after = view state) state :=
  @Within.keeps _ _ _ _ _ within (fun after => view after = view state)
    (fun before after step same => (kept before after step).trans same)
    state rfl

theorem Within.mono
    {small large : σ → σ → Prop}
    {program : Program χ σ α}
    (within : program.Within small)
    (included : ∀ before after, small before after → large before after) :
    program.Within large := fun state =>
  wp_mono (within state)
    (fun _ _ path => Relation.ReflTransGen.mono included _ _ path)
    (fun _ path => Relation.ReflTransGen.mono included _ _ path)

theorem Within.pure {step : σ → σ → Prop} (value : α) :
    (Pure.pure value : Program χ σ α).Within step :=
  fun _ => .refl

theorem Within.halt {step : σ → σ → Prop} :
    (Program.halt : Program χ σ α).Within step :=
  fun _ => .refl

/-- A path to a state goes on through a program. -/
theorem Within.after
    {step : σ → σ → Prop}
    {program : Program χ σ α}
    (within : program.Within step)
    {start state : σ}
    (path : Relation.ReflTransGen step start state) :
    program.wp (fun _ => Relation.ReflTransGen step start)
      (Relation.ReflTransGen step start) state :=
  wp_mono (within state) (fun _ _ later => path.trans later)
    fun _ later => path.trans later

/-- A path through the first program goes on through the second. -/
theorem Within.continue
    {step : σ → σ → Prop}
    {program : Program χ σ α}
    {rest : α → Program χ σ β}
    {state : σ}
    (first : program.wp (fun _ => Relation.ReflTransGen step state)
      (Relation.ReflTransGen step state) state)
    (second : ∀ value, (rest value).Within step) :
    (program >>= rest).wp (fun _ => Relation.ReflTransGen step state)
      (Relation.ReflTransGen step state) state :=
  wp_then first fun value _ path => (second value).after path

theorem Within.bind
    {step : σ → σ → Prop}
    {program : Program χ σ α}
    {rest : α → Program χ σ β}
    (first : program.Within step)
    (second : ∀ value, (rest value).Within step) :
    (program >>= rest).Within step :=
  fun state => Within.continue (first state) second

theorem Within.answer {step : σ → σ → Prop} :
    (Program.answer : Program χ σ χ).Within step :=
  fun _ => ⟨.refl, fun _ => .refl⟩

theorem Within.current {step : σ → σ → Prop} :
    (Program.current : Program χ σ σ).Within step :=
  fun _ => .refl

/-- After reading the state, the rest may use what was read. -/
theorem Within.bindCurrent
    {step : σ → σ → Prop}
    {rest : σ → Program χ σ α}
    (later : ∀ state, (rest state).wp
      (fun _ => Relation.ReflTransGen step state)
      (Relation.ReflTransGen step state) state) :
    (Program.current >>= rest).Within step := by
  intro state
  rw [wp_bind, wp_current]
  exact later state

theorem Within.modify
    {step : σ → σ → Prop}
    {update : σ → σ}
    (allowed : ∀ state, step state (update state)) :
    (Program.modify update : Program χ σ Unit).Within step :=
  fun state => .single (allowed state)

theorem Within.ite
    {step : σ → σ → Prop}
    {condition : Prop} [Decidable condition]
    {first second : Program χ σ α}
    (whenTrue : condition → first.Within step)
    (whenFalse : ¬condition → second.Within step) :
    (if condition then first else second).Within step := by
  split
  · exact whenTrue ‹_›
  · exact whenFalse ‹_›

end Program
end MotionSense
