import MotionSense.Foundations.Runs

/-!
# Monitors

Threads call the operations of one object, which has a mutex and a condition
variable.  An operation takes the mutex; its critical section either has an effect,
after which it may signal or broadcast, or it waits and then starts again.  A signal
wakes at least one of the threads that wait, and a wait may also end without any.
-/

namespace MotionSense

/-- Whom a critical section wakes before it releases the mutex. -/
inductive Wakes
  | nobody
  | one
  | all
  deriving DecidableEq

/-- The effect of a critical section on the object, and what its caller gets. -/
structure Effect (σ ρ : Type) where
  object : σ
  result : ρ
  wakes : Wakes

/-- What the critical section of each operation does; without an effect it waits. -/
structure Monitor (σ ω ρ : Type) where
  body : σ → ω → Option (Effect σ ρ)

namespace Monitor

/-- Where a thread is. -/
inductive Phase (ω : Type)
  | idle
  /-- Before the mutex. -/
  | calls (op : ω)
  /-- At the start of the critical section. -/
  | holds (op : ω)
  /-- On the condition variable. -/
  | waits (op : ω)
  /-- Back from the condition variable, before the mutex. -/
  | woken (op : ω)
  /-- At the signal. -/
  | signals
  /-- At the broadcast. -/
  | broadcasts
  /-- At the release of the mutex. -/
  | unlocks
  deriving DecidableEq

namespace Phase

/-- Where a thread is after the effect of its critical section. -/
def after : Wakes → Phase ω
  | .nobody => .unlocks
  | .one => .signals
  | .all => .broadcasts

/-- The thread has the mutex. -/
def inside : Phase ω → Bool
  | .holds _ | .signals | .broadcasts | .unlocks => true
  | .idle | .calls _ | .waits _ | .woken _ => false

/-- The thread is on the condition variable. -/
def asleep : Phase ω → Bool
  | .waits _ => true
  | _ => false

/-- The end of a wait. -/
def wake : Phase ω → Phase ω
  | .waits op => .woken op
  | other => other

/-- A bound on the steps that a thread has before it in its call, if it does not
wait again. -/
def steps : Phase ω → Nat
  | .idle => 0
  | .unlocks => 1
  | .signals | .broadcasts => 2
  | .holds _ => 3
  | .calls _ | .woken _ => 4
  | .waits _ => 5

/-- How much work a thread is about to take, or to hand on. -/
def owes (takes : ω → Bool) : Phase ω → Nat
  | .holds op | .woken op => if takes op then 1 else 0
  | .signals => 1
  | _ => 0

/-- The operation of which a thread has still to do the critical section. -/
def op : Phase ω → Option ω
  | .calls op | .holds op | .waits op | .woken op => some op
  | _ => none

theorem op_wake (phase : Phase ω) : phase.wake.op = phase.op := by
  cases phase <;> rfl

theorem op_after (wakes : Wakes) : (after wakes : Phase ω).op = none := by
  cases wakes <;> rfl

theorem asleep_iff {phase : Phase ω} :
    phase.asleep = true ↔ ∃ op, phase = .waits op := by
  cases phase <;> simp [asleep]

theorem inside_wake (phase : Phase ω) : phase.wake.inside = phase.inside := by
  cases phase <;> rfl

theorem inside_after (wakes : Wakes) : (after wakes : Phase ω).inside = true := by
  cases wakes <;> rfl

theorem asleep_after (wakes : Wakes) :
    (after wakes : Phase ω).asleep = false := by
  cases wakes <;> rfl

theorem steps_after_le (wakes : Wakes) : (after wakes : Phase ω).steps ≤ 2 := by
  cases wakes <;> simp [after, steps]

theorem asleep_wake (phase : Phase ω) : phase.wake.asleep = false := by
  cases phase <;> rfl

theorem steps_le (phase : Phase ω) : phase.steps ≤ 5 := by
  cases phase <;> simp [steps]

theorem owes_wake_le (takes : ω → Bool) (phase : Phase ω) :
    phase.owes takes ≤ phase.wake.owes takes := by
  cases phase <;> simp [owes, wake]

theorem steps_wake_le (phase : Phase ω) : phase.wake.steps ≤ phase.steps := by
  cases phase <;> simp [steps, wake]

end Phase

/-- The object and its threads, with a record of the operations that have had their
effect, which no step reads. -/
structure Threads (σ ω ρ τ : Type) where
  object : σ
  owner : Option τ := none
  phase : τ → Phase ω := fun _ => .idle
  /-- What the last call of a thread has given it. -/
  result : τ → Option ρ := fun _ => none
  history : List ω := []

/-- What a thread does next. -/
inductive Action (ω τ : Type)
  | call (thread : τ) (op : ω)
  | lock (thread : τ)
  | body (thread : τ)
  /-- The signal, and the threads that it wakes. -/
  | signal (thread : τ) (chosen : Finset τ)
  | broadcast (thread : τ)
  | unlock (thread : τ)
  /-- A wait ends without a signal. -/
  | wake (thread : τ)

/-- A thread goes on of itself. -/
def Action.proceeds : Action ω τ → Bool
  | .call _ _ | .wake _ => false
  | _ => true

/-- The thread begins a call. -/
def Action.calls : Action ω τ → Bool
  | .call _ _ => true
  | _ => false

section Steps

variable {σ ω ρ τ : Type}

namespace Threads

/-- Some waits end. -/
def rouse (threads : Threads σ ω ρ τ) (chosen : τ → Bool) : Threads σ ω ρ τ :=
  { threads with
    phase := fun thread =>
      if chosen thread then (threads.phase thread).wake
      else threads.phase thread }

variable [DecidableEq τ]

def move
    (threads : Threads σ ω ρ τ) (thread : τ) (phase : Phase ω) :
    Threads σ ω ρ τ :=
  { threads with phase := Function.update threads.phase thread phase }

/-- The effect of a critical section. -/
def commit
    (threads : Threads σ ω ρ τ) (thread : τ) (op : ω) (effect : Effect σ ρ) :
    Threads σ ω ρ τ :=
  { threads.move thread (.after effect.wakes) with
    object := effect.object
    result := Function.update threads.result thread (some effect.result)
    history := threads.history ++ [op] }

end Threads

/-- The steps of the threads. -/
inductive Step [DecidableEq τ] (monitor : Monitor σ ω ρ) (threads : Threads σ ω ρ τ) :
    Action ω τ → Threads σ ω ρ τ → Prop
  | call {thread : τ} (op : ω) (idle : threads.phase thread = .idle) :
      Step monitor threads (.call thread op) (threads.move thread (.calls op))
  | lock {thread : τ} {op : ω} (free : threads.owner = none)
      (ready : threads.phase thread = .calls op ∨
        threads.phase thread = .woken op) :
      Step monitor threads (.lock thread)
        { threads.move thread (.holds op) with owner := some thread }
  | body {thread : τ} {op : ω} {effect : Effect σ ρ}
      (holds : threads.phase thread = .holds op)
      (effects : monitor.body threads.object op = some effect) :
      Step monitor threads (.body thread) (threads.commit thread op effect)
  /-- The wait releases the mutex. -/
  | wait {thread : τ} {op : ω} (holds : threads.phase thread = .holds op)
      (waits : monitor.body threads.object op = none) :
      Step monitor threads (.body thread)
        { threads.move thread (.waits op) with owner := none }
  | signal {thread : τ} (chosen : Finset τ)
      (signals : threads.phase thread = .signals)
      (sleeping : ∀ other ∈ chosen, (threads.phase other).asleep = true)
      (least : ∀ other, (threads.phase other).asleep = true →
        chosen.Nonempty) :
      Step monitor threads (.signal thread chosen)
        ((threads.rouse fun other => other ∈ chosen).move thread .unlocks)
  | broadcast {thread : τ} (broadcasts : threads.phase thread = .broadcasts) :
      Step monitor threads (.broadcast thread)
        ((threads.rouse fun _ => true).move thread .unlocks)
  | unlock {thread : τ} (unlocks : threads.phase thread = .unlocks) :
      Step monitor threads (.unlock thread)
        { threads.move thread .idle with owner := none }
  | wake {thread : τ} (waits : (threads.phase thread).asleep = true) :
      Step monitor threads (.wake thread)
        (threads.rouse fun other => other = thread)

/-! ## Mutual exclusion -/

variable {monitor : Monitor σ ω ρ} {threads after : Threads σ ω ρ τ}
  {action : Action ω τ}

/-- The owner of the mutex is the thread in the critical section. -/
def Exclusive (threads : Threads σ ω ρ τ) : Prop :=
  ∀ thread, threads.owner = some thread ↔
    (threads.phase thread).inside = true

theorem inside_rouse (chosen : τ → Bool) (thread : τ) :
    ((threads.rouse chosen).phase thread).inside =
      (threads.phase thread).inside := by
  simp only [Threads.rouse]
  split
  · exact Phase.inside_wake _
  · rfl

theorem owes_le_rouse (takes : ω → Bool) (chosen : τ → Bool) (thread : τ) :
    (threads.phase thread).owes takes ≤
      ((threads.rouse chosen).phase thread).owes takes := by
  simp only [Threads.rouse]
  split
  · exact Phase.owes_wake_le takes _
  · exact le_rfl

theorem steps_rouse_le
    (threads : Threads σ ω ρ τ) (chosen : τ → Bool) (thread : τ) :
    ((threads.rouse chosen).phase thread).steps ≤
      (threads.phase thread).steps := by
  simp only [Threads.rouse]
  split
  · exact Phase.steps_wake_le _
  · exact le_rfl

theorem waits_of_rouse
    {chosen : τ → Bool} {thread : τ} {op : ω}
    (waits : (threads.rouse chosen).phase thread = .waits op) :
    threads.phase thread = .waits op ∧ chosen thread = false := by
  simp only [Threads.rouse] at waits
  split at waits
  · have asleep := congrArg Phase.asleep waits
    rw [Phase.asleep_wake] at asleep
    cases asleep
  · exact ⟨waits, by simpa using ‹¬chosen thread = true›⟩

theorem rouse_broadcasts
    {chosen : τ → Bool} {thread : τ}
    (broadcasts : threads.phase thread = .broadcasts) :
    (threads.rouse chosen).phase thread = .broadcasts := by
  simp only [Threads.rouse, broadcasts, Phase.wake, ite_self]

/-- Two threads that are inside are one. -/
theorem Exclusive.eq
    (exclusive : Exclusive threads) {first second : τ}
    (one : (threads.phase first).inside = true)
    (other : (threads.phase second).inside = true) : first = second := by
  have owner := (exclusive first).mpr one
  rw [(exclusive second).mpr other] at owner
  exact (Option.some.inj owner).symm

theorem Exclusive.rouse
    (exclusive : Exclusive threads) (chosen : τ → Bool) :
    Exclusive (threads.rouse chosen) := by
  intro thread
  rw [inside_rouse]
  exact exclusive thread

section Moves

variable [DecidableEq τ]

theorem phase_move_self (thread : τ) (phase : Phase ω) :
    (threads.move thread phase).phase thread = phase :=
  Function.update_self ..

theorem phase_move_of_ne
    {thread other : τ} (different : other ≠ thread) (phase : Phase ω) :
    (threads.move thread phase).phase other = threads.phase other :=
  Function.update_of_ne different ..

theorem waits_of_move
    {thread other : τ} {phase : Phase ω} {op : ω}
    (waits : (threads.move thread phase).phase other = .waits op)
    (up : phase.asleep = false) :
    threads.phase other = .waits op ∧ other ≠ thread := by
  by_cases same : other = thread
  · rw [same, phase_move_self] at waits
    rw [waits] at up
    cases up
  · rw [phase_move_of_ne same] at waits
    exact ⟨waits, same⟩

/-- A thread changes its phase, and takes or releases the mutex. -/
theorem Exclusive.move
    (exclusive : Exclusive threads) {thread : τ} {phase : Phase ω}
    {owner : Option τ}
    (self : owner = some thread ↔ phase.inside = true)
    (others : ∀ other, other ≠ thread →
      (owner = some other ↔ threads.owner = some other)) :
    Exclusive { threads.move thread phase with owner } := by
  intro other
  by_cases same : other = thread
  · subst same
    change owner = some other ↔ ((threads.move other phase).phase other).inside = _
    rw [phase_move_self]
    exact self
  · change owner = some other ↔
      ((threads.move thread phase).phase other).inside = _
    rw [phase_move_of_ne same, others other same]
    exact exclusive other

/-- The owner releases the mutex. -/
theorem Exclusive.release
    (exclusive : Exclusive threads) {thread : τ} {phase : Phase ω}
    (inside : (threads.phase thread).inside = true)
    (leaves : phase.inside = false) :
    Exclusive { threads.move thread phase with owner := none } := by
  refine exclusive.move (by simp [leaves]) fun other different => ?_
  rw [(exclusive thread).mpr inside]
  simp [different.symm]

/-- A thread stays inside, or outside. -/
theorem Exclusive.keep
    (exclusive : Exclusive threads) {thread : τ} {phase : Phase ω}
    (same : phase.inside = (threads.phase thread).inside) :
    Exclusive (threads.move thread phase) := by
  refine exclusive.move ?_ fun _ _ => Iff.rfl
  rw [same]
  exact exclusive thread

theorem Step.exclusive
    (step : Step monitor threads action after)
    (exclusive : Exclusive threads) : Exclusive after := by
  cases step with
  | call op idle =>
      apply exclusive.keep
      rw [idle]
      rfl
  | @lock thread op free ready =>
      refine exclusive.move (by simp [Phase.inside]) fun other different => ?_
      rw [free]
      simp [different.symm]
  | @body thread op effect holds effects =>
      have kept : Exclusive (threads.move thread (.after effect.wakes)) := by
        apply exclusive.keep
        rw [holds, Phase.inside_after]
        rfl
      exact kept
  | wait holds waits =>
      refine exclusive.release ?_ rfl
      rw [holds]
      rfl
  | @signal thread chosen signals sleeping least =>
      apply (exclusive.rouse _).keep
      rw [inside_rouse, signals]
      rfl
  | @broadcast thread broadcasts =>
      apply (exclusive.rouse _).keep
      rw [inside_rouse, broadcasts]
      rfl
  | unlock unlocks =>
      refine exclusive.release ?_ rfl
      rw [unlocks]
      rfl
  | wake waits => exact exclusive.rouse _

/-! ## The order of the critical sections -/

/-- What an operation makes of the object. -/
def apply (monitor : Monitor σ ω ρ) (object : σ) (op : ω) : σ :=
  ((monitor.body object op).map Effect.object).getD object

/-- The object is what the operations have made of it, one after the other. -/
def Replays
    (monitor : Monitor σ ω ρ) (start : σ) (threads : Threads σ ω ρ τ) : Prop :=
  threads.object = threads.history.foldl monitor.apply start

theorem Step.replays
    {start : σ} (step : Step monitor threads action after)
    (replays : Replays monitor start threads) :
    Replays monitor start after := by
  cases step with
  | @body thread op effect holds effects =>
      change effect.object = (threads.history ++ [op]).foldl _ _
      rw [List.foldl_append, ← replays, List.foldl_cons, List.foldl_nil, apply,
        effects]
      rfl
  | _ => exact replays

end Moves

/-! ## Within the calls -/

/-- No operation has its effect, and no thread begins a call. -/
structure Stays (threads after : Threads σ ω ρ τ) : Prop where
  object : after.object = threads.object
  result : after.result = threads.result
  idle : ∀ thread, threads.phase thread = .idle → after.phase thread = .idle
  op : ∀ thread, (after.phase thread).op = (threads.phase thread).op

theorem Stays.trans
    {middle : Threads σ ω ρ τ} (first : Stays threads middle)
    (second : Stays middle after) : Stays threads after where
  object := second.object.trans first.object
  result := second.result.trans first.result
  idle := fun thread idle => second.idle thread (first.idle thread idle)
  op := fun thread => (second.op thread).trans (first.op thread)

theorem stays_rouse (chosen : τ → Bool) :
    Stays threads (threads.rouse chosen) where
  object := rfl
  result := rfl
  idle := fun thread idle => by simp [Threads.rouse, idle, Phase.wake]
  op := by
    intro thread
    simp only [Threads.rouse]
    split
    · exact Phase.op_wake _
    · rfl

/-- The mutex does not matter. -/
theorem Stays.setOwner (stays : Stays threads after) (owner : Option τ) :
    Stays threads { after with owner } :=
  ⟨stays.object, stays.result, stays.idle, stays.op⟩

section Within

variable [DecidableEq τ]

theorem idle_move
    {thread other : τ} {phase : Phase ω} (busy : threads.phase thread ≠ .idle)
    (idle : threads.phase other = .idle) :
    (threads.move thread phase).phase other = .idle := by
  have different : other ≠ thread := by
    rintro rfl
    exact busy idle
  rw [phase_move_of_ne different]
  exact idle

theorem stays_move
    {thread : τ} {phase : Phase ω} (busy : threads.phase thread ≠ .idle)
    (same : phase.op = (threads.phase thread).op) :
    Stays threads (threads.move thread phase) where
  object := rfl
  result := rfl
  idle := fun _ => idle_move busy
  op := by
    intro other
    by_cases self : other = thread
    · rw [self, phase_move_self]
      exact same
    · rw [phase_move_of_ne self]

/-- An operation has its effect, or the object, the results and the operations that
are still to be done stay what they are. -/
theorem Step.within
    (step : Step monitor threads action after) (goes : action.calls = false) :
    (∃ thread op effect, threads.phase thread = .holds op ∧
      monitor.body threads.object op = some effect ∧
      after = threads.commit thread op effect) ∨ Stays threads after := by
  cases step with
  | call op idle => cases goes
  | @lock thread op free ready =>
      refine Or.inr ((stays_move ?_ ?_).setOwner _)
      · rcases ready with calls | woken <;> simp [*]
      · rcases ready with calls | woken <;> simp [*, Phase.op]
  | @body thread op effect holds effects =>
      exact Or.inl ⟨thread, op, effect, holds, effects, rfl⟩
  | @wait thread op holds waits =>
      exact Or.inr ((stays_move (by simp [holds])
        (by simp [holds, Phase.op])).setOwner none)
  | @signal thread chosen signals sleeping least =>
      have roused : (threads.rouse fun other => other ∈ chosen).phase thread =
          .signals := by
        simp [Threads.rouse, signals, Phase.wake]
      exact Or.inr ((stays_rouse _).trans
        (stays_move (by simp [roused]) (by simp [roused, Phase.op])))
  | @broadcast thread broadcasts =>
      have roused : (threads.rouse fun _ => true).phase thread = .broadcasts :=
        rouse_broadcasts broadcasts
      exact Or.inr ((stays_rouse _).trans
        (stays_move (by simp [roused]) (by simp [roused, Phase.op])))
  | @unlock thread unlocks =>
      exact Or.inr ((stays_move (by simp [unlocks])
        (by simp [unlocks, Phase.op])).setOwner none)
  | wake waits => exact Or.inr (stays_rouse _)

end Within

/-! ## Wakeups -/

/-- What an object needs for its threads not to sleep on work: there is work for
`ready` of the operations that take it, and once it is closed none of them
waits. -/
structure Signals
    (monitor : Monitor σ ω ρ) (ready : σ → Nat) (closed : σ → Bool)
    (takes : ω → Bool) : Prop where
  waits : ∀ object op, monitor.body object op = none →
    takes op = true ∧ ready object = 0 ∧ closed object = false
  quiet : ∀ object op effect, monitor.body object op = some effect →
    effect.wakes = .nobody →
      ready effect.object ≤ ready object - (if takes op then 1 else 0) ∧
      (closed object = false → closed effect.object = false)
  signals : ∀ object op effect, monitor.body object op = some effect →
    effect.wakes = .one →
      takes op = false ∧ ready effect.object ≤ ready object + 1 ∧
      (closed object = false → closed effect.object = false)
  stays : ∀ object op effect, monitor.body object op = some effect →
    closed object = true → closed effect.object = true

/-- When a thread waits, all that wait are being woken or each piece of work has a
thread that is awake. -/
structure Awake
    (ready : σ → Nat) (closed : σ → Bool) (takes : ω → Bool) [Fintype τ]
    (threads : Threads σ ω ρ τ) : Prop where
  waits : ∀ thread op, threads.phase thread = .waits op → takes op = true
  awake : ∀ thread, (threads.phase thread).asleep = true →
    (∃ other, threads.phase other = .broadcasts) ∨
      (closed threads.object = false ∧ ready threads.object ≤
        ∑ other, (threads.phase other).owes takes)

section Awake

variable [Fintype τ] {ready : σ → Nat} {closed : σ → Bool} {takes : ω → Bool}

theorem sum_owes_le_rouse (chosen : τ → Bool) :
    ∑ other, (threads.phase other).owes takes ≤
      ∑ other, ((threads.rouse chosen).phase other).owes takes :=
  Finset.sum_le_sum fun other _ => owes_le_rouse takes chosen other

/-- A thread that is woken has work to take. -/
theorem sum_owes_lt_rouse
    {chosen : τ → Bool} {thread : τ} {op : ω}
    (picked : chosen thread = true) (waits : threads.phase thread = .waits op)
    (work : takes op = true) :
    ∑ other, (threads.phase other).owes takes <
      ∑ other, ((threads.rouse chosen).phase other).owes takes := by
  refine Finset.sum_lt_sum (fun other _ => owes_le_rouse takes chosen other)
    ⟨thread, Finset.mem_univ thread, ?_⟩
  simp [Threads.rouse, picked, waits, Phase.wake, Phase.owes, work]

/-- While a thread is inside, and not at a broadcast, there is none. -/
theorem Awake.owed
    (awake : Awake ready closed takes threads)
    (exclusive : Exclusive threads) {thread : τ}
    (inside : (threads.phase thread).inside = true)
    (different : threads.phase thread ≠ .broadcasts)
    {sleeper : τ} {op : ω} (waits : threads.phase sleeper = .waits op) :
    closed threads.object = false ∧ ready threads.object ≤
      ∑ other, (threads.phase other).owes takes := by
  rcases awake.awake sleeper (Phase.asleep_iff.mpr ⟨op, waits⟩) with
    ⟨other, broadcasts⟩ | owed
  · have same : other = thread := by
      refine exclusive.eq ?_ inside
      rw [broadcasts]
      rfl
    rw [same] at broadcasts
    exact absurd broadcasts different
  · exact owed

/-- Nothing happens to the object, and no thread falls asleep. -/
theorem Awake.mono
    (awake : Awake ready closed takes threads)
    (object : after.object = threads.object)
    (waits : ∀ thread op, after.phase thread = .waits op →
      threads.phase thread = .waits op)
    (broadcasts : ∀ thread, threads.phase thread = .broadcasts →
      after.phase thread = .broadcasts)
    (owes : ∑ other, (threads.phase other).owes takes ≤
      ∑ other, (after.phase other).owes takes) :
    Awake ready closed takes after where
  waits := fun thread op held => awake.waits thread op (waits thread op held)
  awake := by
    intro thread asleep
    obtain ⟨op, held⟩ := Phase.asleep_iff.mp asleep
    rcases awake.awake thread
        (Phase.asleep_iff.mpr ⟨op, waits thread op held⟩) with
      ⟨other, there⟩ | ⟨opened, owed⟩
    · exact Or.inl ⟨other, broadcasts other there⟩
    · rw [object]
      exact Or.inr ⟨opened, owed.trans owes⟩

theorem sum_steps_rouse_le (threads : Threads σ ω ρ τ) (chosen : τ → Bool) :
    ∑ other, ((threads.rouse chosen).phase other).steps ≤
      ∑ other, (threads.phase other).steps :=
  Finset.sum_le_sum fun other _ => steps_rouse_le threads chosen other

variable [DecidableEq τ]

theorem sum_move
    (threads : Threads σ ω ρ τ) (thread : τ) (phase : Phase ω)
    (weight : Phase ω → Nat) :
    ∑ other, weight ((threads.move thread phase).phase other) +
        weight (threads.phase thread) =
      ∑ other, weight (threads.phase other) + weight phase := by
  rw [← Finset.add_sum_erase _ _ (Finset.mem_univ thread),
    ← Finset.add_sum_erase _ (fun other => weight (threads.phase other))
      (Finset.mem_univ thread), phase_move_self]
  have others : ∑ other ∈ Finset.univ.erase thread,
        weight ((threads.move thread phase).phase other) =
      ∑ other ∈ Finset.univ.erase thread, weight (threads.phase other) := by
    refine Finset.sum_congr rfl fun other member => ?_
    rw [phase_move_of_ne (Finset.ne_of_mem_erase member)]
  rw [others]
  omega

/-- The same, when one thread moves on. -/
theorem Awake.move
    (awake : Awake ready closed takes threads) {thread : τ}
    {phase : Phase ω} (up : phase.asleep = false)
    (different : threads.phase thread ≠ .broadcasts)
    (owes : (threads.phase thread).owes takes ≤ phase.owes takes) :
    Awake ready closed takes (threads.move thread phase) := by
  refine awake.mono rfl (fun other op waits => (waits_of_move waits up).1) ?_ ?_
  · intro other broadcasts
    have other_ne : other ≠ thread := by
      rintro rfl
      exact different broadcasts
    rw [phase_move_of_ne other_ne]
    exact broadcasts
  · have sums := sum_move threads thread phase (Phase.owes takes)
    omega

/-- A wait leaves no work behind. -/
theorem Awake.wait
    (awake : Awake ready closed takes threads)
    (signals : Signals monitor ready closed takes)
    {thread : τ} {op : ω} (waits : monitor.body threads.object op = none)
    (owner : Option τ) :
    Awake ready closed takes
      { threads.move thread (.waits op) with owner } := by
  obtain ⟨work, none, opened⟩ := signals.waits _ _ waits
  refine ⟨fun sleeper other waits => ?_, fun sleeper asleep => Or.inr ?_⟩
  · change (threads.move _ _).phase sleeper = _ at waits
    by_cases self : sleeper = thread
    · rw [self, phase_move_self] at waits
      exact Phase.waits.inj waits ▸ work
    · rw [phase_move_of_ne self] at waits
      exact awake.waits sleeper other waits
  · change closed threads.object = false ∧ ready threads.object ≤ _
    rw [none]
    exact ⟨opened, Nat.zero_le _⟩

/-- An effect hands on the work that it leaves. -/
theorem Awake.commit
    (awake : Awake ready closed takes threads)
    (signals : Signals monitor ready closed takes)
    (exclusive : Exclusive threads) {thread : τ} {op : ω}
    {effect : Effect σ ρ} (holds : threads.phase thread = .holds op)
    (effects : monitor.body threads.object op = some effect) :
    Awake ready closed takes (threads.commit thread op effect) := by
  have inside : (threads.phase thread).inside = true := by
    rw [holds]
    rfl
  have sums := sum_move threads thread (.after effect.wakes)
    (Phase.owes takes)
  have owes : (threads.phase thread).owes takes =
      if takes op then 1 else 0 := by
    rw [holds]
    rfl
  have before : ∀ {sleeper : τ} {other : ω},
      (threads.commit thread op effect).phase sleeper = .waits other →
      threads.phase sleeper = .waits other := fun waits =>
    (waits_of_move waits (Phase.asleep_after _)).1
  refine ⟨fun sleeper other waits => awake.waits sleeper other (before waits),
    fun sleeper asleep => ?_⟩
  obtain ⟨other, waits⟩ := Phase.asleep_iff.mp asleep
  have owed := awake.owed exclusive inside (by simp [holds]) (before waits)
  change (∃ other, (threads.move _ _).phase other = _) ∨
    closed effect.object = false ∧ ready effect.object ≤
      ∑ other, ((threads.move _ _).phase other).owes takes
  cases wakes : effect.wakes with
  | nobody =>
      obtain ⟨fewer, opened⟩ := signals.quiet _ _ _ effects wakes
      have none : (Phase.after .nobody : Phase ω).owes takes = 0 := rfl
      rw [wakes, none] at sums
      exact Or.inr ⟨opened owed.1, by omega⟩
  | one =>
      obtain ⟨hands, fewer, opened⟩ := signals.signals _ _ _ effects wakes
      have one : (Phase.after .one : Phase ω).owes takes = 1 := rfl
      rw [wakes, one] at sums
      rw [hands, if_neg Bool.false_ne_true] at owes
      exact Or.inr ⟨opened owed.1, by omega⟩
  | all =>
      refine Or.inl ⟨thread, ?_⟩
      rw [phase_move_self]
      rfl

/-- A signal hands its work to a thread that it wakes. -/
theorem Awake.signal
    (awake : Awake ready closed takes threads)
    (exclusive : Exclusive threads) {thread : τ} {chosen : Finset τ}
    (signals : threads.phase thread = .signals)
    (sleeping : ∀ other ∈ chosen, (threads.phase other).asleep = true)
    (least : ∀ other, (threads.phase other).asleep = true → chosen.Nonempty) :
    Awake ready closed takes
      ((threads.rouse fun other => other ∈ chosen).move thread .unlocks) := by
  have before : ∀ {sleeper : τ} {op : ω},
      ((threads.rouse fun other => other ∈ chosen).move thread
        .unlocks).phase sleeper = .waits op →
      threads.phase sleeper = .waits op := fun waits =>
    (waits_of_rouse (waits_of_move waits rfl).1).1
  refine ⟨fun sleeper op waits => awake.waits sleeper op (before waits),
    fun sleeper asleep => Or.inr ?_⟩
  obtain ⟨op, waits⟩ := Phase.asleep_iff.mp asleep
  have waited := before waits
  have inside : (threads.phase thread).inside = true := by
    rw [signals]
    rfl
  obtain ⟨opened, owed⟩ :=
    awake.owed exclusive inside (by simp [signals]) waited
  obtain ⟨picked, member⟩ := least sleeper (Phase.asleep_iff.mpr ⟨op, waited⟩)
  obtain ⟨other, there⟩ := Phase.asleep_iff.mp (sleeping picked member)
  have more : ∑ other, (threads.phase other).owes takes <
      ∑ other, ((threads.rouse fun other => other ∈ chosen).phase other).owes
        takes :=
    sum_owes_lt_rouse (decide_eq_true member) there
      (awake.waits picked other there)
  have sums := sum_move (threads.rouse fun other => other ∈ chosen) thread
    .unlocks (Phase.owes takes)
  have one : ((threads.rouse fun other => other ∈ chosen).phase thread).owes
      takes = 1 := by
    simp [Threads.rouse, signals, Phase.wake, Phase.owes]
  have none : (Phase.unlocks : Phase ω).owes takes = 0 := rfl
  refine ⟨opened, ?_⟩
  change ready threads.object ≤ _
  omega

theorem Step.awake
    (step : Step monitor threads action after)
    (signals : Signals monitor ready closed takes)
    (exclusive : Exclusive threads)
    (awake : Awake ready closed takes threads) :
    Awake ready closed takes after := by
  cases step with
  | @call thread op idle =>
      exact awake.move rfl (by simp [idle]) (by simp [idle, Phase.owes])
  | @lock thread op free prepared =>
      have moved : Awake ready closed takes
          (threads.move thread (.holds op)) := by
        rcases prepared with calls | woken
        · exact awake.move rfl (by simp [calls]) (by simp [calls, Phase.owes])
        · exact awake.move rfl (by simp [woken]) (by simp [woken, Phase.owes])
      exact ⟨moved.waits, moved.awake⟩
  | body holds effects => exact awake.commit signals exclusive holds effects
  | wait holds waits => exact awake.wait signals waits none
  | @signal thread chosen signalling sleeping least =>
      exact awake.signal exclusive signalling sleeping least
  | @broadcast thread broadcasts =>
      refine ⟨fun sleeper op waits => ?_, fun sleeper asleep => ?_⟩
      · exact absurd (waits_of_rouse (waits_of_move waits rfl).1).2 (by simp)
      · obtain ⟨op, waits⟩ := Phase.asleep_iff.mp asleep
        exact absurd (waits_of_rouse (waits_of_move waits rfl).1).2 (by simp)
  | @unlock thread unlocks =>
      have moved : Awake ready closed takes (threads.move thread .idle) :=
        awake.move rfl (by simp [unlocks]) (by simp [unlocks, Phase.owes])
      exact ⟨moved.waits, moved.awake⟩
  | wake waits =>
      exact awake.mono rfl (fun thread op held => (waits_of_rouse held).1)
        (fun thread => rouse_broadcasts) (sum_owes_le_rouse _)

/-! ## Progress -/

/-- A thread that is in a call, and does not wait, is not held up for ever: some
thread goes on. -/
theorem Exclusive.progress
    (exclusive : Exclusive threads) (monitor : Monitor σ ω ρ) {thread : τ}
    (busy : threads.phase thread ≠ .idle)
    (up : (threads.phase thread).asleep = false) :
    ∃ action after, action.proceeds = true ∧
      Step monitor threads action after := by
  cases held : threads.owner with
  | none =>
      have outside : (threads.phase thread).inside = false := by
        rw [Bool.eq_false_iff]
        intro inside
        rw [(exclusive thread).mpr inside] at held
        cases held
      cases phase : threads.phase thread with
      | idle => exact absurd phase busy
      | calls op => exact ⟨_, _, rfl, .lock held (Or.inl phase)⟩
      | woken op => exact ⟨_, _, rfl, .lock held (Or.inr phase)⟩
      | waits op =>
          rw [phase] at up
          cases up
      | _ =>
          rw [phase] at outside
          cases outside
  | some owner =>
      have inside := (exclusive owner).mp held
      cases phase : threads.phase owner with
      | holds op =>
          cases body : monitor.body threads.object op with
          | none => exact ⟨_, _, rfl, .wait phase body⟩
          | some effect => exact ⟨_, _, rfl, .body phase body⟩
      | signals =>
          refine ⟨.signal owner
            {other | (threads.phase other).asleep = true}, _, rfl,
            .signal _ phase (fun other member => ?_) fun other asleep => ?_⟩
          · exact (Finset.mem_filter.mp member).2
          · exact ⟨other, Finset.mem_filter.mpr ⟨Finset.mem_univ _, asleep⟩⟩
      | broadcasts => exact ⟨_, _, rfl, .broadcast phase⟩
      | unlocks => exact ⟨_, _, rfl, .unlock phase⟩
      | _ =>
          rw [phase] at inside
          cases inside

/-- When no thread goes on, those in a call wait, and there is no work. -/
theorem Awake.stuck
    (awake : Awake ready closed takes threads)
    (exclusive : Exclusive threads)
    (stuck : ∀ action after, action.proceeds = true →
      ¬Step monitor threads action after)
    (thread : τ) :
    threads.phase thread = .idle ∨
      ((threads.phase thread).asleep = true ∧ ready threads.object = 0 ∧
        closed threads.object = false) := by
  have rests : ∀ other, threads.phase other = .idle ∨
      (threads.phase other).asleep = true := by
    intro other
    by_contra busy
    rw [not_or, Bool.not_eq_true] at busy
    obtain ⟨action, after, proceeds, step⟩ :=
      exclusive.progress monitor busy.1 busy.2
    exact stuck action after proceeds step
  refine (rests thread).imp_right fun asleep => ⟨asleep, ?_⟩
  rcases awake.awake thread asleep with ⟨other, broadcasts⟩ | ⟨opened, owed⟩
  · have rest := rests other
    rw [broadcasts] at rest
    exact absurd rest (by simp [Phase.asleep])
  · have none : ∑ other, (threads.phase other).owes takes = 0 := by
      refine Finset.sum_eq_zero fun other _ => ?_
      rcases rests other with idle | asleep
      · rw [idle]
        rfl
      · obtain ⟨op, waits⟩ := Phase.asleep_iff.mp asleep
        rw [waits]
        rfl
    exact ⟨by omega, opened⟩

/-- Once the object is closed, a step other than the start of a call brings the
calls nearer to their ends. -/
theorem Step.lowers
    (step : Step monitor threads action after)
    (signals : Signals monitor ready closed takes)
    (shut : closed threads.object = true) (goes : action.calls = false) :
    closed after.object = true ∧
      ∑ other, (after.phase other).steps <
        ∑ other, (threads.phase other).steps := by
  cases step with
  | call op idle => cases goes
  | @lock thread op free prepared =>
      refine ⟨shut, ?_⟩
      have sums := sum_move threads thread (.holds op) Phase.steps
      have left : (threads.phase thread).steps = 4 := by
        rcases prepared with calls | woken
        · rw [calls]
          rfl
        · rw [woken]
          rfl
      have then_ : (Phase.holds op).steps = 3 := rfl
      change ∑ other, ((threads.move _ _).phase other).steps < _
      omega
  | @body thread op effect holds effects =>
      refine ⟨signals.stays _ _ _ effects shut, ?_⟩
      have sums := sum_move threads thread (.after effect.wakes) Phase.steps
      have left : (threads.phase thread).steps = 3 := by
        rw [holds]
        rfl
      have then_ : (Phase.after effect.wakes : Phase ω).steps ≤ 2 :=
        Phase.steps_after_le _
      change ∑ other, ((threads.move _ _).phase other).steps < _
      omega
  | wait holds waits =>
      have opened := (signals.waits _ _ waits).2.2
      rw [shut] at opened
      cases opened
  | @signal thread chosen signalling sleeping least =>
      refine ⟨shut, ?_⟩
      have sums := sum_move (threads.rouse fun other => other ∈ chosen) thread
        .unlocks Phase.steps
      have fewer := sum_steps_rouse_le threads fun other => other ∈ chosen
      have left : ((threads.rouse fun other => other ∈ chosen).phase
          thread).steps = 2 := by
        simp [Threads.rouse, signalling, Phase.wake, Phase.steps]
      have then_ : (Phase.unlocks : Phase ω).steps = 1 := rfl
      omega
  | @broadcast thread broadcasts =>
      refine ⟨shut, ?_⟩
      have sums := sum_move (threads.rouse fun _ => true) thread .unlocks
        Phase.steps
      have fewer := sum_steps_rouse_le threads fun _ => true
      have left : ((threads.rouse fun _ => true).phase thread).steps = 2 := by
        simp [Threads.rouse, broadcasts, Phase.wake, Phase.steps]
      have then_ : (Phase.unlocks : Phase ω).steps = 1 := rfl
      omega
  | @unlock thread unlocks =>
      refine ⟨shut, ?_⟩
      have sums := sum_move threads thread .idle Phase.steps
      have left : (threads.phase thread).steps = 1 := by
        rw [unlocks]
        rfl
      have then_ : (Phase.idle : Phase ω).steps = 0 := rfl
      change ∑ other, ((threads.move _ _).phase other).steps < _
      omega
  | @wake thread waits =>
      refine ⟨shut, Finset.sum_lt_sum
        (fun other _ => steps_rouse_le threads _ other)
        ⟨thread, Finset.mem_univ thread, ?_⟩⟩
      obtain ⟨op, waits⟩ := Phase.asleep_iff.mp waits
      simp [Threads.rouse, waits, Phase.wake, Phase.steps]

end Awake

/-! ## Every run -/

section Runs

variable [DecidableEq τ] [Fintype τ] {ready : σ → Nat} {closed : σ → Bool}
  {takes : ω → Bool} {start : σ} {actions : List (Action ω τ)}

/-- What holds in every state that threads without a call come to. -/
structure Orderly
    (monitor : Monitor σ ω ρ) (ready : σ → Nat) (closed : σ → Bool)
    (takes : ω → Bool) (start : σ) (threads : Threads σ ω ρ τ) : Prop where
  exclusive : Exclusive threads
  replays : Replays monitor start threads
  awake : Awake ready closed takes threads

theorem Step.orderly
    {action : Action ω τ} (step : Step monitor threads action after)
    (signals : Signals monitor ready closed takes)
    (orderly : Orderly monitor ready closed takes start threads) :
    Orderly monitor ready closed takes start after where
  exclusive := step.exclusive orderly.exclusive
  replays := step.replays orderly.replays
  awake := step.awake signals orderly.exclusive orderly.awake

omit [DecidableEq τ] in
/-- Before any call. -/
theorem orderly_start :
    Orderly monitor ready closed takes start
      ({ object := start } : Threads σ ω ρ τ) where
  exclusive := fun thread => by simp [Phase.inside]
  replays := rfl
  awake := by
    refine ⟨fun thread op waits => ?_, fun thread asleep => ?_⟩
    · cases waits
    · cases asleep

/-- Every run is orderly. -/
theorem orderly_run
    (signals : Signals monitor ready closed takes)
    (runs : Runs (Step monitor) { object := start } actions threads) :
    Orderly monitor ready closed takes start threads :=
  runs.invariant (fun step => step.orderly signals) orderly_start

/-- Once the object is closed, calls that have begun come to an end. -/
theorem length_le_of_closed
    (signals : Signals monitor ready closed takes)
    (runs : Runs (Step monitor) threads actions after)
    (shut : closed threads.object = true)
    (none : ∀ action ∈ actions, action.calls = false) :
    closed after.object = true ∧ actions.length ≤ 5 * Fintype.card τ := by
  obtain ⟨stays, bound⟩ := runs.length_le
    (fun step shut goes => step.lowers signals shut goes) shut none
  have most : ∑ other, (threads.phase other).steps ≤ 5 * Fintype.card τ := by
    have each := Finset.sum_le_card_nsmul Finset.univ
      (fun other => (threads.phase other).steps) 5
      fun other _ => Phase.steps_le _
    rw [Finset.card_univ, smul_eq_mul] at each
    omega
  exact ⟨stays, by omega⟩

end Runs

/-! ## Runs step by step -/

section Next

variable [DecidableEq τ] [Fintype τ]

/-- The one state that an action leads to, if it can be taken. -/
def next (monitor : Monitor σ ω ρ) (threads : Threads σ ω ρ τ) :
    Action ω τ → Option (Threads σ ω ρ τ)
  | .call thread op =>
      match threads.phase thread with
      | .idle => some (threads.move thread (.calls op))
      | _ => none
  | .lock thread =>
      match threads.owner, threads.phase thread with
      | none, .calls op | none, .woken op =>
          some { threads.move thread (.holds op) with owner := some thread }
      | _, _ => none
  | .body thread =>
      match threads.phase thread with
      | .holds op =>
          match monitor.body threads.object op with
          | some effect => some (threads.commit thread op effect)
          | none => some { threads.move thread (.waits op) with owner := none }
      | _ => none
  | .signal thread chosen =>
      match threads.phase thread with
      | .signals =>
          if (∀ other ∈ chosen, (threads.phase other).asleep = true) ∧
              ∀ other, (threads.phase other).asleep = true → chosen.Nonempty then
            some ((threads.rouse fun other => other ∈ chosen).move thread
              .unlocks)
          else none
      | _ => none
  | .broadcast thread =>
      match threads.phase thread with
      | .broadcasts =>
          some ((threads.rouse fun _ => true).move thread .unlocks)
      | _ => none
  | .unlock thread =>
      match threads.phase thread with
      | .unlocks => some { threads.move thread .idle with owner := none }
      | _ => none
  | .wake thread =>
      if (threads.phase thread).asleep then
        some (threads.rouse fun other => other = thread)
      else none

theorem step_of_next
    {monitor : Monitor σ ω ρ} {threads after : Threads σ ω ρ τ}
    {action : Action ω τ} (leads : monitor.next threads action = some after) :
    monitor.Step threads action after := by
  cases action with
  | call thread op =>
      rw [next] at leads
      split at leads
      · obtain rfl := Option.some.inj leads
        exact .call op ‹_›
      · cases leads
  | lock thread =>
      rw [next] at leads
      split at leads
      · obtain rfl := Option.some.inj leads
        exact .lock ‹_› (Or.inl ‹_›)
      · obtain rfl := Option.some.inj leads
        exact .lock ‹_› (Or.inr ‹_›)
      · cases leads
  | body thread =>
      rw [next] at leads
      split at leads
      · split at leads
        · obtain rfl := Option.some.inj leads
          exact .body ‹_› ‹_›
        · obtain rfl := Option.some.inj leads
          exact .wait ‹_› ‹_›
      · cases leads
  | signal thread chosen =>
      rw [next] at leads
      split at leads
      · split at leads
        · rename_i signals met
          obtain rfl := Option.some.inj leads
          exact .signal chosen signals met.1 met.2
        · cases leads
      · cases leads
  | broadcast thread =>
      rw [next] at leads
      split at leads
      · obtain rfl := Option.some.inj leads
        exact .broadcast ‹_›
      · cases leads
  | unlock thread =>
      rw [next] at leads
      split at leads
      · obtain rfl := Option.some.inj leads
        exact .unlock ‹_›
      · cases leads
  | wake thread =>
      rw [next] at leads
      split at leads
      · obtain rfl := Option.some.inj leads
        exact .wake ‹_›
      · cases leads

end Next

end Steps

end Monitor
end MotionSense
