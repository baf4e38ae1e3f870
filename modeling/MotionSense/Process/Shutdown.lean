import MotionSense.Process.Defs

/-!
# What a shutdown leaves of the frame queue

Whenever the signal comes and whatever fails, `fq_destroy` is the last call of the
queue, every frame that has been pushed has been popped or counted as dropped by
then, and no thread is held up for ever on the way there.
-/

namespace MotionSense

open Monitor

/-! ## The order of the steps -/

/-- `h264_thread` has not been created. -/
def MainAt.early : MainAt → Bool
  | .createWriter | .awaitBoot | .joinRefused | .initMedia | .createH264 => true
  | _ => false

/-- `h264_thread` has been joined, if it has been created. -/
def MainAt.joined : MainAt → Bool
  | .closeQueue | .closing | .joinWriter | .destroyQueue | .returned => true
  | _ => false

/-- The writer has been started and not joined. -/
def MainAt.writes : MainAt → Bool
  | .createWriter | .awaitBoot | .joinRefused | .destroyQueue | .returned => false
  | _ => true

/-- `fq_close` has been called, if there is a writer. -/
def MainAt.shut : MainAt → Bool
  | .closing | .joinWriter | .destroyQueue | .returned => true
  | _ => false

/-- What the handshake has told when the writer is there. -/
def WriterAt.Tells (boot : Option Bool) : WriterAt → Prop
  | .absent | .booting => boot = none
  | .refused => boot = some false
  | .ended => boot.isSome = true
  | _ => boot = some true

namespace Process

/-- How the places of the three threads go together. -/
structure Ordered (process : Process) : Prop where
  early : process.main.early = true → process.h264 = .absent
  joined : process.main.joined = true →
    process.h264 = .absent ∨ process.h264 = .ended
  finished : process.main = .destroyQueue ∨ process.main = .returned →
    process.writer = .absent ∨ process.writer = .ended
  destroyed : process.destroyed = true → process.main = .returned
  tells : process.writer.Tells process.boot
  running : process.h264 ≠ .absent → process.boot = some true
  writes : process.main.writes = true → process.boot = some true
  creates : process.main = .createWriter → process.writer = .absent
  awaits : process.main = .awaitBoot → process.writer ≠ .absent
  refused : process.main = .joinRefused → process.boot = some false

variable {process after : Process} {event : Event}

theorem Step.early
    (step : Step process event after)
    (early : process.main.early = true → process.h264 = .absent) :
    after.main.early = true → after.h264 = .absent := by
  cases step <;> simp_all [MainAt.early]

theorem Step.joined
    (step : Step process event after)
    (joined : process.main.joined = true →
      process.h264 = .absent ∨ process.h264 = .ended)
    (early : process.main.early = true → process.h264 = .absent) :
    after.main.joined = true → after.h264 = .absent ∨ after.h264 = .ended := by
  cases step <;> simp_all [MainAt.early, MainAt.joined]

theorem Step.tells
    (step : Step process event after)
    (tells : process.writer.Tells process.boot)
    (creates : process.main = .createWriter → process.writer = .absent) :
    after.writer.Tells after.boot := by
  cases step <;> simp_all [WriterAt.Tells]

theorem Step.writes
    (step : Step process event after)
    (tells : process.writer.Tells process.boot)
    (writes : process.main.writes = true → process.boot = some true) :
    after.main.writes = true → after.boot = some true := by
  cases step <;> simp_all [MainAt.writes, WriterAt.Tells]

theorem Step.creates
    (step : Step process event after)
    (creates : process.main = .createWriter → process.writer = .absent) :
    after.main = .createWriter → after.writer = .absent := by
  cases step <;> simp_all

theorem Step.awaits
    (step : Step process event after)
    (awaits : process.main = .awaitBoot → process.writer ≠ .absent) :
    after.main = .awaitBoot → after.writer ≠ .absent := by
  cases step <;> simp_all

theorem Step.refusal
    (step : Step process event after)
    (tells : process.writer.Tells process.boot)
    (refused : process.main = .joinRefused → process.boot = some false) :
    after.main = .joinRefused → after.boot = some false := by
  cases step <;> simp_all [WriterAt.Tells]

theorem Step.running
    (step : Step process event after)
    (tells : process.writer.Tells process.boot)
    (writes : process.main.writes = true → process.boot = some true)
    (running : process.h264 ≠ .absent → process.boot = some true) :
    after.h264 ≠ .absent → after.boot = some true := by
  cases step <;> simp_all [MainAt.writes, WriterAt.Tells]

theorem Step.finished
    (step : Step process event after)
    (creates : process.main = .createWriter → process.writer = .absent)
    (finished : process.main = .destroyQueue ∨ process.main = .returned →
      process.writer = .absent ∨ process.writer = .ended) :
    after.main = .destroyQueue ∨ after.main = .returned →
      after.writer = .absent ∨ after.writer = .ended := by
  cases step <;> simp_all

theorem Step.destroyed
    (step : Step process event after)
    (destroyed : process.destroyed = true → process.main = .returned) :
    after.destroyed = true → after.main = .returned := by
  cases step <;> simp_all

theorem Step.ordered
    (step : Step process event after) (ordered : Ordered process) :
    Ordered after where
  early := step.early ordered.early
  joined := step.joined ordered.joined ordered.early
  finished := step.finished ordered.creates ordered.finished
  destroyed := step.destroyed ordered.destroyed
  tells := step.tells ordered.tells ordered.creates
  running := step.running ordered.tells ordered.writes ordered.running
  writes := step.writes ordered.tells ordered.writes
  creates := step.creates ordered.creates
  awaits := step.awaits ordered.awaits
  refused := step.refusal ordered.tells ordered.refused

/-! ## The calls of the queue -/

/-- The call of the queue that a thread is in. -/
def Calls (process : Process) : Party → FqCall → Prop
  | .main, op => process.main = .closing ∧ op = .close
  | .h264, op => process.h264 = .pushing ∧ ∃ unit, op = .push unit
  | .writer, op => (process.writer = .popping ∧ op = .pop) ∨
      (process.writer = .reporting ∧ op = .dropped)

/-- What the threads have called. -/
structure Calling (process : Process) : Prop where
  busy : ∀ party, process.queue.phase party ≠ .idle →
    ∃ op, process.Calls party op
  calls : ∀ party op, (process.queue.phase party).op = some op →
    process.Calls party op

/-- Outside the calls of the queue. -/
theorem Calling.party
    (calling : Calling process) (queue : after.queue = process.queue)
    (calls : ∀ party op, process.queue.phase party ≠ .idle →
      process.Calls party op → after.Calls party op) :
    Calling after where
  busy := by
    intro party inside
    rw [queue] at inside
    exact (calling.busy party inside).imp fun op => calls party op inside
  calls := by
    intro party op pending
    rw [queue] at pending
    refine calls party op (fun idle => ?_) (calling.calls party op pending)
    rw [idle] at pending
    cases pending

/-- A thread begins a call. -/
theorem Calling.call
    (calling : Calling process) {party : Party} {op : FqCall}
    {next : Monitor.Threads QueueRun FqCall FqResult Party}
    (step : fqMonitor.Step process.queue (.call party op) next)
    (queue : after.queue = next) (calls : after.Calls party op)
    (others : ∀ other, other ≠ party → ∀ op, process.Calls other op →
      after.Calls other op) :
    Calling after := by
  cases step with
  | call _ idle =>
      refine ⟨fun other inside => ?_, fun other pending serves => ?_⟩
      · rw [queue] at inside
        by_cases same : other = party
        · rw [same]
          exact ⟨op, calls⟩
        · rw [phase_move_of_ne same] at inside
          exact (calling.busy other inside).imp (others other same)
      · rw [queue] at serves
        by_cases same : other = party
        · rw [same, phase_move_self] at serves
          rw [same, ← Option.some.inj serves]
          exact calls
        · rw [phase_move_of_ne same] at serves
          exact others other same pending (calling.calls other pending serves)

/-- Within the calls of the queue. -/
theorem Calling.within
    (calling : Calling process) {action : Action FqCall Party}
    {next : Monitor.Threads QueueRun FqCall FqResult Party}
    (step : fqMonitor.Step process.queue action next)
    (goes : action.calls = false) :
    Calling { process with queue := next } := by
  rcases step.within goes with
    ⟨thread, op, effect, holds, effects, rfl⟩ | stays
  · refine ⟨fun party inside => ?_, fun party pending calls => ?_⟩
    · refine calling.busy party fun idle => inside ?_
      exact idle_move (by simp [holds]) idle
    · change ((process.queue.move _ _).phase party).op = _ at calls
      by_cases same : party = thread
      · rw [same, phase_move_self, Phase.op_after] at calls
        cases calls
      · rw [phase_move_of_ne same] at calls
        exact calling.calls party pending calls
  · refine ⟨fun party inside => ?_, fun party pending calls => ?_⟩
    · exact calling.busy party fun idle => inside (stays.idle party idle)
    · rw [stays.op] at calls
      exact calling.calls party pending calls

theorem Step.calling
    (step : Step process event after) (ordered : Ordered process)
    (calling : Calling process) : Calling after := by
  cases step with
  | queue within step => exact calling.within step within
  | closeQueue at_ step =>
      refine calling.call step rfl ⟨rfl, rfl⟩ fun other different op calls => ?_
      cases other with
      | main => exact absurd rfl different
      | _ => exact calls
  | push unit at_ step =>
      refine calling.call step rfl ⟨rfl, unit, rfl⟩
        fun other different op calls => ?_
      cases other with
      | h264 => exact absurd rfl different
      | _ => exact calls
  | pop at_ step =>
      refine calling.call step rfl (Or.inl ⟨rfl, rfl⟩)
        fun other different op calls => ?_
      cases other with
      | writer => exact absurd rfl different
      | _ => exact calls
  | report at_ step =>
      refine calling.call step rfl (Or.inr ⟨rfl, rfl⟩)
        fun other different op calls => ?_
      cases other with
      | writer => exact absurd rfl different
      | _ => exact calls
  | createWriter at_ =>
      refine calling.party rfl fun party op inside => ?_
      cases party <;> simp [Calls, at_, ordered.creates at_]
  | createH264 at_ =>
      have absent : process.h264 = .absent := ordered.early (by rw [at_]; rfl)
      refine calling.party rfl fun party op inside => ?_
      cases party <;> simp [Calls, at_, absent]
  | _ =>
      clear ordered
      refine calling.party rfl fun party op inside => ?_
      cases party <;> simp_all [Calls]

/-! ## The frames -/

/-- The queue is closed and empty. -/
def Drained (process : Process) : Prop :=
  process.queue.object.state.queue.closed = true ∧
    process.queue.object.state.queue.count = 0

/-- What has become of the frames. -/
structure Delivering (process : Process) : Prop where
  closed : process.queue.object.state.queue.closed = true →
    process.main.shut = true
  closes : process.main = .closing →
    (process.queue.phase .main).op = some .close ∨
      process.queue.object.state.queue.closed = true
  shut : process.main = .joinWriter →
    process.queue.object.state.queue.closed = true
  pops : process.writer = .popping →
    (process.queue.phase .writer).op = some .pop ∨
      (∃ out, process.queue.result .writer = some (.frame out)) ∨
      process.queue.result .writer = some (.status (-1))
  told : process.queue.result .writer = some (.status (-1)) →
    process.Drained
  left : process.writer = .drained ∨ process.writer = .reporting ∨
    (process.writer = .ended ∧ process.boot = some true) → process.Drained
  none : process.h264 = .absent → process.queue.object.pushed = []
  accepted : process.queue.object.accepted =
    process.queue.object.pushed.length

/-- Nothing is put into a queue that is closed. -/
theorem drained_body
    {run : QueueRun} {op : FqCall} {effect : Effect QueueRun FqResult}
    (effects : fqMonitor.body run op = some effect)
    (closed : run.state.queue.closed = true)
    (empty : run.state.queue.count = 0) :
    effect.object.state.queue.closed = true ∧
      effect.object.state.queue.count = 0 := by
  refine ⟨fqMonitor_signals.stays _ _ _ effects closed, ?_⟩
  cases op with
  | push unit =>
      obtain rfl := Option.some.inj effects
      have fewer := (run.push_frame unit).2
      rw [FrameQueue.stores, closed, empty] at fewer
      exact Nat.le_zero.mp fewer
  | pop =>
      rcases fqMonitor_pop run with ⟨body, -⟩ | ⟨body, -⟩ | ⟨out, body, some⟩
      · rw [effects] at body
        cases body
      · obtain rfl := Option.some.inj (effects.symm.trans body)
        exact empty
      · omega
  | _ =>
      obtain rfl := Option.some.inj effects
      exact empty

/-- What the three calls of another thread leave to the writer. -/
theorem Delivering.commit
    (delivering : Delivering process) {thread : Party} {op : FqCall}
    {effect : Effect QueueRun FqResult}
    (effects : fqMonitor.body process.queue.object op = some effect)
    (closed : effect.object.state.queue.closed = true →
      process.main.shut = true)
    (closes : thread = .main →
      effect.object.state.queue.closed = true)
    (pops : thread = .writer → process.writer = .popping →
      (∃ out, effect.result = .frame out) ∨ effect.result = .status (-1))
    (told : thread = .writer → effect.result = .status (-1) →
      process.Drained)
    (none : process.h264 = .absent → effect.object.pushed = [])
    (accepted : effect.object.accepted = effect.object.pushed.length) :
    Delivering
      { process with queue := process.queue.commit thread op effect } := by
  have drains : process.Drained →
      effect.object.state.queue.closed = true ∧
        effect.object.state.queue.count = 0 := fun drained =>
    drained_body effects drained.1 drained.2
  have phase : ∀ {other : Party}, other ≠ thread →
      (process.queue.commit thread op effect).phase other =
        process.queue.phase other := fun different =>
    phase_move_of_ne different _
  have result : ∀ {other : Party}, other ≠ thread →
      (process.queue.commit thread op effect).result other =
        process.queue.result other := fun different =>
    Function.update_of_ne different ..
  have own : (process.queue.commit thread op effect).result thread =
      some effect.result := Function.update_self ..
  refine ⟨closed, fun at_ => ?_, fun at_ => ?_, fun at_ => ?_, fun told_ => ?_,
    fun left => drains (delivering.left left), none, accepted⟩
  · by_cases self : Party.main = thread
    · exact Or.inr (closes self.symm)
    · change ((process.queue.commit thread op effect).phase .main).op = _ ∨ _
      rw [phase self]
      exact (delivering.closes at_).imp_right fun shut =>
        fqMonitor_signals.stays _ _ _ effects shut
  · exact fqMonitor_signals.stays _ _ _ effects (delivering.shut at_)
  · change ((process.queue.commit thread op effect).phase .writer).op = _ ∨
      (∃ out, (process.queue.commit thread op effect).result .writer = _) ∨
      (process.queue.commit thread op effect).result .writer = _
    by_cases self : Party.writer = thread
    · rw [self, own]
      rcases pops self.symm at_ with ⟨out, given⟩ | given
      · exact Or.inr (Or.inl ⟨out, congrArg some given⟩)
      · exact Or.inr (Or.inr (congrArg some given))
    · rw [phase self, result self]
      exact delivering.pops at_
  · change (process.queue.commit thread op effect).result .writer = _ at told_
    by_cases self : Party.writer = thread
    · rw [self, own] at told_
      exact drains (told self.symm (Option.some.inj told_))
    · rw [result self] at told_
      exact drains (delivering.told told_)

/-- Within the calls of the queue. -/
theorem Delivering.within
    (delivering : Delivering process) (ordered : Ordered process)
    (calling : Calling process) {action : Action FqCall Party}
    {next : Monitor.Threads QueueRun FqCall FqResult Party}
    (step : fqMonitor.Step process.queue action next)
    (goes : action.calls = false) :
    Delivering { process with queue := next } := by
  rcases step.within goes with
    ⟨thread, op, effect, holds, effects, rfl⟩ | stays
  · have called : process.Calls thread op := by
      refine calling.calls thread op ?_
      rw [holds]
      rfl
    cases thread with
    | main =>
        obtain ⟨closing, rfl⟩ := called
        obtain rfl := Option.some.inj effects
        refine delivering.commit effects (fun _ => ?_) (fun _ => rfl)
          (fun writer => by cases writer) (fun writer => by cases writer)
          delivering.none delivering.accepted
        rw [closing]
        rfl
    | h264 =>
        obtain ⟨pushing, unit, rfl⟩ := called
        obtain rfl := Option.some.inj effects
        have same := (process.queue.object.push_frame unit).1
        refine delivering.commit effects
          (fun closed => delivering.closed (same.symm.trans closed))
          (fun main => by cases main) (fun writer => by cases writer)
          (fun writer => by cases writer) (fun absent => ?_) ?_
        · rw [pushing] at absent
          cases absent
        · -- No frame is pushed after `fq_close`: `h264_thread` has been joined.
          have opened : ¬process.queue.object.state.queue.closed = true := by
            intro closed
            have joined : process.main.joined = true := by
              have shut := delivering.closed closed
              cases at_ : process.main <;> simp_all [MainAt.shut, MainAt.joined]
            rcases ordered.joined joined with absent | ended
            · rw [pushing] at absent
              cases absent
            · rw [pushing] at ended
              cases ended
          change (if _ then _ else _) = (_ ++ [unit]).length
          rw [if_neg opened, delivering.accepted, List.length_append,
            List.length_singleton]
    | writer =>
        rcases called with ⟨popping, rfl⟩ | ⟨reporting, rfl⟩
        · rcases fqMonitor_pop process.queue.object with
            ⟨body, -⟩ | ⟨body, empty, closed⟩ | ⟨out, body, -⟩
          · rw [effects] at body
            cases body
          · obtain rfl := Option.some.inj (effects.symm.trans body)
            exact delivering.commit effects delivering.closed
              (fun main => by cases main) (fun _ _ => Or.inr rfl)
              (fun _ _ => ⟨closed, empty⟩) delivering.none delivering.accepted
          · obtain rfl := Option.some.inj (effects.symm.trans body)
            have same := process.queue.object.pop_frame.1
            obtain ⟨pushed, accepted⟩ := process.queue.object.pop_keeps
            refine delivering.commit effects
              (fun closed => delivering.closed (same.symm.trans closed))
              (fun main => by cases main) (fun _ _ => Or.inl ⟨out, rfl⟩)
              (fun _ given => by cases given)
              (fun absent => pushed.trans (delivering.none absent)) ?_
            rw [accepted, pushed]
            exact delivering.accepted
        · obtain rfl := Option.some.inj effects
          refine delivering.commit effects delivering.closed
            (fun main => by cases main) (fun _ popping => ?_)
            (fun _ given => by cases given) delivering.none delivering.accepted
          rw [reporting] at popping
          cases popping
  · obtain ⟨closed, closes, shut, pops, told, left, none, accepted⟩ :=
      delivering
    constructor <;>
      simp only [Drained, stays.object, stays.result, stays.op] <;> assumption

/-- Outside the calls of the queue. -/
theorem Delivering.party
    (delivering : Delivering process) (queue : after.queue = process.queue)
    (shut : process.main.shut = true → after.main.shut = true)
    (closing : after.main = .closing → process.main = .closing)
    (joins : after.main = .joinWriter →
      process.queue.object.state.queue.closed = true)
    (popping : after.writer = .popping → process.writer = .popping)
    (left : after.writer = .drained ∨ after.writer = .reporting ∨
      (after.writer = .ended ∧ after.boot = some true) → process.Drained)
    (none : after.h264 = .absent → process.h264 = .absent) :
    Delivering after := by
  obtain ⟨queue', destroyed, isRunning, producersRun, boot, main, h264,
    writer⟩ := after
  obtain rfl : queue' = process.queue := queue
  exact ⟨fun closed => shut (delivering.closed closed),
    fun at_ => delivering.closes (closing at_), joins,
    fun at_ => delivering.pops (popping at_), delivering.told, left,
    fun absent => delivering.none (none absent), delivering.accepted⟩

/-- A thread begins a call. -/
theorem Delivering.call
    (delivering : Delivering process) {party : Party} {op : FqCall}
    {next : Monitor.Threads QueueRun FqCall FqResult Party}
    (step : fqMonitor.Step process.queue (.call party op) next)
    (queue : after.queue = next)
    (shut : process.main.shut = true → after.main.shut = true)
    (closing : after.main = .closing → process.main = .closing ∨
      (party = .main ∧ op = .close))
    (joins : after.main = .joinWriter → process.main = .joinWriter)
    (popping : after.writer = .popping → process.writer = .popping ∨
      (party = .writer ∧ op = .pop))
    (left : after.writer = .drained ∨ after.writer = .reporting ∨
      (after.writer = .ended ∧ after.boot = some true) → process.Drained)
    (none : after.h264 = .absent → process.h264 = .absent) :
    Delivering after := by
  obtain ⟨queue', destroyed, isRunning, producersRun, boot, main, h264,
    writer⟩ := after
  obtain rfl : queue' = next := queue
  cases step with
  | call _ idle =>
      have begun : ∀ other pending,
          (process.queue.phase other).op = some pending ∨
            (other = party ∧ pending = op) →
          ((process.queue.move party (.calls op)).phase other).op =
            some pending := by
        rintro other pending (before | ⟨rfl, rfl⟩)
        · have different : other ≠ party := by
            rintro rfl
            rw [idle] at before
            cases before
          rw [phase_move_of_ne different]
          exact before
        · rw [phase_move_self]
          rfl
      refine ⟨fun closed => shut (delivering.closed closed), fun at_ => ?_,
        fun at_ => delivering.shut (joins at_), fun at_ => ?_,
        delivering.told, left, fun absent => delivering.none (none absent),
        delivering.accepted⟩
      · rcases closing at_ with already | ⟨rfl, rfl⟩
        · exact (delivering.closes already).imp_left
            fun before => begun _ _ (Or.inl before)
        · exact Or.inl (begun _ _ (Or.inr ⟨rfl, rfl⟩))
      · rcases popping at_ with already | ⟨rfl, rfl⟩
        · exact (delivering.pops already).imp_left
            fun before => begun _ _ (Or.inl before)
        · exact Or.inl (begun _ _ (Or.inr ⟨rfl, rfl⟩))

theorem Step.delivering
    (step : Step process event after) (ordered : Ordered process)
    (calling : Calling process) (delivering : Delivering process) :
    Delivering after := by
  have left := delivering.left
  have shut := delivering.shut
  cases step with
  | queue within step => exact delivering.within ordered calling step within
  | closeQueue at_ step =>
      exact delivering.call step rfl (fun _ => rfl)
        (fun _ => Or.inr ⟨rfl, rfl⟩) (fun at_ => by cases at_)
        (fun popping => Or.inl popping) left fun absent => absent
  | push unit at_ step =>
      exact delivering.call step rfl (fun before => before)
        (fun closing => Or.inl closing) (fun joins => joins)
        (fun popping => Or.inl popping) left fun absent => by cases absent
  | pop at_ step =>
      exact delivering.call step rfl (fun before => before)
        (fun closing => Or.inl closing) (fun joins => joins)
        (fun _ => Or.inr ⟨rfl, rfl⟩) (fun ends => by simp at ends)
        fun absent => absent
  | report at_ step =>
      exact delivering.call step rfl (fun before => before)
        (fun closing => Or.inl closing) (fun joins => joins)
        (fun popping => by cases popping) (fun _ => left (Or.inl at_))
        fun absent => absent
  | closed at_ idle =>
      have closed : process.queue.object.state.queue.closed = true := by
        refine (delivering.closes at_).resolve_left fun pending => ?_
        rw [idle] at pending
        cases pending
      exact delivering.party rfl (fun _ => rfl) (fun at_ => by cases at_)
        (fun _ => closed) (fun popping => popping) left fun absent => absent
  | drained at_ idle result =>
      exact delivering.party rfl (fun before => before)
        (fun closing => closing) shut (fun popping => by cases popping)
        (fun _ => delivering.told result) fun absent => absent
  | reported at_ idle =>
      exact delivering.party rfl (fun before => before)
        (fun closing => closing) shut (fun popping => by cases popping)
        (fun _ => left (Or.inr (Or.inl at_))) fun absent => absent
  | refused at_ =>
      have refused : process.boot = some false := by
        have tells := ordered.tells
        rwa [at_] at tells
      refine delivering.party rfl (fun before => before)
        (fun closing => closing) shut (fun popping => by cases popping)
        (fun ends => ?_) fun absent => absent
      simp [refused] at ends
  | createWriter at_ =>
      exact delivering.party rfl (by simp [at_, MainAt.shut]) (by simp) (by simp)
        (by simp) (by simp) fun absent => absent
  | refuse at_ | boot at_ | popped out at_ idle result =>
      exact delivering.party rfl (fun before => before)
        (fun closing => closing) shut (by simp) (by simp) fun absent => absent
  | createH264 at_ | noMemory at_ | allocated at_ | again at_ run | finish at_ run
  | noFrame at_ | pushed at_ idle =>
      refine delivering.party rfl ?_ ?_ ?_ (fun popping => popping) left ?_ <;>
        simp_all [MainAt.shut]
  | _ =>
      refine delivering.party rfl ?_ ?_ ?_ (fun popping => popping) left
        (fun absent => absent) <;> simp_all [MainAt.shut]

/-! ## Every run -/

/-- The queue takes steps of its own. -/
theorem Step.queue_step (step : Step process event after) :
    after.queue = process.queue ∨
      ∃ action, fqMonitor.Step process.queue action after.queue := by
  cases step with
  | queue within step => exact Or.inr ⟨_, step⟩
  | closeQueue at_ step => exact Or.inr ⟨_, step⟩
  | push unit at_ step => exact Or.inr ⟨_, step⟩
  | pop at_ step => exact Or.inr ⟨_, step⟩
  | report at_ step => exact Or.inr ⟨_, step⟩
  | _ => exact Or.inl rfl

/-- What holds at any time. -/
structure Sound (start : QueueRun) (process : Process) : Prop where
  ordered : Ordered process
  calling : Calling process
  delivering : Delivering process
  orderly : Orderly fqMonitor (fun run => run.state.queue.count)
    (fun run => run.state.queue.closed) FqCall.isPop start process.queue

theorem Step.sound
    {start : QueueRun} (step : Step process event after)
    (sound : Sound start process) : Sound start after where
  ordered := step.ordered sound.ordered
  calling := step.calling sound.ordered sound.calling
  delivering := step.delivering sound.ordered sound.calling sound.delivering
  orderly := by
    rcases step.queue_step with same | ⟨action, moves⟩
    · rw [same]
      exact sound.orderly
    · exact moves.orderly fqMonitor_signals sound.orderly

theorem start_sound (queue : FrameQueue) (opened : queue.closed = false) :
    Sound (QueueRun.start queue) (start queue) where
  ordered := by constructor <;> simp [start, MainAt.joined, MainAt.writes,
    WriterAt.Tells]
  calling := ⟨fun party busy => absurd rfl busy, fun party op pending => by
    cases pending⟩
  delivering := by
    constructor <;> simp [start, QueueRun.start, opened]
  orderly := orderly_start

theorem Step.stays
    (step : Step process event after) (destroyed : process.destroyed = true) :
    after.destroyed = true := by
  cases step <;> first | exact destroyed | rfl

/-- After the last call of the queue nothing is done with it. -/
theorem Sound.silent
    {queue : QueueRun} (sound : Sound queue process)
    (destroyed : process.destroyed = true) :
    (∀ party, process.queue.phase party = .idle) ∧
      ∀ {event after}, Step process event after →
        after.queue = process.queue := by
  have returned := sound.ordered.destroyed destroyed
  have h264 := sound.ordered.joined (by rw [returned]; rfl)
  have writer := sound.ordered.finished (Or.inr returned)
  have idle : ∀ party, process.queue.phase party = .idle := by
    intro party
    by_contra busy
    obtain ⟨op, calls⟩ := sound.calling.busy party busy
    cases party with
    | main => simp [Calls, returned] at calls
    | h264 => rcases h264 with at_ | at_ <;> simp [Calls, at_] at calls
    | writer => rcases writer with at_ | at_ <;> simp [Calls, at_] at calls
  refine ⟨idle, fun {event after} step => ?_⟩
  cases step with
  | queue within step => cases step <;> simp_all [Phase.asleep, Action.calls]
  | closeQueue at_ step => simp_all
  | push unit at_ step => simp_all
  | pop at_ step => simp_all
  | report at_ step => simp_all
  | _ => rfl

/-! ## Where no thread goes on -/

section Stuck

variable {queue : QueueRun} (sound : Sound queue process)
  (stuck : ∀ event after, event.proceeds = true → ¬Step process event after)

include sound stuck

/-- A thread in a call waits at an open queue. -/
theorem Sound.rests (party : Party) :
    process.queue.phase party = .idle ∨
      (process.queue.phase party = .waits .pop ∧
        process.Calls party .pop ∧
        process.queue.object.state.queue.closed = false) := by
  have still : ∀ action next, action.proceeds = true →
      ¬fqMonitor.Step process.queue action next := by
    intro action next proceeds step
    refine stuck (.queue action) _ proceeds (.queue ?_ step)
    cases action with
    | call => cases proceeds
    | wake => cases proceeds
    | _ => rfl
  refine (sound.orderly.awake.stuck sound.orderly.exclusive still
    party).imp_right ?_
  rintro ⟨asleep, -, opened⟩
  obtain ⟨op, waits⟩ := Phase.asleep_iff.mp asleep
  have pops := sound.orderly.awake.waits party op waits
  cases op with
  | pop =>
      refine ⟨waits, sound.calling.calls party .pop ?_, opened⟩
      rw [waits]
      rfl
  | _ => cases pops

/-- `h264_thread` has ended. -/
theorem Sound.h264_stuck :
    process.h264 = .absent ∨ process.h264 = .ended := by
  have next : ∀ after, ¬Step process (.party .h264) after :=
    fun after => stuck _ _ rfl
  cases at_ : process.h264 with
  | absent => exact Or.inl rfl
  | ended => exact Or.inr rfl
  | starting => exact absurd (.allocated at_) (next _)
  | loop =>
      cases run : process.producersRun with
      | true => exact absurd (.again at_ run) (next _)
      | false => exact absurd (.finish at_ run) (next _)
  | frame => exact absurd (.noFrame at_) (next _)
  | pushing =>
      rcases sound.rests stuck .h264 with idle | ⟨-, calls, -⟩
      · exact absurd (.pushed at_ idle) (next _)
      · obtain ⟨-, unit, push⟩ := calls
        cases push

/-- The writer has ended, or it waits for frames. -/
theorem Sound.writer_stuck :
    process.writer = .absent ∨ process.writer = .ended ∨
      (process.writer = .popping ∧
        process.queue.object.state.queue.closed = false) := by
  have next : ∀ after, ¬Step process (.party .writer) after :=
    fun after => stuck _ _ rfl
  have rests := sound.rests stuck .writer
  cases at_ : process.writer with
  | absent => exact Or.inl rfl
  | ended => exact Or.inr (Or.inl rfl)
  | booting => exact absurd (.boot at_) (next _)
  | refused => exact absurd (.refused at_) (next _)
  | loop =>
      rcases rests with idle | ⟨-, calls, -⟩
      · exact absurd (.pop at_ (.call _ idle)) (next _)
      · simp [Calls, at_] at calls
  | popping =>
      rcases rests with idle | ⟨-, -, opened⟩
      · rcases sound.delivering.pops at_ with pending | ⟨out, result⟩ | result
        · rw [idle] at pending
          cases pending
        · exact absurd (.popped out at_ idle result) (next _)
        · exact absurd (.drained at_ idle result) (next _)
      · exact Or.inr (Or.inr ⟨rfl, opened⟩)
  | drained =>
      rcases rests with idle | ⟨-, calls, -⟩
      · exact absurd (.report at_ (.call _ idle)) (next _)
      · simp [Calls, at_] at calls
  | reporting =>
      rcases rests with idle | ⟨-, calls, -⟩
      · exact absurd (.reported at_ idle) (next _)
      · simp [Calls, at_] at calls

/-- `main` has returned, or waits for a signal. -/
theorem Sound.main_stuck :
    process.main = .returned ∨
      (process.main = .serve ∧ process.isRunning = true) := by
  have next : ∀ after, ¬Step process (.party .main) after :=
    fun after => stuck _ _ rfl
  have tells := sound.ordered.tells
  have writer := sound.writer_stuck stuck
  have idle : process.queue.phase .main = .idle := by
    refine (sound.rests stuck .main).resolve_right fun ⟨_, calls, _⟩ => ?_
    cases calls.2
  cases at_ : process.main with
  | returned => exact Or.inl rfl
  | serve =>
      refine Or.inr ⟨rfl, ?_⟩
      by_contra signalled
      exact next _ (.leave at_ (by simpa using signalled))
  | createWriter => exact absurd (.createWriter at_) (next _)
  | awaitBoot =>
      have there := sound.ordered.awaits at_
      have told : process.boot.isSome = true := by
        rcases writer with absent | ended | ⟨popping, -⟩
        · exact absurd absent there
        · rwa [ended] at tells
        · rw [popping] at tells
          rw [show process.boot = some true from tells]
          rfl
      cases boot : process.boot with
      | none =>
          rw [boot] at told
          cases told
      | some ok =>
          cases ok with
          | true => exact absurd (.booted at_ boot) (next _)
          | false => exact absurd (.notBooted at_ boot) (next _)
  | joinRefused =>
      have refused := sound.ordered.refused at_
      rw [refused] at tells
      rcases writer with absent | ended | ⟨popping, -⟩
      · simp [absent, WriterAt.Tells] at tells
      · exact absurd (.joinRefused at_ ended) (next _)
      · simp [popping, WriterAt.Tells] at tells
  | initMedia => exact absurd (.initMedia at_) (next _)
  | createH264 => exact absurd (.createH264 at_) (next _)
  | createOthers => exact absurd (.createOthers at_) (next _)
  | failThreads => exact absurd (.failThreads at_) (next _)
  | stopMedia => exact absurd (.stopMedia at_) (next _)
  | joinH264 =>
      exact absurd (.joinH264 at_ (sound.h264_stuck stuck)) (next _)
  | closeQueue => exact absurd (.closeQueue at_ (.call _ idle)) (next _)
  | closing => exact absurd (.closed at_ idle) (next _)
  | joinWriter =>
      have booted := sound.ordered.writes (by rw [at_]; rfl)
      rw [booted] at tells
      rcases writer with absent | ended | ⟨popping, opened⟩
      · simp [absent, WriterAt.Tells] at tells
      · exact absurd (.joinWriter at_ ended) (next _)
      · have closed := sound.delivering.shut at_
        rw [opened] at closed
        cases closed
  | destroyQueue => exact absurd (.destroyQueue at_) (next _)

end Stuck

/-- At the end of `main` the queue is empty. -/
theorem Sound.depth_eq_zero
    {queue : QueueRun} (sound : Sound queue process)
    (destroyed : process.destroyed = true)
    (accounted : process.queue.object.accepted =
      process.queue.object.popped.length +
        fqDropped process.queue.object.state +
        fqDepth process.queue.object.state) :
    fqDepth process.queue.object.state = 0 := by
  have returned := sound.ordered.destroyed destroyed
  by_cases created : process.h264 = .absent
  · have accepted := sound.delivering.accepted
    rw [sound.delivering.none created, List.length_nil] at accepted
    omega
  · have booted := sound.ordered.running created
    have ended : process.writer = .ended := by
      refine (sound.ordered.finished (Or.inr returned)).resolve_left ?_
      intro absent
      have tells := sound.ordered.tells
      rw [absent, booted] at tells
      cases tells
    exact (sound.delivering.left (Or.inr (Or.inr ⟨ended, booted⟩))).2

end Process

/-- From its start to its exit, whatever fails and whenever it is signalled: once
`main` has destroyed the queue no thread is in a call of it or calls it again, and
each frame that was pushed has been popped, in its turn, or counted as dropped.
The process gets stuck only where `main` waits for its signal. -/
theorem shutdown_delivers
    {capacity : Nat} {queue : FrameQueue}
    (created : fqCreate capacity true = some queue)
    {events : List Process.Event} {process : Process}
    (runs : Runs Process.Step (Process.start queue) events process) :
    let run := process.queue.object
    (process.destroyed = true →
      ((∀ party, process.queue.phase party = .idle) ∧
        ∀ more after, Runs Process.Step process more after →
          after.queue = process.queue) ∧
      run.popped.Sublist (storedFrames run.pushed) ∧
      run.pushed.length = run.popped.length + fqDropped run.state) ∧
    ((∀ event after, event.proceeds = true →
        ¬Process.Step process event after) →
      process.main = .returned ∨
        (process.main = .serve ∧ process.isRunning = true)) := by
  intro run
  have opened : queue.closed = false := by
    cases capacity with
    | zero => cases created
    | succ capacity =>
        obtain rfl := Option.some.inj created
        rfl
  have sound : Process.Sound (QueueRun.start queue) process :=
    runs.invariant (fun step => step.sound) (Process.start_sound queue opened)
  refine ⟨fun destroyed => ?_, fun stuck => sound.main_stuck stuck⟩
  have accounted : QueueRun.Accounted capacity run := by
    have accounted := QueueRun.accounted_run created
      (FqCall.events process.queue.history)
    have replays : process.queue.object = _ := sound.orderly.replays
    rw [foldl_apply_eq_run] at replays
    rwa [← replays] at accounted
  have empty := sound.depth_eq_zero destroyed accounted.accounted
  refine ⟨⟨(sound.silent destroyed).1, fun more after later => ?_⟩,
    (List.sublist_append_left _ _).trans accounted.ordered, ?_⟩
  · have silent : Process.Sound (QueueRun.start queue) after ∧
        after.destroyed = true ∧ after.queue = process.queue := by
      apply later.invariant
      · rintro before event next step ⟨sound, destroyed, same⟩
        exact ⟨step.sound sound, step.stays destroyed,
          ((sound.silent destroyed).2 step).trans same⟩
      · exact ⟨sound, destroyed, rfl⟩
    exact silent.2.2
  · have accepted : run.accepted = run.pushed.length :=
      sound.delivering.accepted
    have total := accounted.accounted
    change fqDepth run.state = 0 at empty
    omega

namespace Process

/-- Where the process goes when nothing fails: the queue's own steps, a signal, and
what comes next in each thread, with these access units for the frames. -/
def next (unit : Nat → AccessUnit) (process : Process) : Event → Option Process
  | .queue action =>
      if action.calls then none
      else (fqMonitor.next process.queue action).map fun queue =>
        { process with queue }
  | .signal => some { process with isRunning := false }
  | .party .main =>
      match process.main with
      | .createWriter =>
          some { process with main := .awaitBoot, writer := .booting }
      | .awaitBoot =>
          if process.boot = some true then
            some { process with main := .initMedia }
          else none
      | .initMedia =>
          some { process with main := .createH264, producersRun := true }
      | .createH264 =>
          some { process with main := .createOthers, h264 := .starting }
      | .createOthers => some { process with main := .serve }
      | .serve =>
          if process.isRunning = false then
            some { process with main := .stopMedia }
          else none
      | .stopMedia =>
          some { process with main := .joinH264, producersRun := false }
      | .joinH264 =>
          if process.h264 = .ended then
            some { process with main := .closeQueue }
          else none
      | .closeQueue =>
          (fqMonitor.next process.queue (.call .main .close)).map fun queue =>
            { process with main := .closing, queue }
      | .closing =>
          if process.queue.phase .main = .idle then
            some { process with main := .joinWriter }
          else none
      | .joinWriter =>
          if process.writer = .ended then
            some { process with main := .destroyQueue }
          else none
      | .destroyQueue =>
          some { process with main := .returned, destroyed := true }
      | _ => none
  | .party .h264 =>
      match process.h264 with
      | .starting => some { process with h264 := .loop }
      | .loop =>
          if process.producersRun then some { process with h264 := .frame }
          else some { process with h264 := .ended }
      | .frame =>
          (fqMonitor.next process.queue (.call .h264
              (.push (unit process.queue.object.pushed.length)))).map
            fun queue => { process with h264 := .pushing, queue }
      | .pushing =>
          if process.queue.phase .h264 = .idle then
            some { process with h264 := .loop }
          else none
      | _ => none
  | .party .writer =>
      match process.writer with
      | .booting =>
          some { process with writer := .loop, boot := some true }
      | .loop =>
          (fqMonitor.next process.queue (.call .writer .pop)).map fun queue =>
            { process with writer := .popping, queue }
      | .popping =>
          if process.queue.phase .writer = .idle then
            match process.queue.result .writer with
            | some (.frame _) => some { process with writer := .loop }
            | some (.status (-1)) => some { process with writer := .drained }
            | _ => none
          else none
      | .drained =>
          (fqMonitor.next process.queue (.call .writer .dropped)).map
            fun queue => { process with writer := .reporting, queue }
      | .reporting =>
          if process.queue.phase .writer = .idle then
            some { process with writer := .ended }
          else none
      | _ => none

theorem next_main
    {unit : Nat → AccessUnit} {process after : Process}
    (leads : process.next unit (.party .main) = some after) :
    Step process (.party .main) after := by
  cases at_ : process.main <;> simp only [next, at_] at leads
  case createWriter => exact Option.some.inj leads ▸ .createWriter at_
  case initMedia => exact Option.some.inj leads ▸ .initMedia at_
  case createH264 => exact Option.some.inj leads ▸ .createH264 at_
  case createOthers => exact Option.some.inj leads ▸ .createOthers at_
  case stopMedia => exact Option.some.inj leads ▸ .stopMedia at_
  case destroyQueue => exact Option.some.inj leads ▸ .destroyQueue at_
  case closeQueue =>
      obtain ⟨queue, moved, rfl⟩ := Option.map_eq_some_iff.mp leads
      exact .closeQueue at_ (step_of_next moved)
  all_goals first
    | cases leads
    | split at leads
      · rename_i met
        obtain rfl := Option.some.inj leads
        first
          | exact .booted at_ met
          | exact .leave at_ met
          | exact .joinH264 at_ (Or.inr met)
          | exact .closed at_ met
          | exact .joinWriter at_ met
      · cases leads

theorem next_h264
    {unit : Nat → AccessUnit} {process after : Process}
    (leads : process.next unit (.party .h264) = some after) :
    Step process (.party .h264) after := by
  cases at_ : process.h264 <;> simp only [next, at_] at leads
  case starting => exact Option.some.inj leads ▸ .allocated at_
  case loop =>
      split at leads
      · exact Option.some.inj leads ▸ .again at_ ‹_›
      · exact Option.some.inj leads ▸
          .finish at_ (Bool.eq_false_of_not_eq_true ‹_›)
  case frame =>
      obtain ⟨queue, moved, rfl⟩ := Option.map_eq_some_iff.mp leads
      exact .push _ at_ (step_of_next moved)
  case pushing =>
      split at leads
      · exact Option.some.inj leads ▸ .pushed at_ ‹_›
      · cases leads
  all_goals cases leads

theorem next_writer
    {unit : Nat → AccessUnit} {process after : Process}
    (leads : process.next unit (.party .writer) = some after) :
    Step process (.party .writer) after := by
  cases at_ : process.writer <;> simp only [next, at_] at leads
  case booting => exact Option.some.inj leads ▸ .boot at_
  case loop =>
      obtain ⟨queue, moved, rfl⟩ := Option.map_eq_some_iff.mp leads
      exact .pop at_ (step_of_next moved)
  case drained =>
      obtain ⟨queue, moved, rfl⟩ := Option.map_eq_some_iff.mp leads
      exact .report at_ (step_of_next moved)
  case popping =>
      split at leads
      · split at leads
        · exact Option.some.inj leads ▸ .popped _ at_ ‹_› ‹_›
        · exact Option.some.inj leads ▸ .drained at_ ‹_› ‹_›
        · cases leads
      · cases leads
  case reporting =>
      split at leads
      · exact Option.some.inj leads ▸ .reported at_ ‹_›
      · cases leads
  all_goals cases leads

/-- Where nothing fails the process takes its steps. -/
theorem step_of_next
    {unit : Nat → AccessUnit} {process after : Process} {event : Event}
    (leads : process.next unit event = some after) :
    Step process event after := by
  cases event with
  | queue action =>
      rw [next] at leads
      split at leads
      · cases leads
      · rename_i within
        obtain ⟨queue, moved, rfl⟩ := Option.map_eq_some_iff.mp leads
        exact .queue (by simpa using within) (Monitor.step_of_next moved)
  | signal => exact Option.some.inj leads ▸ .signal
  | party party =>
      cases party with
      | main => exact next_main leads
      | h264 => exact next_h264 leads
      | writer => exact next_writer leads

end Process

/-- With a queue of one frame: the writer waits for the first frame and gets it; of
the next two the second displaces the first; a signal ends the loop of `main`, the
producer is joined, the queue is closed, and the writer takes the last frame. -/
theorem shutdown_delivers_signal :
    let queue := (fqCreate 1 true).get rfl
    ∃ events process, Runs Process.Step (Process.start queue) events process ∧
      Process.Event.signal ∈ events ∧ process.destroyed = true ∧
      process.queue.object.pushed.map AccessUnit.ptsUs = [0, 1, 2] ∧
      process.queue.object.popped.map FqFrame.ptsUs = [0, 2] ∧
      process.queue.object.popped.Sublist
        (storedFrames process.queue.object.pushed) ∧
      process.queue.object.pushed.length =
        process.queue.object.popped.length +
          fqDropped process.queue.object.state := by
  intro queue
  let units (index : Nat) : AccessUnit := ⟨[1], true, index, by decide⟩
  -- a thread in a call of the queue that nobody holds up
  let section_ (party : Party) : List Process.Event :=
    [.queue (.lock party), .queue (.body party)]
  let call (party : Party) : List Process.Event :=
    .party party :: section_ party ++
      [.queue (.unlock party), .party party]
  let push (woken : Finset Party) : List Process.Event :=
    [.party .h264, .party .h264] ++ section_ .h264 ++
      [.queue (.signal .h264 woken), .queue (.unlock .h264), .party .h264]
  let events : List Process.Event :=
    [.party .main, .party .writer] ++ List.replicate 4 (.party .main) ++
    .party .writer :: section_ .writer ++ .party .h264 :: push {.writer} ++
    section_ .writer ++ [.queue (.unlock .writer), .party .writer] ++
    push ∅ ++ push ∅ ++
    [.signal, .party .main, .party .main, .party .h264, .party .main] ++
    .party .main :: section_ .main ++
    [.queue (.broadcast .main), .queue (.unlock .main), .party .main] ++
    call .writer ++ call .writer ++ call .writer ++
    [.party .main, .party .main]
  have ends : (Runs.follow (Process.next units) (Process.start queue)
      events).map (fun process => (process.destroyed,
        process.queue.object.pushed.map AccessUnit.ptsUs,
        process.queue.object.popped.map FqFrame.ptsUs)) =
      some (true, [0, 1, 2], [0, 2]) := by
    decide +kernel
  obtain ⟨process, leads, facts⟩ := Option.map_eq_some_iff.mp ends
  simp only [Prod.mk.injEq] at facts
  obtain ⟨destroyed, pushed, popped⟩ := facts
  have created : fqCreate 1 true = some queue := rfl
  have runs : Runs Process.Step (Process.start queue) events process :=
    Runs.of_follow Process.step_of_next leads
  obtain ⟨-, ordered, counted⟩ := (shutdown_delivers created runs).1 destroyed
  exact ⟨events, process, runs, by simp [events], destroyed, pushed, popped,
    ordered, counted⟩

end MotionSense
