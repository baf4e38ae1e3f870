import MotionSense.Foundations.Monitor
import MotionSense.FrameQueue.Accounting

/-!
# The threads at the frame queue

Any number of threads call `fq_push`, `fq_pop` and `fq_close`.  Here the mutex and
the condition variable of the queue are modelled as well: a thread can be held up
before each of its steps, and a thread that waits in `fq_pop` has to be woken.  What
comes before the mutex, the copy of the access unit, is private to its thread.
-/

namespace MotionSense

open Monitor

/-- The test before which `fq_push` discards its copy. -/
def FrameQueue.stores (queue : FrameQueue) (isKey : Bool) : Bool :=
  !queue.closed && (!queue.dropping || isKey)

/-- The calls of a queue that take its mutex. -/
inductive FqCall
  | push (unit : AccessUnit)
  | pop
  | close
  | dropped
  | depth
  deriving DecidableEq

/-- `fq_pop` may wait. -/
def FqCall.isPop : FqCall → Bool
  | .pop => true
  | _ => false

/-- What a call does to the queue. -/
def FqCall.event : FqCall → Option QueueEvent
  | .push unit => some (.push unit)
  | .pop => some .pop
  | .close => some .close
  | .dropped | .depth => none

/-- What a call gives its caller. -/
inductive FqResult
  | void
  | status (rc : Int)
  /-- Zero, with a frame in `out`. -/
  | frame (out : FqFrame)
  | size (value : Nat)
  deriving DecidableEq

/-- What the calls do between `pthread_mutex_lock` and `pthread_mutex_unlock`, or
`pthread_cond_wait`. -/
def fqMonitor : Monitor QueueRun FqCall FqResult where
  body run
    | .push unit =>
        some
          { object := run.step (.push unit)
            result := .status 0
            wakes := if run.state.queue.stores unit.isKey then .one else .nobody }
    | .pop =>
        match (fqPop run.state).2 with
        | .waiting => none
        | .closed => some ⟨run, .status (-1), .nobody⟩
        | .frame out => some ⟨run.step .pop, .frame out, .nobody⟩
    | .close => some ⟨run.step .close, .void, .all⟩
    | .dropped => some ⟨run, .size (fqDropped run.state), .nobody⟩
    | .depth => some ⟨run, .size (fqDepth run.state), .nobody⟩

namespace QueueRun

/-! ## What a push leaves -/

theorem dropFramesLoop_frame (rounds : Nat) (state : QueueState) :
    (dropFramesLoop rounds state).queue.count ≤ state.queue.count ∧
      (dropFramesLoop rounds state).queue.closed = state.queue.closed := by
  induction rounds generalizing state with
  | zero => exact ⟨le_rfl, rfl⟩
  | succ rounds inductionHypothesis =>
      have one : (dropFrame state).queue.count = state.queue.count - 1 := rfl
      rw [dropFramesLoop]
      split
      · obtain ⟨fewer, same⟩ := inductionHypothesis (dropFrame state)
        exact ⟨by omega, same⟩
      · exact ⟨by omega, rfl⟩

theorem dropFrames_frame (state : QueueState) :
    (dropFrames state).queue.count ≤ state.queue.count ∧
      (dropFrames state).queue.closed = state.queue.closed := by
  rw [dropFrames]
  split
  · exact ⟨le_rfl, rfl⟩
  · exact dropFramesLoop_frame _ _

/-- A push adds at most one frame, and none when it does not store its copy. -/
theorem push_frame (run : QueueRun) (unit : AccessUnit) :
    (run.step (.push unit)).state.queue.closed = run.state.queue.closed ∧
      (run.step (.push unit)).state.queue.count ≤ run.state.queue.count +
        if run.state.queue.stores unit.isKey then 1 else 0 := by
  have nonempty : ¬unit.bytes.length = 0 := by simpa using unit.nonempty
  have stored : ∀ state : QueueState,
      (storeFrame (if state.queue.count = state.queue.capacity then
          dropFrames state else state) ⟨run.state.heap.next, unit.bytes⟩
        unit.isKey unit.ptsUs).queue.closed = state.queue.closed ∧
      (storeFrame (if state.queue.count = state.queue.capacity then
          dropFrames state else state) ⟨run.state.heap.next, unit.bytes⟩
        unit.isKey unit.ptsUs).queue.count ≤ state.queue.count + 1 := by
    intro state
    split
    · obtain ⟨fewer, same⟩ := dropFrames_frame state
      exact ⟨same, Nat.succ_le_succ fewer⟩
    · exact ⟨rfl, le_rfl⟩
  simp only [step, fqPush, nonempty, if_false, Bool.not_true,
    Bool.false_eq_true]
  by_cases shut : run.state.queue.closed = true
  · rw [if_pos shut]
    exact ⟨rfl, Nat.le_add_right _ _⟩
  rw [if_neg shut]
  by_cases dropping : run.state.queue.dropping = true
  · rw [if_pos dropping]
    by_cases refused : (!unit.isKey) = true
    · rw [if_pos refused]
      exact ⟨rfl, Nat.le_add_right _ _⟩
    · have stores : run.state.queue.stores unit.isKey = true := by
        simp_all [FrameQueue.stores]
      rw [if_neg refused, stores, if_pos rfl]
      exact stored
        { queue := { run.state.queue with dropping := false }
          heap := { run.state.heap with next := run.state.heap.next + 1 } }
  · have stores : run.state.queue.stores unit.isKey = true := by
      simp_all [FrameQueue.stores]
    rw [if_neg dropping, stores, if_pos rfl]
    exact stored
      { run.state with
        heap := { run.state.heap with next := run.state.heap.next + 1 } }

/-- A pop takes one frame, if there is one. -/
theorem pop_frame (run : QueueRun) :
    (run.step .pop).state.queue.closed = run.state.queue.closed ∧
      (run.step .pop).state.queue.count = run.state.queue.count - 1 := by
  have same : (run.step .pop).state = (fqPop run.state).1 := by
    rw [step]
    split <;> rename_i equal <;> rw [equal]
  rw [same]
  refine ⟨(fqPop_frame run.state).2.2.2.2, ?_⟩
  by_cases empty : run.state.queue.count = 0
  · rw [fqPop_of_empty empty, empty]
  · simp only [fqPop, if_neg empty]

/-- A pop changes nothing that has been pushed. -/
theorem pop_keeps (run : QueueRun) :
    (run.step .pop).pushed = run.pushed ∧
      (run.step .pop).accepted = run.accepted := by
  rw [step]
  split <;> exact ⟨rfl, rfl⟩

end QueueRun

/-! ## The threads -/

/-- What `fq_pop` comes to. -/
theorem fqPop_result (state : QueueState) :
    (state.queue.count = 0 ∧ state.queue.closed = false ∧
      (fqPop state).2 = .waiting) ∨
    (state.queue.count = 0 ∧ state.queue.closed = true ∧
      (fqPop state).2 = .closed) ∨
    (0 < state.queue.count ∧ ∃ out, (fqPop state).2 = .frame out) := by
  rcases Nat.eq_zero_or_pos state.queue.count with empty | some
  · rw [fqPop_of_empty empty]
    cases state.queue.closed with
    | false => exact Or.inl ⟨empty, rfl, rfl⟩
    | true => exact Or.inr (Or.inl ⟨empty, rfl, rfl⟩)
  · refine Or.inr (Or.inr ⟨some, ?_⟩)
    simp only [fqPop, if_neg some.ne']
    exact ⟨_, rfl⟩

/-- What `fq_pop` does between its calls of the mutex. -/
theorem fqMonitor_pop (run : QueueRun) :
    (fqMonitor.body run .pop = none ∧ run.state.queue.count = 0 ∧
      run.state.queue.closed = false) ∨
    (fqMonitor.body run .pop = some ⟨run, .status (-1), .nobody⟩ ∧
      run.state.queue.count = 0 ∧ run.state.queue.closed = true) ∨
    ∃ out, fqMonitor.body run .pop =
      some ⟨run.step .pop, .frame out, .nobody⟩ ∧ 0 < run.state.queue.count := by
  simp only [fqMonitor]
  rcases fqPop_result run.state with
    ⟨empty, opened, result⟩ | ⟨empty, shut, result⟩ | ⟨some, out, result⟩
  · rw [result]
    exact Or.inl ⟨rfl, empty, opened⟩
  · rw [result]
    exact Or.inr (Or.inl ⟨rfl, empty, shut⟩)
  · rw [result]
    exact Or.inr (Or.inr ⟨out, rfl, some⟩)

/-- The queue signals each frame that it stores, and wakes all when it is closed. -/
theorem fqMonitor_signals :
    fqMonitor.Signals (fun run => run.state.queue.count)
      (fun run => run.state.queue.closed) FqCall.isPop where
  waits := by
    intro run op waits
    cases op with
    | pop =>
        rcases fqMonitor_pop run with ⟨-, none⟩ | ⟨body, -⟩ | ⟨out, body, -⟩
        · exact ⟨rfl, none⟩
        · rw [waits] at body
          cases body
        · rw [waits] at body
          cases body
    | _ => cases waits
  quiet := by
    intro run op effect effects quiet
    cases op with
    | push unit =>
        obtain ⟨same, fewer⟩ := run.push_frame unit
        obtain rfl := Option.some.inj effects
        by_cases stored : run.state.queue.stores unit.isKey = true
        · simp only [stored, if_true] at quiet
          cases quiet
        · rw [if_neg stored] at fewer
          exact ⟨fewer, fun opened => same.trans opened⟩
    | pop =>
        obtain ⟨same, fewer⟩ := run.pop_frame
        rcases fqMonitor_pop run with
          ⟨body, -⟩ | ⟨body, empty, -⟩ | ⟨out, body, -⟩
        · rw [effects] at body
          cases body
        · obtain rfl := Option.some.inj (effects.symm.trans body)
          exact ⟨by rw [empty]; exact Nat.zero_le _, fun opened => opened⟩
        · obtain rfl := Option.some.inj (effects.symm.trans body)
          exact ⟨fewer.le, fun opened => same.trans opened⟩
    | close =>
        obtain rfl := Option.some.inj effects
        cases quiet
    | dropped =>
        obtain rfl := Option.some.inj effects
        exact ⟨le_rfl, fun opened => opened⟩
    | depth =>
        obtain rfl := Option.some.inj effects
        exact ⟨le_rfl, fun opened => opened⟩
  signals := by
    intro run op effect effects one
    cases op with
    | push unit =>
        obtain ⟨same, fewer⟩ := run.push_frame unit
        obtain rfl := Option.some.inj effects
        refine ⟨rfl, fewer.trans ?_, fun opened => same.trans opened⟩
        split <;> omega
    | pop =>
        rcases fqMonitor_pop run with ⟨body, -⟩ | ⟨body, -⟩ | ⟨out, body, -⟩
        · rw [effects] at body
          cases body
        · obtain rfl := Option.some.inj (effects.symm.trans body)
          cases one
        · obtain rfl := Option.some.inj (effects.symm.trans body)
          cases one
    | _ =>
        obtain rfl := Option.some.inj effects
        cases one
  stays := by
    intro run op effect effects shut
    cases op with
    | push unit =>
        obtain rfl := Option.some.inj effects
        exact (run.push_frame unit).1.trans shut
    | pop =>
        rcases fqMonitor_pop run with ⟨body, -⟩ | ⟨body, -⟩ | ⟨out, body, -⟩
        · rw [effects] at body
          cases body
        · obtain rfl := Option.some.inj (effects.symm.trans body)
          exact shut
        · obtain rfl := Option.some.inj (effects.symm.trans body)
          exact run.pop_frame.1.trans shut
    | close =>
        obtain rfl := Option.some.inj effects
        rfl
    | _ =>
        obtain rfl := Option.some.inj effects
        exact shut

/-- A call does one of the operations of the queue, or only reads it. -/
theorem fqMonitor_apply (run : QueueRun) (op : FqCall) :
    fqMonitor.apply run op = op.event.toList.foldl QueueRun.step run := by
  cases op with
  | pop =>
      have unchanged : run.state.queue.count = 0 → run.step .pop = run := by
        intro empty
        simp only [QueueRun.step, fqPop_of_empty empty]
        cases run.state.queue.closed <;> rfl
      change _ = run.step .pop
      rcases fqMonitor_pop run with
        ⟨body, empty, -⟩ | ⟨body, empty, -⟩ | ⟨out, body, -⟩
      · rw [apply, body, unchanged empty]
        rfl
      · rw [apply, body, unchanged empty]
        rfl
      · rw [apply, body]
        rfl
  | _ => rfl

/-- The operations of the queue that calls have done. -/
def FqCall.events (calls : List FqCall) : List QueueEvent :=
  calls.filterMap FqCall.event

theorem foldl_apply_eq_run (run : QueueRun) (calls : List FqCall) :
    calls.foldl fqMonitor.apply run =
      Transition.run QueueRun.step run (FqCall.events calls) := by
  induction calls generalizing run with
  | nil => rfl
  | cons op calls inductionHypothesis =>
      rw [List.foldl_cons, inductionHypothesis, fqMonitor_apply]
      cases op <;> rfl

section Threads

variable {τ : Type} [DecidableEq τ] [Fintype τ]

/-- A thread outside is about to take a frame when it has been woken in `fq_pop`. -/
theorem owes_isPop {phase : Phase FqCall} (outside : phase.inside = false) :
    phase.owes FqCall.isPop = if phase = .woken .pop then 1 else 0 := by
  cases phase with
  | woken op => cases op <;> simp [Phase.owes, FqCall.isPop]
  | holds op => cases outside
  | signals => cases outside
  | _ => rfl

/-- However the steps of its threads are interleaved, the queue is what its calls
make of it one at a time, in the order of their critical sections.  No popper sleeps
on a frame: while the mutex is free and a thread waits, the queue is open and for
each of its frames another popper has been woken.  The threads get stuck only where
those in a call wait at an empty open queue, and after the close every call comes to
its end. -/
theorem frameQueue_wakes_poppers
    {capacity : Nat} {queue : FrameQueue}
    (created : fqCreate capacity true = some queue)
    {actions : List (Action FqCall τ)}
    {threads : Monitor.Threads QueueRun FqCall FqResult τ}
    (runs : Runs fqMonitor.Step { object := QueueRun.start queue } actions
      threads) :
    let run := threads.object
    let depth := fqDepth run.state
    let closed := run.state.queue.closed
    (run = Transition.run QueueRun.step (QueueRun.start queue)
        (FqCall.events threads.history) ∧
      run.accepted = run.popped.length + fqDropped run.state + depth) ∧
    (∀ first second, (threads.phase first).inside = true →
      (threads.phase second).inside = true → first = second) ∧
    (threads.owner = none →
      ∀ thread, (threads.phase thread).asleep = true →
        closed = false ∧ depth ≤ (Finset.univ.filter fun other =>
          threads.phase other = .woken .pop).card) ∧
    ((∀ action after, action.proceeds = true →
        ¬fqMonitor.Step threads action after) →
      ∀ thread, threads.phase thread = .idle ∨
        (threads.phase thread = .waits .pop ∧ depth = 0 ∧ closed = false)) ∧
    (closed = true → ∀ more after, Runs fqMonitor.Step threads more after →
      (∀ action ∈ more, action.calls = false) →
      more.length ≤ 5 * Fintype.card τ) := by
  intro run depth closed
  have orderly := orderly_run fqMonitor_signals runs
  have replays : run = Transition.run QueueRun.step (QueueRun.start queue)
      (FqCall.events threads.history) := by
    rw [← foldl_apply_eq_run]
    exact orderly.replays
  refine ⟨⟨replays, ?_⟩, fun _ _ => orderly.exclusive.eq, ?_, ?_, ?_⟩
  · have accounted := QueueRun.accounted_run created
      (FqCall.events threads.history)
    rw [← replays] at accounted
    exact accounted.accounted
  · intro free thread asleep
    have outside : ∀ other, (threads.phase other).inside = false := by
      intro other
      rw [Bool.eq_false_iff]
      intro inside
      rw [(orderly.exclusive other).mpr inside] at free
      cases free
    rcases orderly.awake.awake thread asleep with
      ⟨other, broadcasts⟩ | ⟨opened, owed⟩
    · have inside := outside other
      rw [broadcasts] at inside
      cases inside
    · refine ⟨opened, ?_⟩
      simp only [owes_isPop (outside _), Finset.sum_boole, Nat.cast_id] at owed
      exact owed
  · intro stuck thread
    rcases orderly.awake.stuck orderly.exclusive stuck thread with
      idle | ⟨asleep, none, opened⟩
    · exact Or.inl idle
    · obtain ⟨op, waits⟩ := Phase.asleep_iff.mp asleep
      have pops := orderly.awake.waits thread op waits
      cases op with
      | pop => exact Or.inr ⟨waits, none, opened⟩
      | _ => cases pops
  · intro shut more after later none
    exact (length_le_of_closed fqMonitor_signals later shut none).2

/-- A popper waits, and another thread pushes a frame and wakes it. -/
theorem frameQueue_wakes_poppers_one_frame :
    let unit : AccessUnit := ⟨[1], true, 0, by decide⟩
    let queue := (fqCreate 4 true).get rfl
    let actions : List (Action FqCall Bool) :=
      [.call false .pop, .lock false, .body false, .call true (.push unit),
        .lock true, .body true, .signal true {false}, .unlock true]
    ∃ threads : Monitor.Threads QueueRun FqCall FqResult Bool,
      Runs fqMonitor.Step { object := QueueRun.start queue } actions threads ∧
        threads.phase false = .woken .pop ∧
        threads.object.accepted = threads.object.popped.length +
          fqDropped threads.object.state + fqDepth threads.object.state := by
  intro unit queue actions
  obtain ⟨threads, runs, woken⟩ :
      ∃ threads : Monitor.Threads QueueRun FqCall FqResult Bool,
        Runs fqMonitor.Step { object := QueueRun.start queue } actions threads ∧
          threads.phase false = .woken .pop := by
    refine ⟨_, .cons (.call _ rfl) (.cons (.lock rfl (Or.inl rfl))
      (.cons (.wait rfl rfl) (.cons (.call _ rfl) (.cons (.lock rfl (Or.inl rfl))
      (.cons (.body rfl rfl) (.cons (.signal _ rfl ?_ ?_)
      (.cons (.unlock rfl) (.nil _)))))))), rfl⟩
    · intro other member
      rw [Finset.mem_singleton.mp member]
      rfl
    · intro other asleep
      exact Finset.singleton_nonempty _
  have created : fqCreate 4 true = some queue := rfl
  exact ⟨threads, runs, woken, (frameQueue_wakes_poppers created runs).1.2⟩

end Threads

end MotionSense
