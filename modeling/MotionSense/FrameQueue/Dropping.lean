import MotionSense.FrameQueue.Dependency

/-!
# When a keyframe ends the dropping

`fq_push` stops dropping once it sees a keyframe, and `drop_frames` starts
dropping again.  A keyframe that finds the queue full does both in one call: it
is stored, and the frames that depend on it are refused.
-/

namespace MotionSense
namespace QueueRun

/-- The push of the frame puts it into the queue. -/
def Stores (run : QueueRun) (unit : AccessUnit) : Prop :=
  unit.stored run.state.heap.next ∈ (run.step (.push unit)).queued

instance (run : QueueRun) (unit : AccessUnit) : Decidable (run.Stores unit) :=
  inferInstanceAs (Decidable (_ ∈ _))

/-- The call makes `fq_push` drop frames for want of room. -/
def Overflows (run : QueueRun) : QueueEvent → Prop
  | .push unit =>
      run.state.queue.closed = false ∧
        (run.state.queue.dropping = false ∨ unit.isKey = true) ∧
          fqDepth run.state = run.state.queue.capacity
  | _ => False

/-- Once the keyframe is pushed, every non-key frame that finds room is stored,
until the queue overflows or is closed. -/
def EndsDropping (run : QueueRun) (key : AccessUnit) : Prop :=
  ∀ (later : List QueueEvent) (unit : AccessUnit),
    Transition.Along step (fun run event => ¬run.Overflows event)
      (run.step (.push key)) later →
    let reached := Transition.run step (run.step (.push key)) later
    reached.state.queue.closed = false →
      unit.isKey = false →
        fqDepth reached.state ≠ reached.state.queue.capacity →
          reached.Stores unit

variable {capacity : Nat}

/-- A push does to the queue what it does to the list. -/
theorem Accounted.abstract_push
    {run : QueueRun} (accounted : Accounted capacity run) (unit : AccessUnit) :
    (run.step (.push unit)).state.queue.abstract =
      run.state.queue.abstract.push FqFrame.isKey
        (unit.stored run.state.heap.next) :=
  (fqPush_pushes accounted.wellFormed unit).abstract

/-- A frame pushed to a queue with room that is open and does not refuse it is
stored, and the queue does not drop then. -/
theorem Accounted.stores
    {run : QueueRun} (accounted : Accounted capacity run) {unit : AccessUnit}
    (opened : run.state.queue.closed = false)
    (taken : run.state.queue.dropping = false ∨ unit.isKey = true)
    (room : fqDepth run.state ≠ run.state.queue.capacity) :
    run.Stores unit ∧
      (run.step (.push unit)).state.queue.dropping = false := by
  have taken' : (run.state.queue.dropping && !unit.isKey) = false := by
    rcases taken with quiet | isKey
    · rw [quiet, Bool.false_and]
    · rw [isKey, Bool.not_true, Bool.and_false]
  have room' : run.state.queue.abstract.items.length ≠
      run.state.queue.abstract.capacity := by
    rw [fqDepth, ← FrameQueue.length_items] at room
    exact room
  have pushed := accounted.abstract_push unit
  rw [@LossyQueue.push_of_room _ FqFrame.isKey run.state.queue.abstract
    (unit.stored run.state.heap.next) opened taken' room'] at pushed
  refine ⟨?_, congrArg LossyQueue.dropping pushed⟩
  have items : (run.step (.push unit)).queued =
      run.queued ++ [unit.stored run.state.heap.next] :=
    congrArg LossyQueue.items pushed
  rw [Stores, items]
  exact List.mem_append_right _ (List.mem_singleton_self _)

/-- A pop changes neither the flags nor the capacity, and makes room. -/
theorem Accounted.pop_frame
    {run : QueueRun} (accounted : Accounted capacity run) :
    (run.step .pop).state.queue.dropping = run.state.queue.dropping ∧
      (run.step .pop).state.queue.closed = run.state.queue.closed ∧
      fqDepth (run.step .pop).state < capacity := by
  obtain ⟨_, _, _, dropping, closed⟩ := fqPop_frame run.state
  have same : (run.step .pop).state = (fqPop run.state).1 := by
    rw [QueueRun.step]
    split <;> rename_i equal <;> rw [equal]
  have positive := accounted.wellFormed.positive
  have bounded := accounted.wellFormed.count_le
  have shorter := (length_popped_pop accounted).2
  rw [accounted.capacity_eq] at positive bounded
  rw [shorter, same]
  refine ⟨dropping, closed, ?_⟩
  change run.state.queue.count - 1 < capacity
  omega

/-- While the queue does not overflow, it does not begin to drop. -/
theorem Accounted.quiet_step
    {run : QueueRun} (accounted : Accounted capacity run)
    (quiet : run.state.queue.dropping = false)
    {event : QueueEvent} (noOverflow : ¬run.Overflows event) :
    (run.step event).state.queue.dropping = false := by
  cases event with
  | push unit =>
      by_cases opened : run.state.queue.closed = false
      · refine (accounted.stores opened (.inl quiet) fun full => ?_).2
        exact noOverflow ⟨opened, .inl quiet, full⟩
      · have closed : run.state.queue.closed = true := by
          simpa using opened
        have same : (run.step (.push unit)).state.queue = run.state.queue :=
          queue_push_of_closed closed unit
        rw [same]
        exact quiet
  | pop => exact accounted.pop_frame.1.trans quiet
  | close => exact quiet

/-- A non-key frame pushed while the queue drops is not stored. -/
theorem Accounted.not_stores
    {run : QueueRun} (accounted : Accounted capacity run) {unit : AccessUnit}
    (opened : run.state.queue.closed = false)
    (dropping : run.state.queue.dropping = true)
    (notKey : unit.isKey = false) :
    ¬run.Stores unit := by
  have refused : (run.state.queue.dropping && !unit.isKey) = true := by
    rw [dropping, notKey]
    rfl
  have pushed := accounted.abstract_push unit
  rw [@LossyQueue.push_of_refused _ FqFrame.isKey run.state.queue.abstract
    (unit.stored run.state.heap.next) opened refused] at pushed
  have items : (run.step (.push unit)).queued = run.queued :=
    congrArg LossyQueue.items pushed
  intro stored
  rw [Stores, items] at stored
  -- every queued frame has an older address than the one of this push
  have known := getElem?_storedFrames_serial
    (accounted.ordered.subset (List.mem_append_right _ stored))
  obtain ⟨inRange, _⟩ := List.getElem?_eq_some_iff.mp known
  rw [serial_stored, length_storedFrames, accounted.next_eq] at inRange
  exact absurd inRange (lt_irrefl _)

/-- A keyframe that finds the queue full leaves it dropping. -/
theorem Accounted.dropping_push_of_full
    {run : QueueRun} (accounted : Accounted capacity run) {key : AccessUnit}
    (opened : run.state.queue.closed = false)
    (isKey : key.isKey = true)
    (full : fqDepth run.state = run.state.queue.capacity) :
    (run.step (.push key)).state.queue.dropping = true ∧
      (run.step (.push key)).state.queue.closed = false := by
  have taken : (run.state.queue.dropping && !key.isKey) = false := by
    rw [isKey, Bool.not_true, Bool.and_false]
  have full' : run.state.queue.abstract.items.length =
      run.state.queue.abstract.capacity := by
    rw [fqDepth, ← FrameQueue.length_items] at full
    exact full
  have pushed := accounted.abstract_push key
  rw [@LossyQueue.push_of_full _ FqFrame.isKey run.state.queue.abstract
    (key.stored run.state.heap.next) opened taken full'] at pushed
  exact ⟨congrArg LossyQueue.dropping pushed,
    (congrArg LossyQueue.closed pushed).trans opened⟩

end QueueRun

/-- In every reachable open queue, a keyframe that is pushed ends the dropping
exactly when it does not find the queue full. -/
theorem frameQueue_keyframe_ends_dropping_iff
    {capacity : Nat} {queue : FrameQueue}
    (created : fqCreate capacity true = some queue)
    (events : List QueueEvent)
    (key : AccessUnit)
    (isKey : key.isKey = true) :
    let run := Transition.run QueueRun.step (QueueRun.start queue) events
    run.state.queue.closed = false →
      (run.EndsDropping key ↔
        fqDepth run.state ≠ run.state.queue.capacity) := by
  intro run opened
  have accounted : QueueRun.Accounted capacity run :=
    QueueRun.accounted_run created events
  constructor
  · intro ends full
    obtain ⟨dropping, stillOpen⟩ :=
      accounted.dropping_push_of_full opened isKey full
    have accountedKey := accounted.step (.push key)
    obtain ⟨sameDropping, sameClosed, room⟩ := accountedKey.pop_frame
    have accountedPop := accountedKey.step .pop
    -- Once a pop has made room, a frame of the new group is refused.
    let unit : AccessUnit := ⟨[0], false, 0, by decide⟩
    have refused : ¬((run.step (.push key)).step .pop).Stores unit :=
      accountedPop.not_stores (sameClosed.trans stillOpen)
        (sameDropping.trans dropping) rfl
    apply refused
    refine ends [.pop] unit ⟨id, trivial⟩ (sameClosed.trans stillOpen) rfl ?_
    change fqDepth ((run.step (.push key)).step .pop).state ≠
      ((run.step (.push key)).step .pop).state.queue.capacity
    rw [accountedPop.capacity_eq]
    exact room.ne
  · intro room later unit along reached stillOpen notKey roomLater
    have quiet := (accounted.stores opened (.inr isKey) room).2
    let invariant := fun run : QueueRun =>
      QueueRun.Accounted capacity run ∧ run.state.queue.dropping = false
    have keeps : ∀ (run : QueueRun) (event : QueueEvent),
        ¬run.Overflows event → invariant run → invariant (run.step event) :=
      fun _ event noOverflow both =>
        ⟨both.1.step event, both.1.quiet_step both.2 noOverflow⟩
    have both : invariant reached :=
      Transition.run_invariant keeps along ⟨accounted.step _, quiet⟩
    exact (both.1.stores stillOpen (.inl both.2) roomLater).1

/-- A queue that is dropping and has room again. -/
theorem frameQueue_keyframe_ends_dropping_iff_room :
    let run := Transition.run QueueRun.step
      (QueueRun.start ((fqCreate 2 true).get rfl))
      [.push ⟨[1], true, 0, by decide⟩, .push ⟨[2], false, 40, by decide⟩,
        .push ⟨[3], false, 80, by decide⟩, .pop]
    run.state.queue.dropping = true ∧
      run.EndsDropping ⟨[4], true, 120, by decide⟩ := by
  intro run
  refine ⟨by decide, ?_⟩
  exact (frameQueue_keyframe_ends_dropping_iff (Option.some_get _).symm _
    ⟨[4], true, 120, by decide⟩ rfl (by decide)).mpr (by decide)

/-- A full queue of a keyframe and the frame behind it gives way to the next
keyframe, and refuses the frame behind that one although it has room. -/
theorem frameQueue_keyframe_leaves_dropping :
    ¬(Transition.run QueueRun.step
        (QueueRun.start ((fqCreate 2 true).get rfl))
        [.push ⟨[1], true, 0, by decide⟩,
          .push ⟨[2], false, 40, by decide⟩]).EndsDropping
      ⟨[3], true, 80, by decide⟩ := by
  intro ends
  have stored := ends [] ⟨[4], false, 120, by decide⟩ trivial (by decide) rfl
    (by decide)
  exact absurd stored (by decide)

end MotionSense
