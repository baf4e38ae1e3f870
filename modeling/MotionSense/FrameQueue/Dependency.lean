import MotionSense.FrameQueue.Accounting

/-!
# Which frames of the queue can be decoded

A frame that is not a keyframe is decoded from the one encoded just before it.
`drop_frames` and the `dropping` flag are there to lose whole groups of pictures.
They do so as long as a frame that finds the queue full can evict up to a
keyframe; when no later keyframe is queued, `fq_push` stores the frame behind
the gap it has just made.
-/

namespace MotionSense

/-- Serial number of the push that a popped frame comes from. -/
def FqFrame.serial (frame : FqFrame) : Nat :=
  (frame.data.map Buffer.addr).getD 0

@[simp] theorem serial_stored (unit : AccessUnit) (addr : Nat) :
    (unit.stored addr).serial = addr := rfl

/-- The frame of a push has the push's serial number. -/
theorem serial_of_getElem?_storedFrames
    {pushed : List AccessUnit} {index : Nat} {frame : FqFrame}
    (present : (storedFrames pushed)[index]? = some frame) :
    frame.serial = index := by
  rw [storedFrames, List.getElem?_map, List.getElem?_zipIdx] at present
  cases unitAt : pushed[index]? with
  | none => simp [unitAt] at present
  | some unit =>
      rw [unitAt, Option.map_some, Option.map_some] at present
      obtain rfl := Option.some.inj present
      simp

/-- A frame of some push is the one with its own serial number. -/
theorem getElem?_storedFrames_serial
    {pushed : List AccessUnit} {frame : FqFrame}
    (present : frame ∈ storedFrames pushed) :
    (storedFrames pushed)[frame.serial]? = some frame := by
  obtain ⟨index, found⟩ := List.mem_iff_getElem?.mp present
  rw [serial_of_getElem?_storedFrames found]
  exact found

namespace QueueRun

/-- Every popped frame that is not a keyframe, the very first pushed one
excepted, was popped right after the frame pushed just before it. -/
def Decodable (run : QueueRun) : Prop :=
  ∀ position frame, run.popped[position]? = some frame →
    frame.isKey = false →
      ∀ number, (storedFrames run.pushed)[number + 1]? = some frame →
        ∃ previous, position = previous + 1 ∧
          run.popped[previous]? = (storedFrames run.pushed)[number]?

/-- The call is not a push of a non-key frame that finds the open queue full
without a keyframe behind the oldest frame.  While the queue is dropping such a
frame is refused, so it does no harm then. -/
def EvictsToKeyframe (run : QueueRun) : QueueEvent → Prop
  | .push unit =>
      run.state.queue.closed = false →
        run.state.queue.dropping = false →
          unit.isKey = false →
            fqDepth run.state = run.state.queue.capacity →
              ∃ frame ∈ run.queued.tail, frame.isKey = true
  | _ => True

instance (run : QueueRun) :
    (event : QueueEvent) → Decidable (run.EvictsToKeyframe event)
  | .push unit => inferInstanceAs (Decidable (
      run.state.queue.closed = false →
        run.state.queue.dropping = false →
          unit.isKey = false →
            fqDepth run.state = run.state.queue.capacity →
              ∃ frame ∈ run.queued.tail, frame.isKey = true))
  | .pop => .isTrue trivial
  | .close => .isTrue trivial

/-- What a run of such calls keeps true. -/
structure Unbroken (capacity : Nat) (run : QueueRun) : Prop where
  accounted : Accounted capacity run
  unbroken : LossyQueue.Unbroken FqFrame.isKey FqFrame.serial run.popped
    run.state.queue.abstract run.pushed.length

theorem unbroken_start
    {capacity : Nat} {queue : FrameQueue}
    (created : fqCreate capacity true = some queue) :
    Unbroken capacity (start queue) := by
  obtain ⟨_, abstract⟩ := fqCreate_wellFormed created
  refine ⟨accounted_start created, ?_⟩
  change LossyQueue.Unbroken _ _ [] queue.abstract 0
  rw [abstract]
  exact
    { chain := List.IsChain.nil
      first := by simp
      latest := fun _ _ => Or.inl ⟨rfl, rfl⟩ }

/-- A push keeps every queued frame behind its predecessor. -/
theorem Unbroken.push
    {capacity : Nat} {run : QueueRun}
    (unbroken : Unbroken capacity run)
    (unit : AccessUnit)
    (evicts : run.EvictsToKeyframe (.push unit)) :
    Unbroken capacity (run.step (.push unit)) := by
  have pushes := fqPush_pushes unbroken.accounted.wellFormed unit
  refine ⟨unbroken.accounted.step _, ?_⟩
  change LossyQueue.Unbroken _ _ run.popped
    (fqPush run.state (some unit.bytes) unit.isKey unit.ptsUs
      true).1.queue.abstract (run.pushed ++ [unit]).length
  rw [pushes.abstract, List.length_append, List.length_singleton]
  refine unbroken.unbroken.push unbroken.accounted.next_eq ?_
  intro opened quiet notKey full
  have depth : fqDepth run.state = run.state.queue.capacity := by
    rw [fqDepth, ← FrameQueue.length_items]
    exact full
  obtain ⟨frame, queued, isKey⟩ := evicts opened quiet notKey depth
  intro emptied
  have noKey := (LossyQueue.evict_eq_nil_iff FqFrame.isKey).mp emptied
  rw [noKey frame queued] at isKey
  contradiction

/-- A pop keeps every frame behind its predecessor. -/
theorem Unbroken.pop
    {capacity : Nat} {run : QueueRun}
    (unbroken : Unbroken capacity run) :
    Unbroken capacity (run.step .pop) := by
  refine ⟨unbroken.accounted.step _, ?_⟩
  have abstract := fqPop_abstract unbroken.accounted.wellFormed
  rw [step]
  split
  · rename_i state frame equal
    rw [equal] at abstract
    exact unbroken.unbroken.pop abstract
  · rename_i state other notFrame equal
    have unchanged : state = run.state := by
      rcases Nat.eq_zero_or_pos run.state.queue.count with empty | nonempty
      · rw [fqPop_of_empty empty] at equal
        exact (congrArg Prod.fst equal).symm
      · obtain ⟨out, result, _, _⟩ :=
          fqPop_of_nonempty unbroken.accounted.wellFormed nonempty
        rw [equal] at result
        exact absurd result (notFrame out)
    rw [unchanged]
    exact unbroken.unbroken

/-- Every call that meets the condition keeps every frame behind its
predecessor. -/
theorem Unbroken.step
    {capacity : Nat} {run : QueueRun} {event : QueueEvent}
    (evicts : run.EvictsToKeyframe event)
    (unbroken : Unbroken capacity run) :
    Unbroken capacity (run.step event) := by
  cases event with
  | push unit => exact unbroken.push unit evicts
  | pop => exact unbroken.pop
  | close =>
      exact
        { accounted := unbroken.accounted.step _
          unbroken :=
            { chain := unbroken.unbroken.chain
              first := unbroken.unbroken.first
              latest := by
                intro opened
                exact Bool.noConfusion opened } }

/-- What has been delivered in an unbroken run can be decoded. -/
theorem Unbroken.decodable
    {capacity : Nat} {run : QueueRun}
    (unbroken : Unbroken capacity run) :
    run.Decodable := by
  intro position frame popped notKey number pushed
  have serialEq := serial_of_getElem?_storedFrames pushed
  have delivered : List.IsChain
      (LossyQueue.Follows FqFrame.isKey FqFrame.serial) run.popped :=
    (List.isChain_append.mp unbroken.unbroken.chain).1
  cases position with
  | zero =>
      have isFirst : frame ∈ (run.popped ++ run.queued).head? := by
        rw [List.head?_append, List.head?_eq_getElem?, popped]
        rfl
      rcases unbroken.unbroken.first frame isFirst with isKey | isZero
      · rw [notKey] at isKey
        contradiction
      · rw [serialEq] at isZero
        contradiction
  | succ previous =>
      refine ⟨previous, rfl, ?_⟩
      obtain ⟨inRange, rfl⟩ := List.getElem?_eq_some_iff.mp popped
      have follows := List.isChain_iff_getElem.mp delivered previous inRange
      rw [LossyQueue.Follows, notKey, serialEq] at follows
      have before : previous < run.popped.length := by omega
      have earlierSerial : run.popped[previous].serial = number := by
        rcases follows with isKey | next
        · contradiction
        · omega
      have isPushed : run.popped[previous] ∈ storedFrames run.pushed :=
        unbroken.accounted.ordered.subset
          (List.mem_append_left _ (List.getElem_mem before))
      rw [← earlierSerial, getElem?_storedFrames_serial isPushed]
      exact List.getElem?_eq_getElem before

end QueueRun

/-- A queue of one frame holding the first keyframe gives way to the next frame,
which is then delivered without it. -/
theorem frameQueue_delivers_undecodable_frame :
    ¬ (Transition.run QueueRun.step
        (QueueRun.start ((fqCreate 1 true).get rfl))
        [.push ⟨[1], true, 0, by decide⟩, .push ⟨[2], false, 40, by decide⟩,
          .pop]).Decodable := by
  intro decodable
  obtain ⟨previous, contradictory, _⟩ := decodable 0
    ⟨some ⟨1, [2]⟩, 1, false, 40⟩ (by decide) rfl 0 (by decide)
  exact absurd contradictory (by omega)

/-- As long as every non-key frame that finds the queue full can evict up to a
later keyframe, everything the queue delivers can be decoded. -/
theorem frameQueue_decodable_of_evicts_to_keyframe
    {capacity : Nat} {queue : FrameQueue}
    (created : fqCreate capacity true = some queue)
    (events : List QueueEvent)
    (along : Transition.Along QueueRun.step QueueRun.EvictsToKeyframe
      (QueueRun.start queue) events) :
    (Transition.run QueueRun.step (QueueRun.start queue)
      events).Decodable :=
  (Transition.run_invariant
    (fun _ _ evicts unbroken => QueueRun.Unbroken.step evicts unbroken)
    along (QueueRun.unbroken_start created)).decodable

/-- A queue of two keyframes gives way to the frame after them. -/
theorem frameQueue_decodable_of_evicts_to_keyframe_two :
    (Transition.run QueueRun.step
      (QueueRun.start ((fqCreate 2 true).get rfl))
      [.push ⟨[1], true, 0, by decide⟩, .push ⟨[2], true, 40, by decide⟩,
        .push ⟨[3], false, 80, by decide⟩, .pop, .pop]).Decodable :=
  frameQueue_decodable_of_evicts_to_keyframe (Option.some_get _).symm _
    (by decide)

end MotionSense
