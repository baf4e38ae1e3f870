import MotionSense.FrameQueue.Refinement

/-!
# Runs of the frame queue account for every frame

Over any sequence of pushes, pops and a close, the ring stays well formed, every
buffer has exactly one owner, the frames delivered and queued are a subsequence
of those pushed, and every push made before the close is delivered, dropped or
still queued.
-/

namespace MotionSense

/-- The frames a list of pushes would deliver if none were lost, the push with
serial number `i` being stored at address `i`. -/
def storedFrames (pushed : List AccessUnit) : List FqFrame :=
  pushed.zipIdx.map fun numbered => numbered.1.stored numbered.2

@[simp] theorem length_storedFrames (pushed : List AccessUnit) :
    (storedFrames pushed).length = pushed.length := by
  simp [storedFrames]

/-- A further push adds one frame at the end. -/
theorem storedFrames_append (pushed : List AccessUnit) (unit : AccessUnit) :
    storedFrames (pushed ++ [unit]) =
      storedFrames pushed ++ [unit.stored pushed.length] := by
  simp [storedFrames, List.zipIdx_append]

/-- The frame of a push carries the push's serial number as its address. -/
theorem addrs_storedFrames (pushed : List AccessUnit) :
    FqFrame.addrs (storedFrames pushed) = List.range pushed.length := by
  induction pushed using List.reverseRecOn with
  | nil => rfl
  | append_singleton pushed unit inductionHypothesis =>
      rw [storedFrames_append, FqFrame.addrs_append, inductionHypothesis,
        FqFrame.addrs_stored, List.length_append, List.length_singleton,
        List.range_succ]

/-- Pushed frames are told apart by their addresses. -/
theorem nodup_storedFrames (pushed : List AccessUnit) :
    (storedFrames pushed).Nodup := by
  have addresses : (FqFrame.addrs (storedFrames pushed)).Nodup := by
    rw [addrs_storedFrames]
    exact List.nodup_range
  rw [FqFrame.addrs, List.Nodup, List.pairwise_filterMap] at addresses
  refine List.Pairwise.imp_of_mem ?_ addresses
  rintro frame _ present _ different rfl
  obtain ⟨numbered, _, rfl⟩ := List.mem_map.mp present
  exact different _ rfl _ rfl rfl

namespace QueueRun

theorem queued_eq_items (run : QueueRun) :
    run.queued = run.state.queue.items := rfl

/-- Everything a run keeps true of the queue and its callers. -/
structure Accounted (capacity : Nat) (run : QueueRun) : Prop where
  wellFormed : run.state.queue.WellFormed
  capacity_eq : run.state.queue.capacity = capacity
  next_eq : run.state.heap.next = run.pushed.length
  ordered : (run.popped ++ run.queued).Sublist (storedFrames run.pushed)
  accounted : run.accepted =
    run.popped.length + fqDropped run.state + fqDepth run.state
  buffers : (FqFrame.addrs (run.popped ++ run.queued) ++
    run.state.heap.freed).Perm (List.range run.state.heap.next)

theorem accounted_start
    {capacity : Nat} {queue : FrameQueue}
    (created : fqCreate capacity true = some queue) :
    Accounted capacity (start queue) := by
  obtain ⟨wellFormed, abstract⟩ := fqCreate_wellFormed created
  have noItems : queue.items = [] := congrArg LossyQueue.items abstract
  exact
    { wellFormed := wellFormed
      capacity_eq := congrArg LossyQueue.capacity abstract
      next_eq := rfl
      ordered := by
        rw [queued_eq_items]
        simp [start, noItems]
      accounted := by
        have noDrops : queue.dropped = 0 := congrArg LossyQueue.lost abstract
        have noCount := FrameQueue.length_items queue
        rw [noItems] at noCount
        simp [start, fqDropped, fqDepth, noDrops, ← noCount]
      buffers := by
        rw [queued_eq_items]
        simp [start, noItems, FqFrame.addrs] }

/-- A push keeps the accounts. -/
theorem Accounted.of_pushes
    {capacity : Nat} {run : QueueRun}
    (accounted : Accounted capacity run)
    {unit : AccessUnit} {after : QueueState}
    (pushes : Pushes run.state after unit) :
    Accounted capacity
      { run with
        state := after
        pushed := run.pushed ++ [unit]
        accepted :=
          if run.state.queue.closed then run.accepted
          else run.accepted + 1 } := by
  have itemsEq : after.queue.items = _ :=
    congrArg LossyQueue.items pushes.abstract
  refine
    { wellFormed := pushes.wellFormed
      capacity_eq := ?_
      next_eq := ?_
      ordered := ?_
      accounted := ?_
      buffers := ?_ }
  · rw [← accounted.capacity_eq]
    exact (congrArg LossyQueue.capacity pushes.abstract).trans
      (LossyQueue.capacity_push _ _ _)
  · simp only [pushes.next, accounted.next_eq, List.length_append,
      List.length_singleton]
  · have fewer := LossyQueue.items_push_sublist FqFrame.isKey
      run.state.queue.abstract (unit.stored run.state.heap.next)
    rw [← itemsEq] at fewer
    rw [storedFrames_append, ← accounted.next_eq]
    refine (fewer.append_left run.popped).trans ?_
    rw [← List.append_assoc]
    exact accounted.ordered.append_right _
  · have before := accounted.accounted
    have lostEq : after.queue.dropped = _ :=
      congrArg LossyQueue.lost pushes.abstract
    have countEq := congrArg List.length itemsEq
    rw [FrameQueue.length_items] at countEq
    have countBefore : run.state.queue.abstract.items.length =
        run.state.queue.count :=
      FrameQueue.length_items _
    simp only [fqDropped, fqDepth] at before ⊢
    by_cases closed : run.state.queue.closed = true
    · rw [LossyQueue.push_of_closed _ closed] at lostEq countEq
      rw [if_pos closed, lostEq, countEq, countBefore]
      exact before
    · have opened : run.state.queue.closed = false := by simpa using closed
      have total := @LossyQueue.length_add_lost_push _ FqFrame.isKey
        run.state.queue.abstract opened (unit.stored run.state.heap.next)
      have lostBefore : run.state.queue.abstract.lost =
          run.state.queue.dropped := rfl
      rw [if_neg closed]
      omega
  · have before := accounted.buffers
    simp only [queued_eq_items, FqFrame.addrs_append, List.append_assoc,
      pushes.next, List.range_succ] at before ⊢
    exact (pushes.buffers.append_left _).trans
      (List.perm_middle.trans
        ((before.cons _).trans (List.perm_append_singleton _ _).symm))

/-- A pop keeps the accounts. -/
theorem Accounted.pop
    {capacity : Nat} {run : QueueRun}
    (accounted : Accounted capacity run) :
    Accounted capacity (run.step .pop) := by
  rcases Nat.eq_zero_or_pos run.state.queue.count with empty | nonempty
  · have unchanged : run.step .pop = run := by
      simp only [step, fqPop_of_empty empty]
      cases run.state.queue.closed <;> rfl
    rw [unchanged]
    exact accounted
  obtain ⟨out, result, itemsEq, wellFormed⟩ :=
    fqPop_of_nonempty accounted.wellFormed nonempty
  obtain ⟨heap, capacityEq, dropped, _, _⟩ := fqPop_frame run.state
  have stepEq : run.step .pop =
      { run with
        state := (fqPop run.state).1, popped := run.popped ++ [out] } := by
    rw [step]
    split
    · rename_i state frame equal
      rw [equal] at result
      obtain rfl := PopResult.frame.inj result
      rw [equal]
    · rename_i state other notFrame equal
      rw [equal] at result
      exact absurd result (notFrame out)
  have sameList : run.popped ++ [out] ++ (fqPop run.state).1.queue.items =
      run.popped ++ run.queued := by
    rw [queued_eq_items, itemsEq, List.append_assoc, List.singleton_append]
  rw [stepEq]
  refine
    { wellFormed := wellFormed
      capacity_eq := capacityEq.trans accounted.capacity_eq
      next_eq := by rw [heap]; exact accounted.next_eq
      ordered := by
        rw [queued_eq_items, sameList]
        exact accounted.ordered
      accounted := ?_
      buffers := by
        rw [queued_eq_items, sameList, heap]
        exact accounted.buffers }
  have before := accounted.accounted
  have countEq := congrArg List.length itemsEq
  rw [List.length_cons, FrameQueue.length_items, FrameQueue.length_items]
    at countEq
  simp only [fqDropped, fqDepth, List.length_append, List.length_singleton,
    dropped] at before ⊢
  omega

/-- Closing keeps the accounts. -/
theorem Accounted.close
    {capacity : Nat} {run : QueueRun}
    (accounted : Accounted capacity run) :
    Accounted capacity (run.step .close) :=
  { wellFormed := accounted.wellFormed.of_fields rfl rfl rfl rfl rfl
    capacity_eq := accounted.capacity_eq
    next_eq := accounted.next_eq
    ordered := accounted.ordered
    accounted := accounted.accounted
    buffers := accounted.buffers }

/-- Every call keeps the accounts. -/
theorem Accounted.step
    {capacity : Nat} {run : QueueRun}
    (accounted : Accounted capacity run)
    (event : QueueEvent) :
    Accounted capacity (run.step event) := by
  cases event with
  | push unit =>
      exact accounted.of_pushes (fqPush_pushes accounted.wellFormed unit)
  | pop => exact accounted.pop
  | close => exact accounted.close

/-- Every run of a queue from `fq_create` is accounted for. -/
theorem accounted_run
    {capacity : Nat} {queue : FrameQueue}
    (created : fqCreate capacity true = some queue)
    (events : List QueueEvent) :
    Accounted capacity (Transition.run step (start queue) events) := by
  exact Transition.run_invariant_of_step
    (fun _ event accounted => accounted.step event) events
    (accounted_start created)

/-! ## After the close -/

/-- A push after the close leaves the queue as it is. -/
theorem queue_push_of_closed
    {state : QueueState}
    (closed : state.queue.closed = true)
    (unit : AccessUnit) :
    (fqPush state (some unit.bytes) unit.isKey unit.ptsUs true).1.queue =
      state.queue := by
  have nonempty : ¬unit.bytes.length = 0 := by
    simpa using unit.nonempty
  simp [fqPush, nonempty, closed]

theorem closed_step
    {run : QueueRun}
    (closed : run.state.queue.closed = true)
    (event : QueueEvent) :
    (run.step event).state.queue.closed = true := by
  cases event with
  | push unit =>
      change (fqPush _ _ _ _ _).1.queue.closed = true
      rw [queue_push_of_closed closed unit]
      exact closed
  | pop =>
      obtain ⟨_, _, _, _, closedEq⟩ := fqPop_frame run.state
      have same : (run.step .pop).state = (fqPop run.state).1 := by
        rw [step]
        split <;> rename_i equal <;> rw [equal]
      rw [same, closedEq]
      exact closed
  | close => rfl

/-- A pop succeeds exactly when a frame is queued. -/
theorem length_popped_pop
    {capacity : Nat} {run : QueueRun}
    (accounted : Accounted capacity run) :
    (run.step .pop).popped.length =
        run.popped.length + min 1 (fqDepth run.state) ∧
      fqDepth (run.step .pop).state = fqDepth run.state - 1 := by
  rcases Nat.eq_zero_or_pos run.state.queue.count with empty | nonempty
  · have unchanged : run.step .pop = run := by
      simp only [step, fqPop_of_empty empty]
      cases run.state.queue.closed <;> rfl
    rw [unchanged, fqDepth, empty]
    simp
  · obtain ⟨out, result, _, _⟩ :=
      fqPop_of_nonempty accounted.wellFormed nonempty
    have depth : fqDepth (fqPop run.state).1 = fqDepth run.state - 1 := by
      simp only [fqPop, if_neg nonempty.ne', fqDepth]
    rw [step]
    split
    · rename_i state frame equal
      rw [equal] at depth
      refine ⟨?_, depth⟩
      rw [List.length_append, List.length_singleton, fqDepth]
      omega
    · rename_i state other notFrame equal
      rw [equal] at result
      exact absurd result (notFrame out)

/-- Once closed, the queue hands out exactly the frames it holds. -/
theorem length_popped_of_closed
    {capacity : Nat} {run : QueueRun}
    (accounted : Accounted capacity run)
    (closed : run.state.queue.closed = true)
    (more : List QueueEvent) :
    (Transition.run step run more).popped.length =
      run.popped.length + min (more.count .pop) (fqDepth run.state) := by
  induction more generalizing run with
  | nil => simp
  | cons event more inductionHypothesis =>
      have next := inductionHypothesis (accounted.step event)
        (closed_step closed event)
      rw [Transition.run_cons, next]
      cases event with
      | push unit =>
          have depth : fqDepth (run.step (.push unit)).state =
              fqDepth run.state := by
            change (fqPush _ _ _ _ _).1.queue.count = _
            rw [queue_push_of_closed closed unit]
            rfl
          rw [depth, List.count_cons_of_ne (by simp)]
          rfl
      | pop =>
          obtain ⟨popped, depth⟩ := length_popped_pop accounted
          rw [popped, depth, List.count_cons_self]
          omega
      | close =>
          rw [List.count_cons_of_ne (by simp)]
          rfl

/-! ## Destruction -/

/-- Freeing the buffers of some slots, one after the other. -/
theorem freed_foldl_free
    (data : Nat → Option Buffer) (indices : List Nat) (heap : Heap) :
    (indices.foldl (fun heap index => heap.free (data index)) heap).freed.Perm
      (indices.filterMap (fun index => (data index).map Buffer.addr) ++
        heap.freed) := by
  induction indices generalizing heap with
  | nil => exact List.Perm.refl _
  | cons index indices inductionHypothesis =>
      have later := inductionHypothesis (heap.free (data index))
      rw [List.foldl_cons, List.filterMap_cons]
      cases owned : data index with
      | none =>
          rw [owned] at later
          exact later
      | some buffer =>
          rw [owned] at later
          exact later.trans List.perm_middle

/-- `fq_destroy` frees exactly the buffers still queued. -/
theorem freed_fqDestroy
    {state : QueueState}
    (wellFormed : state.queue.WellFormed) :
    (fqDestroy state).freed.Perm
      (FqFrame.addrs state.queue.items ++ state.heap.freed) := by
  have freed := freed_foldl_free (fun index => (state.queue.slot index).data)
    (List.range state.queue.capacity) state.heap
  have live := Ring.filterMap_range_perm
    (fun index => ((state.queue.slot index).data).map Buffer.addr)
    wellFormed.positive wellFormed.count_le
    (fun position inRange => by
      rw [Option.isSome_map]
      exact wellFormed.occupied position inRange)
  have queued : FqFrame.addrs state.queue.items =
      (Ring.positions state.queue.capacity state.queue.head
        state.queue.count).filterMap
        fun index => ((state.queue.slot index).data).map Buffer.addr := by
    rw [FqFrame.addrs, FrameQueue.items, Ring.window_eq_map_positions,
      List.map_map, List.filterMap_map]
    rfl
  rw [queued]
  exact freed.trans (live.append_right _)

end QueueRun

/-- The frame queue refines an ordered list with accounted losses: over every
run from `fq_create` the ring is well formed and every buffer is in one place
only, also at destruction; what is delivered and queued is a subsequence of what
was pushed, without duplicates; no accepted push is unaccounted for; and after
the close the queue only drains. -/
theorem frameQueue_refines_accounted_list
    {capacity : Nat} {queue : FrameQueue}
    (created : fqCreate capacity true = some queue)
    (events : List QueueEvent) :
    let run := Transition.run QueueRun.step (QueueRun.start queue) events
    let ring := run.state.queue
    (ring.count ≤ capacity ∧ ring.head < capacity ∧ ring.tail < capacity ∧
      ring.tail = (ring.head + ring.count) % capacity ∧
      ∀ position, position < capacity →
        ((ring.slot position).data.isSome ↔
          Ring.Live capacity ring.head ring.count position)) ∧
    ((FqFrame.addrs (run.popped ++ run.queued) ++ run.state.heap.freed).Perm
        (List.range run.state.heap.next) ∧
      (FqFrame.addrs run.popped ++ (fqDestroy run.state).freed).Perm
        (List.range run.state.heap.next)) ∧
    ((run.popped ++ run.queued).Sublist (storedFrames run.pushed) ∧
      (run.popped ++ run.queued).Nodup) ∧
    run.accepted =
      run.popped.length + fqDropped run.state + fqDepth run.state ∧
    (ring.closed = true →
      (∀ unit : AccessUnit,
        (fqPush run.state (some unit.bytes) unit.isKey unit.ptsUs
          true).1.queue = ring) ∧
      ∀ more : List QueueEvent,
        (Transition.run QueueRun.step run more).popped.length =
          run.popped.length +
            min (more.count .pop) (fqDepth run.state)) := by
  intro run ring
  have accounted := QueueRun.accounted_run created events
  have wellFormed := accounted.wellFormed
  have capacityEq := accounted.capacity_eq
  refine ⟨⟨?_, ?_, ?_, ?_, ?_⟩, ⟨accounted.buffers, ?_⟩,
    ⟨accounted.ordered, accounted.ordered.nodup (nodup_storedFrames run.pushed)⟩,
    accounted.accounted, fun closed =>
      ⟨QueueRun.queue_push_of_closed closed,
        QueueRun.length_popped_of_closed accounted closed⟩⟩
  · exact capacityEq ▸ wellFormed.count_le
  · exact capacityEq ▸ wellFormed.head_lt
  · exact capacityEq ▸ wellFormed.tail_lt
  · exact capacityEq ▸ wellFormed.tail_eq
  · exact capacityEq ▸ wellFormed.occupied
  · have freed := QueueRun.freed_fqDestroy wellFormed
    have buffers := accounted.buffers
    rw [FqFrame.addrs_append, List.append_assoc] at buffers
    exact (freed.append_left _).trans buffers

/-- Three pushes and a pop on a queue of two, then the close. -/
theorem frameQueue_refines_accounted_list_two :
    let queue := (fqCreate 2 true).get rfl
    let run := Transition.run QueueRun.step (QueueRun.start queue)
      [.push ⟨[1], true, 0, by decide⟩, .push ⟨[2], false, 40, by decide⟩,
        .push ⟨[3], true, 80, by decide⟩, .pop, .close]
    run.accepted =
      run.popped.length + fqDropped run.state + fqDepth run.state :=
  (frameQueue_refines_accounted_list (Option.some_get _).symm _).2.2.2.1

end MotionSense
