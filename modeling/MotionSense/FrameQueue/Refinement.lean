import MotionSense.FrameQueue.Defs

/-!
# The frame queue refines the lossy queue

The ring of `frame_queue.c` is read as the list of its live slots.  Under the
representation invariant the live slots are exactly those that own a buffer, and
`fq_push`, `fq_pop` and `fq_close` are the operations of the abstract lossy
queue.
-/

namespace MotionSense

/-- A slot as the frame it holds. -/
def Slot.frame (slot : Slot) : FqFrame :=
  ⟨slot.data, slot.len, slot.isKey, slot.ptsUs⟩

/-- Addresses of the buffers that some frames carry. -/
def FqFrame.addrs (frames : List FqFrame) : List Nat :=
  frames.filterMap fun frame => frame.data.map Buffer.addr

namespace FqFrame

@[simp] theorem addrs_append (first second : List FqFrame) :
    addrs (first ++ second) = addrs first ++ addrs second :=
  List.filterMap_append

@[simp] theorem addrs_stored (unit : AccessUnit) (addr : Nat) :
    addrs [unit.stored addr] = [addr] := rfl

end FqFrame

namespace FrameQueue

/-- The queued frames, oldest first. -/
def items (queue : FrameQueue) : List FqFrame :=
  (Ring.window queue.slot queue.capacity queue.head queue.count).map Slot.frame

/-- The queue as an ordered list with its losses. -/
def abstract (queue : FrameQueue) : LossyQueue FqFrame :=
  { capacity := queue.capacity
    items := queue.items
    lost := queue.dropped
    dropping := queue.dropping
    closed := queue.closed }

/-- The representation invariant of the ring. -/
structure WellFormed (queue : FrameQueue) : Prop where
  length_slots : queue.slots.length = queue.capacity
  positive : 0 < queue.capacity
  count_le : queue.count ≤ queue.capacity
  head_lt : queue.head < queue.capacity
  tail_eq : queue.tail = (queue.head + queue.count) % queue.capacity
  occupied : ∀ position, position < queue.capacity →
    ((queue.slot position).data.isSome ↔
      Ring.Live queue.capacity queue.head queue.count position)

theorem WellFormed.tail_lt
    {queue : FrameQueue}
    (wellFormed : queue.WellFormed) :
    queue.tail < queue.capacity := by
  rw [wellFormed.tail_eq]
  exact Nat.mod_lt _ wellFormed.positive

@[simp] theorem length_items (queue : FrameQueue) :
    queue.items.length = queue.count := by
  simp [items]

theorem slot_setSlot_self
    {queue : FrameQueue} {index : Nat}
    (inRange : index < queue.slots.length) (value : Slot) :
    (queue.setSlot index value).slot index = value := by
  simp [slot, setSlot, List.getD, inRange]

theorem slot_setSlot_of_ne
    {queue : FrameQueue} {index other : Nat}
    (different : other ≠ index) (value : Slot) :
    (queue.setSlot index value).slot other = queue.slot other := by
  simp [slot, setSlot, List.getD, List.getElem?_set_ne (Ne.symm different)]

/-! ## The two ends of the ring -/

/-- Replace the oldest slot and move the head past it. -/
def advance (queue : FrameQueue) (value : Slot) : FrameQueue :=
  { queue.setSlot queue.head value with
    head := (queue.head + 1) % queue.capacity
    count := queue.count - 1 }

/-- Fill the slot at the tail and move the tail past it. -/
def append (queue : FrameQueue) (value : Slot) : FrameQueue :=
  { queue.setSlot queue.tail value with
    tail := (queue.tail + 1) % queue.capacity
    count := queue.count + 1 }

/-- Leaving the head removes the oldest frame. -/
theorem items_advance
    {queue : FrameQueue}
    (wellFormed : queue.WellFormed)
    (nonempty : 0 < queue.count)
    (value : Slot) :
    queue.items =
      (queue.slot queue.head).frame :: (queue.advance value).items := by
  obtain ⟨count, countEq⟩ := Nat.exists_eq_succ_of_ne_zero nonempty.ne'
  have room : count < queue.capacity := by
    have := wellFormed.count_le
    omega
  have headMod : queue.head % queue.capacity = queue.head :=
    Nat.mod_eq_of_lt wellFormed.head_lt
  have notHead := Ring.not_live_head queue.head room
  rw [headMod] at notHead
  simp only [items, advance, countEq, Nat.succ_sub_one]
  rw [Nat.succ_eq_add_one, Ring.window_succ_eq_cons, headMod, List.map_cons]
  congr 2
  apply Ring.window_congr
  intro position live
  have different : position ≠ queue.head := by
    rintro rfl
    exact notHead live
  exact (slot_setSlot_of_ne different value).symm

/-- Leaving the head keeps the invariant when the slot left behind owns no
buffer. -/
theorem WellFormed.advance
    {queue : FrameQueue}
    (wellFormed : queue.WellFormed)
    (nonempty : 0 < queue.count)
    (value : Slot)
    (cleared : value.data = none) :
    (queue.advance value).WellFormed := by
  obtain ⟨count, countEq⟩ := Nat.exists_eq_succ_of_ne_zero nonempty.ne'
  have countLe := wellFormed.count_le
  have headMod : queue.head % queue.capacity = queue.head :=
    Nat.mod_eq_of_lt wellFormed.head_lt
  refine
    { length_slots := by
        simpa [FrameQueue.advance, setSlot] using wellFormed.length_slots
      positive := wellFormed.positive
      count_le := by
        change queue.count - 1 ≤ queue.capacity
        omega
      head_lt := Nat.mod_lt _ wellFormed.positive
      tail_eq := ?_
      occupied := ?_ }
  · change queue.tail =
      ((queue.head + 1) % queue.capacity + (queue.count - 1)) % queue.capacity
    rw [wellFormed.tail_eq, Nat.mod_add_mod]
    congr 1
    omega
  · intro position inRange
    change ((queue.setSlot queue.head value).slot position).data.isSome ↔
      Ring.Live queue.capacity ((queue.head + 1) % queue.capacity)
        (queue.count - 1) position
    have live := wellFormed.occupied position inRange
    rw [countEq, Nat.succ_eq_add_one, Ring.live_succ_iff, headMod] at live
    have room : count < queue.capacity := by omega
    have notHead := Ring.not_live_head queue.head room
    rw [headMod] at notHead
    rw [countEq, Nat.succ_sub_one]
    by_cases atHead : position = queue.head
    · subst atHead
      rw [slot_setSlot_self
        (by rw [wellFormed.length_slots]; exact wellFormed.head_lt), cleared]
      simpa using notHead
    · rw [slot_setSlot_of_ne atHead, live]
      simp [atHead]

/-- Filling the tail adds the newest frame. -/
theorem items_append
    {queue : FrameQueue}
    (wellFormed : queue.WellFormed)
    (room : queue.count < queue.capacity)
    (value : Slot) :
    (queue.append value).items = queue.items ++ [value.frame] := by
  have notTail := Ring.not_live_end queue.head room
  rw [← wellFormed.tail_eq] at notTail
  have atTail : (queue.setSlot queue.tail value).slot queue.tail = value :=
    slot_setSlot_self
      (by rw [wellFormed.length_slots]; exact wellFormed.tail_lt) value
  have others : Ring.window (queue.setSlot queue.tail value).slot
      queue.capacity queue.head queue.count =
        Ring.window queue.slot queue.capacity queue.head queue.count := by
    apply Ring.window_congr
    intro position live
    have different : position ≠ queue.tail := by
      rintro rfl
      exact notTail live
    exact slot_setSlot_of_ne different value
  change (Ring.window (queue.setSlot queue.tail value).slot
    queue.capacity queue.head (queue.count + 1)).map Slot.frame = _
  rw [Ring.window_succ, others, ← wellFormed.tail_eq, atTail,
    List.map_append]
  rfl

/-- Filling the tail keeps the invariant when the new slot owns a buffer. -/
theorem WellFormed.append
    {queue : FrameQueue}
    (wellFormed : queue.WellFormed)
    (room : queue.count < queue.capacity)
    (value : Slot)
    (owned : value.data.isSome) :
    (queue.append value).WellFormed := by
  refine
    { length_slots := by
        simpa [FrameQueue.append, setSlot] using wellFormed.length_slots
      positive := wellFormed.positive
      count_le := room
      head_lt := wellFormed.head_lt
      tail_eq := ?_
      occupied := ?_ }
  · change (queue.tail + 1) % queue.capacity =
      (queue.head + (queue.count + 1)) % queue.capacity
    rw [wellFormed.tail_eq, Nat.mod_add_mod, Nat.add_assoc]
  · intro position inRange
    change ((queue.setSlot queue.tail value).slot position).data.isSome ↔
      Ring.Live queue.capacity queue.head (queue.count + 1) position
    rw [Ring.live_succ_iff_end, ← wellFormed.tail_eq]
    by_cases atTail : position = queue.tail
    · subst atTail
      rw [slot_setSlot_self
        (by rw [wellFormed.length_slots]; exact wellFormed.tail_lt)]
      simp [owned]
    · rw [slot_setSlot_of_ne atTail, wellFormed.occupied position inRange]
      simp [atTail]

/-- A live slot owns a buffer. -/
theorem WellFormed.head_owned
    {queue : FrameQueue}
    (wellFormed : queue.WellFormed)
    (nonempty : 0 < queue.count) :
    ∃ buffer, (queue.slot queue.head).data = some buffer := by
  have live : Ring.Live queue.capacity queue.head queue.count queue.head :=
    ⟨0, nonempty, by simp [Nat.mod_eq_of_lt wellFormed.head_lt]⟩
  exact Option.isSome_iff_exists.mp
    ((wellFormed.occupied queue.head wellFormed.head_lt).mpr live)

/-- The counters and flags play no part in the invariant. -/
theorem WellFormed.of_fields
    {queue other : FrameQueue}
    (wellFormed : queue.WellFormed)
    (slots : other.slots = queue.slots)
    (capacity : other.capacity = queue.capacity)
    (head : other.head = queue.head)
    (tail : other.tail = queue.tail)
    (count : other.count = queue.count) :
    other.WellFormed := by
  obtain ⟨_, _, _, _, _, _, _, _⟩ := queue
  obtain ⟨_, _, _, _, _, _, _, _⟩ := other
  subst slots capacity head tail count
  exact ⟨wellFormed.1, wellFormed.2, wellFormed.3, wellFormed.4,
    wellFormed.5, wellFormed.6⟩

end FrameQueue

/-! ## Eviction -/

/-- What an eviction does to the queue and its buffers. -/
structure Drops (before after : QueueState) : Prop where
  wellFormed : after.queue.WellFormed
  items : after.queue.items =
    LossyQueue.evict FqFrame.isKey before.queue.items
  dropped : after.queue.dropped + after.queue.count =
    before.queue.dropped + before.queue.count
  capacity : after.queue.capacity = before.queue.capacity
  closed : after.queue.closed = before.queue.closed
  dropping : after.queue.dropping = before.queue.dropping
  next : after.heap.next = before.heap.next
  buffers : (FqFrame.addrs after.queue.items ++ after.heap.freed).Perm
    (FqFrame.addrs before.queue.items ++ before.heap.freed)

/-- One round of the loop removes the oldest frame and frees its buffer. -/
theorem dropFrame_items
    {state : QueueState}
    (wellFormed : state.queue.WellFormed)
    (nonempty : 0 < state.queue.count) :
    ∃ oldest buffer, oldest.data = some buffer ∧
      state.queue.items = oldest :: (dropFrame state).queue.items ∧
      (dropFrame state).heap =
        { state.heap with freed := buffer.addr :: state.heap.freed } := by
  obtain ⟨buffer, owned⟩ := wellFormed.head_owned nonempty
  refine ⟨(state.queue.slot state.queue.head).frame, buffer, owned, ?_, ?_⟩
  · exact FrameQueue.items_advance wellFormed nonempty
      { state.queue.slot state.queue.head with
        data := none, len := 0, isKey := false }
  · simp [dropFrame, Heap.free, owned]

theorem dropFrame_wellFormed
    {state : QueueState}
    (wellFormed : state.queue.WellFormed)
    (nonempty : 0 < state.queue.count) :
    (dropFrame state).queue.WellFormed :=
  (wellFormed.advance nonempty
    { state.queue.slot state.queue.head with
      data := none, len := 0, isKey := false } rfl).of_fields
    rfl rfl rfl rfl rfl

/-- The flag tested by the loop is the oldest frame's when there is one. -/
theorem FrameQueue.isKey_slot_head
    {queue : FrameQueue}
    (wellFormed : queue.WellFormed)
    {oldest : FqFrame} {items : List FqFrame}
    (itemsEq : queue.items = oldest :: items) :
    (queue.slot queue.head).isKey = oldest.isKey := by
  have nonempty : 0 < queue.count := by
    rw [← FrameQueue.length_items, itemsEq]
    exact Nat.succ_pos _
  have headEq := FrameQueue.items_advance wellFormed nonempty {}
  rw [itemsEq, List.cons.injEq] at headEq
  rw [headEq.1]
  rfl

/-- The loop of `drop_frames`, entered with as many rounds as frames, evicts up
to the next keyframe. -/
theorem dropFramesLoop_drops
    (rounds : Nat)
    (state : QueueState)
    (wellFormed : state.queue.WellFormed)
    (nonempty : 0 < state.queue.count)
    (enough : rounds = state.queue.count) :
    Drops state (dropFramesLoop rounds state) := by
  induction rounds generalizing state with
  | zero => omega
  | succ rounds inductionHypothesis =>
      have nextWellFormed := dropFrame_wellFormed wellFormed nonempty
      obtain ⟨oldest, buffer, owned, itemsEq, heapEq⟩ :=
        dropFrame_items wellFormed nonempty
      have nextCount :
          (dropFrame state).queue.count = state.queue.count - 1 := rfl
      have nextDropped :
          (dropFrame state).queue.dropped = state.queue.dropped + 1 := rfl
      have buffers : (FqFrame.addrs (dropFrame state).queue.items ++
          (dropFrame state).heap.freed).Perm
            (FqFrame.addrs state.queue.items ++ state.heap.freed) := by
        rw [itemsEq, heapEq]
        simp only [FqFrame.addrs, List.filterMap_cons, owned, Option.map_some]
        exact List.perm_middle
      unfold dropFramesLoop
      simp only
      split
      · rename_i continues
        obtain ⟨notKey, more⟩ := continues
        have later := inductionHypothesis (dropFrame state) nextWellFormed
          more (by rw [nextCount]; omega)
        refine
          { wellFormed := later.wellFormed
            items := ?_
            dropped := by
              have := later.dropped
              omega
            capacity := later.capacity
            closed := later.closed
            dropping := later.dropping
            next := by rw [later.next, heapEq]
            buffers := later.buffers.trans buffers }
        rw [later.items, itemsEq]
        cases rest : (dropFrame state).queue.items with
        | nil => rfl
        | cons second items =>
            have flag := FrameQueue.isKey_slot_head nextWellFormed rest
            rw [flag] at notKey
            simp only [LossyQueue.evict, List.dropWhile_cons, notKey, if_true]
      · rename_i stops
        refine
          { wellFormed := nextWellFormed
            items := ?_
            dropped := by
              rw [nextCount, nextDropped]
              omega
            capacity := rfl
            closed := rfl
            dropping := rfl
            next := by rw [heapEq]
            buffers := buffers }
        rw [itemsEq]
        cases rest : (dropFrame state).queue.items with
        | nil => rfl
        | cons second items =>
            have flag := FrameQueue.isKey_slot_head nextWellFormed rest
            have more : 0 < (dropFrame state).queue.count := by
              rw [← FrameQueue.length_items, rest]
              exact Nat.succ_pos _
            have isKey : second.isKey = true := by
              by_contra notKey
              exact stops ⟨by simpa [flag] using notKey, more⟩
            simp [LossyQueue.evict, isKey]

/-- `drop_frames` on a nonempty queue. -/
theorem dropFrames_drops
    {state : QueueState}
    (wellFormed : state.queue.WellFormed)
    (nonempty : 0 < state.queue.count) :
    Drops { state with queue := { state.queue with dropping := true } }
      (dropFrames state) := by
  rw [dropFrames, if_neg nonempty.ne']
  exact dropFramesLoop_drops _ _
    (wellFormed.of_fields rfl rfl rfl rfl rfl) nonempty rfl

/-! ## The operations -/

/-- What a push does to the queue and its buffers. -/
structure Pushes (before after : QueueState) (unit : AccessUnit) : Prop where
  wellFormed : after.queue.WellFormed
  abstract : after.queue.abstract =
    before.queue.abstract.push FqFrame.isKey (unit.stored before.heap.next)
  next : after.heap.next = before.heap.next + 1
  buffers : (FqFrame.addrs after.queue.items ++ after.heap.freed).Perm
    (before.heap.next ::
      (FqFrame.addrs before.queue.items ++ before.heap.freed))

/-- Storing at the tail of a queue with room. -/
theorem storeFrame_items
    {state : QueueState}
    (wellFormed : state.queue.WellFormed)
    (room : state.queue.count < state.queue.capacity)
    (unit : AccessUnit) (addr : Nat) :
    (storeFrame state ⟨addr, unit.bytes⟩ unit.isKey unit.ptsUs).queue.items =
      state.queue.items ++ [unit.stored addr] :=
  FrameQueue.items_append wellFormed room
    { data := some ⟨addr, unit.bytes⟩, len := unit.bytes.length,
      isKey := unit.isKey, ptsUs := unit.ptsUs }

theorem storeFrame_wellFormed
    {state : QueueState}
    (wellFormed : state.queue.WellFormed)
    (room : state.queue.count < state.queue.capacity)
    (copy : Buffer) (isKey : Bool) (ptsUs : Int) :
    (storeFrame state copy isKey ptsUs).queue.WellFormed :=
  wellFormed.append room
    { data := some copy, len := copy.bytes.length, isKey, ptsUs } rfl

/-- A new buffer at the end of the queue, moved to the front of the list of all
buffers. -/
private theorem perm_addrs_stored
    (items : List FqFrame) (unit : AccessUnit) (addr : Nat)
    (freed : List Nat) :
    (FqFrame.addrs (items ++ [unit.stored addr]) ++ freed).Perm
      (addr :: (FqFrame.addrs items ++ freed)) := by
  rw [FqFrame.addrs_append, FqFrame.addrs_stored, List.append_assoc]
  exact List.perm_middle

/-- The storing branch of `fq_push`, reached when the frame is not refused. -/
theorem storeFrame_pushes
    {state : QueueState}
    (wellFormed : state.queue.WellFormed)
    (opened : state.queue.closed = false)
    (unit : AccessUnit)
    (taken : (state.queue.dropping && !unit.isKey) = false) :
    let ready : QueueState :=
      { heap := { state.heap with next := state.heap.next + 1 }
        queue := { state.queue with dropping := false } }
    Pushes state
      (storeFrame
        (if ready.queue.count = ready.queue.capacity then dropFrames ready
          else ready)
        ⟨state.heap.next, unit.bytes⟩ unit.isKey unit.ptsUs) unit := by
  intro ready
  have readyWellFormed : ready.queue.WellFormed :=
    wellFormed.of_fields rfl rfl rfl rfl rfl
  by_cases full : state.queue.count = state.queue.capacity
  · have nonempty : 0 < ready.queue.count := by
      change 0 < state.queue.count
      rw [full]
      exact wellFormed.positive
    have drops := dropFrames_drops readyWellFormed nonempty
    have someItem : state.queue.items ≠ [] :=
      List.ne_nil_of_length_pos (by
        rw [FrameQueue.length_items]
        exact nonempty)
    have shorter := LossyQueue.length_evict_lt FqFrame.isKey someItem
    rw [FrameQueue.length_items] at shorter
    have remaining : (dropFrames ready).queue.count =
        (LossyQueue.evict FqFrame.isKey state.queue.items).length := by
      rw [← FrameQueue.length_items, drops.items]
      rfl
    have room : (dropFrames ready).queue.count <
        (dropFrames ready).queue.capacity := by
      rw [drops.capacity, remaining]
      change _ < state.queue.capacity
      omega
    have itemsEq := storeFrame_items drops.wellFormed room unit
      state.heap.next
    rw [if_pos full]
    refine
      { wellFormed := storeFrame_wellFormed drops.wellFormed room _ _ _
        abstract := ?_
        next := drops.next
        buffers := ?_ }
    · rw [LossyQueue.push_of_full _ (unit.stored _) opened taken
        ((FrameQueue.length_items _).trans full)]
      have lost := drops.dropped
      change (dropFrames ready).queue.dropped +
        (dropFrames ready).queue.count =
          state.queue.dropped + state.queue.count at lost
      have lostEq : (dropFrames ready).queue.dropped =
          state.queue.dropped +
            LossyQueue.evicted FqFrame.isKey state.queue.items := by
        rw [LossyQueue.evicted, FrameQueue.length_items, ← remaining]
        omega
      simp only [FrameQueue.abstract, itemsEq, drops.items]
      congr 1
      · exact drops.capacity
      · exact drops.dropping
      · exact drops.closed
    · rw [itemsEq]
      exact (perm_addrs_stored _ _ _ _).trans (drops.buffers.cons _)
  · have room : state.queue.count < state.queue.capacity :=
      lt_of_le_of_ne wellFormed.count_le full
    have itemsEq := storeFrame_items readyWellFormed room unit
      state.heap.next
    rw [if_neg full]
    refine
      { wellFormed := storeFrame_wellFormed readyWellFormed room _ _ _
        abstract := ?_
        next := rfl
        buffers := ?_ }
    · rw [LossyQueue.push_of_room _ (unit.stored _) opened taken
        (by rw [FrameQueue.abstract, FrameQueue.length_items]; exact full)]
      simp only [FrameQueue.abstract, itemsEq]
      rfl
    · rw [itemsEq]
      exact perm_addrs_stored _ _ _ _

/-- `fq_push` of an access unit is the push of the abstract queue. -/
theorem fqPush_pushes
    {state : QueueState}
    (wellFormed : state.queue.WellFormed)
    (unit : AccessUnit) :
    Pushes state
      (fqPush state (some unit.bytes) unit.isKey unit.ptsUs true).1 unit := by
  have nonempty : ¬unit.bytes.length = 0 := by
    simpa using unit.nonempty
  simp only [fqPush, nonempty, if_false, Bool.not_true, Bool.false_eq_true]
  by_cases closed : state.queue.closed = true
  · rw [if_pos closed]
    exact
      { wellFormed := wellFormed
        abstract := (LossyQueue.push_of_closed _ closed _).symm
        next := rfl
        buffers := List.perm_middle }
  rw [if_neg closed]
  have opened : state.queue.closed = false := by simpa using closed
  by_cases dropping : state.queue.dropping = true
  · rw [if_pos dropping]
    by_cases refused : (!unit.isKey) = true
    · rw [if_pos refused]
      have lossy : (state.queue.dropping && !unit.isKey) = true := by
        rw [dropping, refused]
        rfl
      exact
        { wellFormed := wellFormed.of_fields rfl rfl rfl rfl rfl
          abstract := (@LossyQueue.push_of_refused _ FqFrame.isKey
            state.queue.abstract (unit.stored _) opened lossy).symm
          next := rfl
          buffers := List.perm_middle }
    · rw [if_neg refused]
      exact storeFrame_pushes wellFormed opened unit (by simp_all)
  · rw [if_neg dropping]
    have pushes := storeFrame_pushes wellFormed opened unit
      (by simp_all)
    have already : { state.queue with dropping := false } = state.queue := by
      rw [show false = state.queue.dropping by simpa using dropping]
    rw [already] at pushes
    exact pushes

/-- A call of `fq_push` with any arguments is refused without effect or pushes
an access unit. -/
theorem fqPush_cases
    {state : QueueState}
    (wellFormed : state.queue.WellFormed)
    (data : Option (List UInt8)) (isKey : Bool) (ptsUs : Int)
    (allocated : Bool) :
    (fqPush state data isKey ptsUs allocated).1 = state ∨
      ∃ unit : AccessUnit, unit.ptsUs = ptsUs ∧
        Pushes state (fqPush state data isKey ptsUs allocated).1 unit := by
  cases data with
  | none => exact Or.inl rfl
  | some bytes =>
      by_cases empty : bytes.length = 0
      · exact Or.inl (by rw [fqPush, if_pos empty])
      cases allocated with
      | false => exact Or.inl (by simp [fqPush, empty])
      | true =>
          let unit : AccessUnit :=
            ⟨bytes, isKey, ptsUs, List.ne_nil_of_length_pos (by omega)⟩
          exact Or.inr ⟨unit, rfl, fqPush_pushes wellFormed unit⟩

/-- `fq_pop` of a queue with frames hands out the oldest one. -/
theorem fqPop_of_nonempty
    {state : QueueState}
    (wellFormed : state.queue.WellFormed)
    (nonempty : 0 < state.queue.count) :
    ∃ out, (fqPop state).2 = .frame out ∧
      state.queue.items = out :: (fqPop state).1.queue.items ∧
      (fqPop state).1.queue.WellFormed := by
  let left : Slot := { state.queue.slot state.queue.head with data := none }
  refine ⟨(state.queue.slot state.queue.head).frame, ?_, ?_, ?_⟩
  · simp only [fqPop, if_neg nonempty.ne']
    rfl
  · simp only [fqPop, if_neg nonempty.ne']
    exact FrameQueue.items_advance wellFormed nonempty left
  · simp only [fqPop, if_neg nonempty.ne']
    exact wellFormed.advance nonempty left rfl

/-- `fq_pop` of an empty queue changes nothing. -/
theorem fqPop_of_empty
    {state : QueueState}
    (empty : state.queue.count = 0) :
    fqPop state =
      (state, if state.queue.closed then .closed else .waiting) := by
  rw [fqPop]
  simp only [empty, if_true]
  split <;> rfl

/-- Popping leaves the allocator and everything but the ring alone. -/
theorem fqPop_frame (state : QueueState) :
    (fqPop state).1.heap = state.heap ∧
      (fqPop state).1.queue.capacity = state.queue.capacity ∧
      (fqPop state).1.queue.dropped = state.queue.dropped ∧
      (fqPop state).1.queue.dropping = state.queue.dropping ∧
      (fqPop state).1.queue.closed = state.queue.closed := by
  unfold fqPop
  by_cases empty : state.queue.count = 0
  · simp only [empty, if_true]
    split <;> exact ⟨rfl, rfl, rfl, rfl, rfl⟩
  · rw [if_neg empty]
    exact ⟨rfl, rfl, rfl, rfl, rfl⟩

/-- `fq_pop` is the pop of the abstract queue. -/
theorem fqPop_abstract
    {state : QueueState}
    (wellFormed : state.queue.WellFormed) :
    state.queue.abstract.pop =
      match (fqPop state).2 with
      | .frame out => some (out, (fqPop state).1.queue.abstract)
      | _ => none := by
  obtain ⟨_, capacity, dropped, dropping, closed⟩ := fqPop_frame state
  rcases Nat.eq_zero_or_pos state.queue.count with empty | nonempty
  · have noItems : state.queue.items = [] := by
      rw [← List.length_eq_zero_iff, FrameQueue.length_items, empty]
    rw [fqPop_of_empty empty]
    simp only [LossyQueue.pop, FrameQueue.abstract, noItems]
    cases state.queue.closed <;> rfl
  · obtain ⟨out, result, itemsEq, _⟩ := fqPop_of_nonempty wellFormed nonempty
    simp only [LossyQueue.pop, FrameQueue.abstract, result, itemsEq, capacity,
      dropped, dropping, closed]

/-- A queue from `fq_create` is well formed and empty. -/
theorem fqCreate_wellFormed
    {capacity : Nat} {allocated : Bool} {queue : FrameQueue}
    (created : fqCreate capacity allocated = some queue) :
    queue.WellFormed ∧
      queue.abstract = ⟨capacity, [], 0, false, false⟩ := by
  unfold fqCreate at created
  split at created
  · contradiction
  split at created
  · contradiction
  rename_i nonzero _
  obtain rfl := Option.some.inj created
  have blank : ∀ position,
      ((List.replicate capacity ({} : Slot)).getD position {}).data =
        none := by
    intro position
    simp only [List.getD, List.getElem?_replicate]
    split <;> rfl
  refine ⟨⟨by simp, by simp; omega, by simp, by simp; omega, by simp, ?_⟩, ?_⟩
  · intro position inRange
    have data := blank position
    simp only [FrameQueue.slot, data, Option.isSome_none, Bool.false_eq_true,
      false_iff]
    rintro ⟨index, before, _⟩
    exact absurd before (Nat.not_lt_zero index)
  · rfl

end MotionSense
