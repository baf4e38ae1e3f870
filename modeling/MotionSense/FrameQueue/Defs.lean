import MotionSense.Foundations.LossyQueue
import MotionSense.Foundations.Ring
import MotionSense.Foundations.Transition

/-!
# The frame queue between the capture thread and the writer

Each operation of `frame_queue.c` runs under the queue's mutex, so it is one
step.  Memory is a counter of the buffers handed out by `malloc` and the list of
those given back to `free`; the mutex and the condition variable are left out.
Counters are unbounded.
-/

namespace MotionSense

/-- An allocated buffer: its address and its contents. -/
structure Buffer where
  addr : Nat
  bytes : List UInt8
  deriving DecidableEq

/-- `slot_t`.  A `NULL` data pointer is `none`. -/
structure Slot where
  data : Option Buffer := none
  len : Nat := 0
  isKey : Bool := false
  ptsUs : Int := 0
  deriving DecidableEq

/-- `fq_frame`, what `fq_pop` hands to its caller. -/
structure FqFrame where
  data : Option Buffer
  len : Nat
  isKey : Bool
  ptsUs : Int
  deriving DecidableEq

/-- `struct frame_queue`. -/
structure FrameQueue where
  slots : List Slot
  capacity : Nat
  head : Nat
  tail : Nat
  count : Nat
  dropped : Nat
  closed : Bool
  dropping : Bool

/-- The allocator as the queue sees it: the next fresh address and the addresses
freed so far. -/
structure Heap where
  next : Nat
  freed : List Nat

/-- `free`, which ignores `NULL`. -/
def Heap.free (heap : Heap) (data : Option Buffer) : Heap :=
  match data with
  | none => heap
  | some buffer => { heap with freed := buffer.addr :: heap.freed }

/-- The queue together with the allocator. -/
structure QueueState where
  queue : FrameQueue
  heap : Heap

namespace FrameQueue

/-- `q->slots[i]`. -/
def slot (queue : FrameQueue) (index : Nat) : Slot :=
  queue.slots.getD index {}

/-- Write `q->slots[i]`. -/
def setSlot (queue : FrameQueue) (index : Nat) (value : Slot) : FrameQueue :=
  { queue with slots := queue.slots.set index value }

end FrameQueue

/-- `fq_create`, with the outcome of its allocations. -/
def fqCreate (capacity : Nat) (allocated : Bool) : Option FrameQueue :=
  if capacity = 0 then none
  else if !allocated then none
  else some
    { slots := List.replicate capacity {}
      capacity := capacity
      head := 0
      tail := 0
      count := 0
      dropped := 0
      closed := false
      dropping := false }

/-- The body of the loop of `drop_frames`: clear and skip the oldest slot.  The
timestamp is left in the slot. -/
def dropFrame (state : QueueState) : QueueState :=
  let queue := state.queue
  let oldest := queue.slot queue.head
  { heap := state.heap.free oldest.data
    queue :=
      { queue.setSlot queue.head
          { oldest with data := none, len := 0, isKey := false } with
        head := (queue.head + 1) % queue.capacity
        count := queue.count - 1
        dropped := queue.dropped + 1 } }

/-- The `do … while` loop of `drop_frames`.  It is entered with at least one
frame and every round removes one, so as many rounds as there are frames
suffice. -/
def dropFramesLoop : Nat → QueueState → QueueState
  | 0, state => state
  | rounds + 1, state =>
      let next := dropFrame state
      if !(next.queue.slot next.queue.head).isKey ∧ 0 < next.queue.count then
        dropFramesLoop rounds next
      else next

/-- `drop_frames`. -/
def dropFrames (state : QueueState) : QueueState :=
  if state.queue.count = 0 then state
  else
    dropFramesLoop state.queue.count
      { state with queue := { state.queue with dropping := true } }

/-- The part of `fq_push` that stores the copy at the tail. -/
def storeFrame
    (state : QueueState) (copy : Buffer) (isKey : Bool) (ptsUs : Int) :
    QueueState :=
  let queue := state.queue
  { state with
    queue :=
      { queue.setSlot queue.tail
          { data := some copy, len := copy.bytes.length, isKey, ptsUs } with
        tail := (queue.tail + 1) % queue.capacity
        count := queue.count + 1 } }

/-- `fq_push`, with the outcome of its `malloc`. -/
def fqPush
    (state : QueueState)
    (data : Option (List UInt8))
    (isKey : Bool)
    (ptsUs : Int)
    (allocated : Bool) : QueueState × Int :=
  match data with
  | none => (state, -1)
  | some bytes =>
      if bytes.length = 0 then (state, -1)
      else if !allocated then (state, -1)
      else
        let copy : Buffer := ⟨state.heap.next, bytes⟩
        let state :=
          { state with
            heap := { state.heap with next := state.heap.next + 1 } }
        let discard := fun state : QueueState =>
          ({ state with heap := state.heap.free (some copy) }, (0 : Int))
        let store := fun state : QueueState =>
          let state :=
            if state.queue.count = state.queue.capacity then dropFrames state
            else state
          (storeFrame state copy isKey ptsUs, (0 : Int))
        if state.queue.closed then discard state
        else if state.queue.dropping then
          if !isKey then
            discard
              { state with
                queue :=
                  { state.queue with dropped := state.queue.dropped + 1 } }
          else
            store { state with queue := { state.queue with dropping := false } }
        else store state

/-- What a call of `fq_pop` comes to: it hands out a frame, it fails because the
queue is closed and drained, or it is still waiting. -/
inductive PopResult
  | frame (out : FqFrame)
  | closed
  | waiting
  deriving DecidableEq

/-- `fq_pop`. -/
def fqPop (state : QueueState) : QueueState × PopResult :=
  let queue := state.queue
  if queue.count = 0 then
    if queue.closed then (state, .closed) else (state, .waiting)
  else
    let oldest := queue.slot queue.head
    ({ state with
        queue :=
          { queue.setSlot queue.head { oldest with data := none } with
            head := (queue.head + 1) % queue.capacity
            count := queue.count - 1 } },
      .frame ⟨oldest.data, oldest.len, oldest.isKey, oldest.ptsUs⟩)

/-- `fq_close`. -/
def fqClose (state : QueueState) : QueueState :=
  { state with queue := { state.queue with closed := true } }

/-- `fq_dropped`. -/
def fqDropped (state : QueueState) : Nat := state.queue.dropped

/-- `fq_depth`. -/
def fqDepth (state : QueueState) : Nat := state.queue.count

/-- `fq_destroy`: every slot's buffer is freed, then the queue itself. -/
def fqDestroy (state : QueueState) : Heap :=
  (List.range state.queue.capacity).foldl
    (fun heap index => heap.free (state.queue.slot index).data) state.heap

/-! ## Runs -/

/-- An encoded frame as a caller of `fq_push` holds it: never empty. -/
structure AccessUnit where
  bytes : List UInt8
  isKey : Bool
  ptsUs : Int
  nonempty : bytes ≠ []
  deriving DecidableEq

/-- The frame a popper gets for an access unit copied to an address. -/
def AccessUnit.stored (unit : AccessUnit) (addr : Nat) : FqFrame :=
  { data := some ⟨addr, unit.bytes⟩
    len := unit.bytes.length
    isKey := unit.isKey
    ptsUs := unit.ptsUs }

/-- One call on the queue by one of its threads. -/
inductive QueueEvent
  | push (unit : AccessUnit)
  | pop
  | close
  deriving DecidableEq

/-- The queue with what its callers have done so far. -/
structure QueueRun where
  state : QueueState
  /-- Every access unit pushed, in order. -/
  pushed : List AccessUnit := []
  /-- How many of them were pushed before `fq_close`. -/
  accepted : Nat := 0
  /-- Every frame popped, in order. -/
  popped : List FqFrame := []

namespace QueueRun

/-- The queue `fq_create` returns, with nothing pushed yet. -/
def start (queue : FrameQueue) : QueueRun :=
  { state := { queue, heap := ⟨0, []⟩ } }

/-- One call.  A `fq_pop` on an empty open queue waits and changes nothing. -/
def step (run : QueueRun) : QueueEvent → QueueRun
  | .push unit =>
      { run with
        state :=
          (fqPush run.state (some unit.bytes) unit.isKey unit.ptsUs true).1
        pushed := run.pushed ++ [unit]
        accepted :=
          if run.state.queue.closed then run.accepted else run.accepted + 1 }
  | .pop =>
      match fqPop run.state with
      | (state, .frame out) =>
          { run with state, popped := run.popped ++ [out] }
      | (state, _) => { run with state }
  | .close => { run with state := fqClose run.state }

/-- The frames still queued, oldest first. -/
def queued (run : QueueRun) : List FqFrame :=
  (Ring.window run.state.queue.slot run.state.queue.capacity
    run.state.queue.head run.state.queue.count).map
      fun slot => ⟨slot.data, slot.len, slot.isKey, slot.ptsUs⟩

end QueueRun

end MotionSense
