import MotionSense.Capture.Timeline
import MotionSense.FrameQueue.Refinement

/-!
# From the sensor to the writer's end of the queue

`h264_thread` sends each kept frame to the encoder and pushes what the encoder
hands back.  The encoder returns the packets of the frames in the order in which
they were sent, with their timestamps, but not necessarily at once.
-/

namespace MotionSense

/-- What the encoder makes of a frame, and whether `fq_push` can copy it. -/
structure Packet where
  data : Option (List UInt8)
  isKey : Bool
  allocated : Bool

/-- One iteration of `h264_thread`, one `fq_pop`, or the close.  In an iteration
`RK_MPI_VENC_GetStream` may time out. -/
inductive PipelineEvent
  | frame (hwPts : Nat) (motion : Motion) (packet : Option Packet)
  | pop
  | close

/-- The capture thread, the encoder and the queue, with what went in and what
came out. -/
structure Pipeline where
  timeline : Timeline := {}
  /-- Frames sent to the encoder and not returned yet. -/
  encoding : List KeptFrame := []
  sent : List KeptFrame := []
  queue : QueueState
  popped : List FqFrame := []

namespace Pipeline

variable (config : Config)

/-- The queue is new and nothing has been captured. -/
def start (queue : FrameQueue) : Pipeline :=
  { queue := { queue, heap := ⟨0, []⟩ } }

/-- `RK_MPI_VENC_SendFrame`. -/
def sendFrame (pipeline : Pipeline) (kept : KeptFrame) : Pipeline :=
  { pipeline with
    encoding := pipeline.encoding ++ [kept]
    sent := pipeline.sent ++ [kept] }

/-- `RK_MPI_VENC_GetStream` and, when it succeeds, `fq_push`. -/
def getStream (pipeline : Pipeline) (packet : Option Packet) : Pipeline :=
  match packet, pipeline.encoding with
  | some packet, oldest :: encoding =>
      { pipeline with
        encoding
        queue :=
          (fqPush pipeline.queue packet.data packet.isKey oldest.pts
            packet.allocated).1 }
  | _, _ => pipeline

/-- One event. -/
def step (pipeline : Pipeline) : PipelineEvent → Pipeline
  | .frame hwPts motion packet =>
      match pipeline.timeline.step config hwPts motion with
      | (timeline, none) => { pipeline with timeline }
      | (timeline, some kept) =>
          ({ pipeline with timeline }.sendFrame kept).getStream packet
  | .pop =>
      match fqPop pipeline.queue with
      | (queue, .frame out) =>
          { pipeline with queue, popped := pipeline.popped ++ [out] }
      | (queue, _) => { pipeline with queue }
  | .close => { pipeline with queue := fqClose pipeline.queue }

/-- The timestamps behind the encoder and in it, in order. -/
def timestamps (pipeline : Pipeline) : List Int :=
  (pipeline.popped ++ pipeline.queue.queue.items).map FqFrame.ptsUs ++
    pipeline.encoding.map KeptFrame.pts

/-- A kept frame does not go back, and goes on at a switch and in motion for
rates of at most a million frames. -/
def Advances (earlier later : KeptFrame) : Prop :=
  earlier.pts ≤ later.pts ∧
    (later.transition = true ∨ later.motion = .detected →
      config.fpsHigh ≤ 1000000 → earlier.pts < later.pts)

/-- The invariant of the pipeline. -/
structure Ordered (pipeline : Pipeline) : Prop where
  ahead : pipeline.timeline.Ahead config
  wellFormed : pipeline.queue.queue.WellFormed
  sorted : pipeline.timestamps.Pairwise (· ≤ ·)
  bounded : ∀ pts ∈ pipeline.timestamps, pts ≤ pipeline.timeline.pts
  chain : List.IsChain (Advances config) pipeline.sent
  latest : ∀ kept ∈ pipeline.sent.getLast?, kept.pts = pipeline.timeline.pts

variable {config}

theorem ordered_start
    {capacity : Nat} {queue : FrameQueue}
    (created : fqCreate capacity true = some queue) :
    (start queue).Ordered config := by
  obtain ⟨wellFormed, abstract⟩ := fqCreate_wellFormed created
  have noItems : queue.items = [] := congrArg LossyQueue.items abstract
  have noTimestamps : (start queue).timestamps = [] := by
    simp [timestamps, start, noItems]
  exact
    { ahead := Timeline.ahead_initial config
      wellFormed := wellFormed
      sorted := by rw [noTimestamps]; exact List.Pairwise.nil
      bounded := by simp [noTimestamps]
      chain := List.IsChain.nil
      latest := by simp [start] }

theorem timestamps_sendFrame
    (pipeline : Pipeline) (timeline : Timeline) (kept : KeptFrame) :
    ({ pipeline with timeline }.sendFrame kept).timestamps =
      pipeline.timestamps ++ [kept.pts] := by
  simp [timestamps, sendFrame]

/-- Sending a kept frame. -/
theorem Ordered.sendFrame
    {pipeline : Pipeline}
    (ordered : pipeline.Ordered config)
    {timeline : Timeline} {kept : KeptFrame}
    (ahead : timeline.Ahead config)
    (current : timeline.pts = kept.pts)
    (grows : pipeline.timeline.pts ≤ kept.pts)
    (strictly : kept.transition = true ∨ kept.motion = .detected →
      config.fpsHigh ≤ 1000000 → pipeline.timeline.pts < kept.pts) :
    ({ pipeline with timeline }.sendFrame kept).Ordered config := by
  have timestamps := timestamps_sendFrame pipeline timeline kept
  refine
    { ahead := ahead
      wellFormed := ordered.wellFormed
      sorted := ?_
      bounded := ?_
      chain := ?_
      latest := ?_ }
  · rw [timestamps, List.pairwise_append]
    refine ⟨ordered.sorted, List.pairwise_singleton _ _, ?_⟩
    intro earlier present later isLater
    obtain rfl := List.mem_singleton.mp isLater
    exact (ordered.bounded earlier present).trans grows
  · rw [timestamps]
    intro pts present
    change pts ≤ timeline.pts
    rw [current]
    rcases List.mem_append.mp present with earlier | isLast
    · exact (ordered.bounded pts earlier).trans grows
    · exact (List.mem_singleton.mp isLast).le
  · refine List.isChain_append.mpr
      ⟨ordered.chain, List.IsChain.singleton kept, ?_⟩
    intro last isLast first isFirst
    obtain rfl : kept = first := by simpa using isFirst
    rw [Advances, ordered.latest last isLast]
    exact ⟨grows, strictly⟩
  · intro last isLast
    obtain rfl : kept = last := by simpa [Pipeline.sendFrame] using isLast
    exact current.symm

/-- Getting a packet and pushing it loses timestamps at most. -/
theorem Ordered.timestamps_getStream
    {pipeline : Pipeline}
    (ordered : pipeline.Ordered config)
    (packet : Option Packet) :
    (pipeline.getStream packet).timestamps.Sublist pipeline.timestamps := by
  unfold Pipeline.getStream
  split
  · rename_i packet oldest encoding encodingEq
    change ((pipeline.popped ++
        (fqPush pipeline.queue packet.data packet.isKey oldest.pts
          packet.allocated).1.queue.items).map FqFrame.ptsUs ++
            encoding.map KeptFrame.pts).Sublist pipeline.timestamps
    rw [timestamps, encodingEq, List.map_cons, List.map_append,
      List.map_append, List.append_assoc, List.append_assoc]
    refine List.Sublist.append_left ?_ _
    rcases fqPush_cases ordered.wellFormed packet.data packet.isKey
      oldest.pts packet.allocated with refused | ⟨unit, pts, pushes⟩
    · rw [refused]
      exact List.Sublist.append_left (List.sublist_cons_self _ _) _
    · have items := LossyQueue.items_push_sublist FqFrame.isKey
        pipeline.queue.queue.abstract
        (unit.stored pipeline.queue.heap.next)
      rw [← pushes.abstract] at items
      have mapped := items.map FqFrame.ptsUs
      rw [List.map_append, List.map_singleton] at mapped
      have unitPts : (unit.stored pipeline.queue.heap.next).ptsUs =
          oldest.pts := pts
      rw [unitPts] at mapped
      have extended := mapped.append_right (encoding.map KeptFrame.pts)
      rw [List.append_assoc] at extended
      exact extended
  · exact List.Sublist.refl _

/-- Getting a packet and pushing it. -/
theorem Ordered.getStream
    {pipeline : Pipeline}
    (ordered : pipeline.Ordered config)
    (packet : Option Packet) :
    (pipeline.getStream packet).Ordered config := by
  have fewer := ordered.timestamps_getStream packet
  unfold Pipeline.getStream at fewer ⊢
  split
  · rename_i packet oldest encoding encodingEq
    simp only [encodingEq] at fewer
    refine
      { ahead := ordered.ahead
        wellFormed := ?_
        sorted := ordered.sorted.sublist fewer
        bounded := fun pts present =>
          ordered.bounded pts (fewer.subset present)
        chain := ordered.chain
        latest := ordered.latest }
    rcases fqPush_cases ordered.wellFormed packet.data packet.isKey
      oldest.pts packet.allocated with refused | ⟨unit, _, pushes⟩
    · simp only [refused]
      exact ordered.wellFormed
    · exact pushes.wellFormed
  · exact ordered

/-- Popping does nothing or moves a frame to the writer. -/
theorem Ordered.step_pop
    {pipeline : Pipeline}
    (ordered : pipeline.Ordered config) :
    pipeline.step config .pop = pipeline ∨
      ∃ out, pipeline.step config .pop =
          { pipeline with
            queue := (fqPop pipeline.queue).1
            popped := pipeline.popped ++ [out] } ∧
        pipeline.queue.queue.items =
          out :: (fqPop pipeline.queue).1.queue.items ∧
        (fqPop pipeline.queue).1.queue.WellFormed := by
  rcases Nat.eq_zero_or_pos pipeline.queue.queue.count with empty | nonempty
  · left
    simp only [step, fqPop_of_empty empty]
    cases pipeline.queue.queue.closed <;> rfl
  obtain ⟨out, result, itemsEq, wellFormed⟩ :=
    fqPop_of_nonempty ordered.wellFormed nonempty
  refine .inr ⟨out, ?_, itemsEq, wellFormed⟩
  rw [step]
  split
  · rename_i queue frame equal
    rw [equal] at result
    obtain rfl := PopResult.frame.inj result
    rw [equal]
  · rename_i queue other notFrame equal
    rw [equal] at result
    exact absurd result (notFrame out)

theorem Ordered.timestamps_pop
    {pipeline : Pipeline}
    (ordered : pipeline.Ordered config) :
    (pipeline.step config .pop).timestamps = pipeline.timestamps := by
  rcases ordered.step_pop with same | ⟨out, stepEq, itemsEq, _⟩
  · rw [same]
  · rw [stepEq, Pipeline.timestamps, Pipeline.timestamps, itemsEq,
      List.append_assoc, List.singleton_append]

/-- Popping keeps the timestamps in order. -/
theorem Ordered.pop
    {pipeline : Pipeline}
    (ordered : pipeline.Ordered config) :
    (pipeline.step config .pop).Ordered config := by
  have timestamps := ordered.timestamps_pop
  rcases ordered.step_pop with same | ⟨out, stepEq, _, wellFormed⟩
  · rw [same]
    exact ordered
  rw [stepEq] at timestamps ⊢
  exact
    { ahead := ordered.ahead
      wellFormed := wellFormed
      sorted := by rw [timestamps]; exact ordered.sorted
      bounded := by rw [timestamps]; exact ordered.bounded
      chain := ordered.chain
      latest := ordered.latest }

/-- Every event keeps the timestamps in order. -/
theorem Ordered.step
    {pipeline : Pipeline}
    (ordered : pipeline.Ordered config)
    (event : PipelineEvent) :
    (pipeline.step config event).Ordered config := by
  cases event with
  | frame hwPts motion packet =>
      have spec := Timeline.step_ahead ordered.ahead hwPts motion
      obtain ⟨ahead, moves⟩ := spec
      rw [Pipeline.step]
      split
      · rename_i timeline equal
        rw [equal] at ahead moves
        have same : timeline.pts = pipeline.timeline.pts := moves
        exact
          { ahead := ahead
            wellFormed := ordered.wellFormed
            sorted := ordered.sorted
            bounded := by rw [same]; exact ordered.bounded
            chain := ordered.chain
            latest := by rw [same]; exact ordered.latest }
      · rename_i timeline kept equal
        rw [equal] at ahead moves
        obtain ⟨current, grows, strictly⟩ := moves
        exact (ordered.sendFrame ahead current grows strictly).getStream packet
  | pop => exact ordered.pop
  | close =>
      exact
        { ahead := ordered.ahead
          wellFormed := ordered.wellFormed.of_fields rfl rfl rfl rfl rfl
          sorted := ordered.sorted
          bounded := ordered.bounded
          chain := ordered.chain
          latest := ordered.latest }

/-- Every run keeps the timestamps in order. -/
theorem ordered_run
    {capacity : Nat} {queue : FrameQueue}
    (created : fqCreate capacity true = some queue)
    (events : List PipelineEvent) :
    (Transition.run (step config) (start queue) events).Ordered config :=
  @Transition.run_invariant_of_step _ _ (step config) (Ordered config)
    (fun _ event ordered => Ordered.step ordered event) _ events
    (ordered_start created)

end Pipeline
end MotionSense
