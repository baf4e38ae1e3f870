import MotionSense.Capture.Pipeline
import MotionSense.Storage.Steps

/-!
# Media time from the sensor to the muxer

The capture thread's timestamps go through the encoder and the queue to the
writer, which hands them to the muxer in milliseconds.  They never run
backwards on the way.
-/

namespace MotionSense

/-- The timestamps that `ingest_frame` has given to `hls_media_input`, newest
first. -/
def fedPts : List Moment → List Int
  | [] => []
  | moment :: older =>
      match moment.event with
      | .fed _ => moment.ws.ptsMs :: fedPts older
      | _ => fedPts older

namespace State

/-- The timestamps given to the muxer so far grow, and those of the frames still
to come are no smaller. -/
structure FedInOrder (state : State) (remaining : List FqFrame) : Prop where
  sorted : (fedPts state.trace).Pairwise (· ≥ ·)
  bounded : ∀ pts ∈ fedPts state.trace, ∀ frame ∈ remaining,
    pts ≤ frame.ptsUs.tdiv 1000

theorem FedInOrder.of_fed
    {before after : State} {remaining : List FqFrame}
    (same : fedPts after.trace = fedPts before.trace)
    (ordered : before.FedInOrder remaining) :
    after.FedInOrder remaining :=
  ⟨by rw [same]; exact ordered.sorted, by rw [same]; exact ordered.bounded⟩

end State

namespace Storage

open Program State

/-- The program feeds the muxer nothing. -/
def FeedsNothing (program : Storage α) : Prop :=
  ∀ state : State, program.wp
    (fun _ after => fedPts after.trace = fedPts state.trace)
    (fun after => fedPts after.trace = fedPts state.trace) state

/-- A program that records no feeding feeds nothing. -/
theorem FeedsNothing.of_within
    {step : State → State → Prop}
    {program : Storage α}
    (within : program.Within step)
    {kind : Event → Bool}
    (adds : ∀ before after, step before after → Adds kind before after)
    (ignores : ∀ frame, kind (.fed frame) = false) :
    FeedsNothing program := by
  refine within.ignored adds fun moment earlier listed => ?_
  rw [fedPts]
  split
  · rename_i frame event
    rw [event, ignores] at listed
    contradiction
  · rfl

theorem passesGate_feedsNothing (frame : FqFrame) :
    FeedsNothing (passesGate frame) := by
  intro state
  rw [passesGate, wp_bind, wp_log, wp_bind, wp_current]
  refine wp_split (fun _ => rfl) fun _ => ?_
  exact wp_split (fun _ => rfl) fun _ => rfl

theorem recordProgress_feedsNothing (config : Config) :
    FeedsNothing (recordProgress config) := by
  refine (recordProgress_within config).preserves fun before after step => ?_
  cases step with
  | marks step =>
      cases step with
      | statement step => cases step <;> rfl
      | _ => rfl
  | total step => cases step <;> rfl
  | _ => rfl

/-- A frame that is no older than those fed before keeps the order. -/
theorem ingestFrame_inOrder
    (config : Config) (frame : FqFrame) {remaining : List FqFrame}
    (next : ∀ later ∈ remaining, frame.ptsUs ≤ later.ptsUs)
    {state : State} (ordered : state.FedInOrder (frame :: remaining)) :
    (ingestFrame config frame).wp
      (fun _ after => after.FedInOrder remaining)
      (fun after => (fedPts after.trace).Pairwise (· ≥ ·)) state := by
  have later : ∀ {after : State}, after.FedInOrder (frame :: remaining) →
      after.FedInOrder remaining := fun ordered =>
    ⟨ordered.sorted, fun pts present other isLater =>
      ordered.bounded pts present other (List.mem_cons_of_mem _ isLater)⟩
  have keeps : ∀ {α : Type} {program : Storage α} {before : State}
      {frames : List FqFrame}, FeedsNothing program →
        before.FedInOrder frames →
          program.wp (fun _ after => after.FedInOrder frames)
            (fun after => (fedPts after.trace).Pairwise (· ≥ ·)) before := by
    intro α program before frames nothing ordered
    exact wp_mono (nothing before) (fun _ _ same => ordered.of_fed same)
      fun _ same => (ordered.of_fed same).sorted
  rw [ingestFrame]
  refine wp_then (keeps (.of_within (rolloverIfNewDay_within config)
    adds_dayStep fun _ => rfl) ordered)
    fun _ state ordered => ?_
  refine wp_then (keeps (passesGate_feedsNothing frame) ordered)
    fun passes state ordered => ?_
  refine wp_split (fun _ => ?_) fun _ => later ordered
  refine wp_via (fun _ after => after.FedInOrder remaining) ?_
    fun _ state ordered => ?_
  · rw [feedMuxer, wp_bind, wp_divide_of_ne (by decide)]
    simp only [wp_bind, wp_setWs, wp_log]
    have fed : (((state.log (.divides 1000)).updateWs fun ws =>
        { ws with ptsMs := frame.ptsUs.tdiv 1000 }).log
          (.fed frame)).FedInOrder remaining := by
      refine ⟨?_, ?_⟩
      · refine List.pairwise_cons.mpr ⟨fun pts present => ?_, ordered.sorted⟩
        exact ordered.bounded pts present frame List.mem_cons_self
      · intro pts present other isLater
        rcases List.mem_cons.mp present with rfl | earlier
        · exact Int.tdiv_le_tdiv (by decide) (next other isLater)
        · exact (later ordered).bounded pts earlier other isLater
    have input := keeps (.of_within (hlsMediaInput_within config frame.payload
      (frame.ptsUs.tdiv 1000) (frame.ptsUs.tdiv 1000) frame.isKey)
      adds_hlsStep fun _ => rfl) fed
    exact wp_mono input
      (fun _ after ordered => ⟨ordered.sorted, ordered.bounded⟩)
      fun _ sorted => sorted
  refine wp_then (keeps (recordProgress_feedsNothing config) ordered)
    fun _ state ordered => ?_
  exact keeps (.of_within (checkAndCleanup_within config) adds_retentionStep
    fun _ => rfl) ordered

/-- Frames in order are fed in order. -/
theorem ingestFrames_inOrder
    (config : Config) {frames : List FqFrame}
    (sorted : (frames.map FqFrame.ptsUs).Pairwise (· ≤ ·))
    {state : State} (ordered : state.FedInOrder frames) :
    (forEach (ingestFrame config) frames).wp
      (fun _ after => (fedPts after.trace).Pairwise (· ≥ ·))
      (fun after => (fedPts after.trace).Pairwise (· ≥ ·)) state := by
  induction frames generalizing state with
  | nil => exact ordered.sorted
  | cons frame frames inductionHypothesis =>
      rw [List.map_cons, List.pairwise_cons] at sorted
      have next : ∀ later ∈ frames, frame.ptsUs ≤ later.ptsUs :=
        fun later present => sorted.1 _ (List.mem_map_of_mem present)
      exact wp_then (ingestFrame_inOrder config frame next ordered)
        fun _ state ordered => inductionHypothesis sorted.2 ordered

/-- A life of the writer on frames in order feeds the muxer in order. -/
theorem life_inOrder
    (config : Config) {frames : List FqFrame}
    (sorted : (frames.map FqFrame.ptsUs).Pairwise (· ≤ ·))
    {state : State} (unfed : fedPts state.trace = []) :
    ((writer config).life frames).wp
      (fun _ after => (fedPts after.trace).Pairwise (· ≥ ·))
      (fun after => (fedPts after.trace).Pairwise (· ≥ ·)) state := by
  have none : ∀ {after : State}, fedPts after.trace = fedPts state.trace →
      (fedPts after.trace).Pairwise (· ≥ ·) := by
    intro after same
    rw [same, unfed]
    exact List.Pairwise.nil
  rw [Daemon.life]
  refine wp_then (wp_mono (FeedsNothing.of_within (writerBoot_within config)
    adds_dayStep (fun _ => rfl) state)
    (fun _ _ same => same) fun _ same => none same) fun booted state same => ?_
  refine wp_split (fun _ => ?_) fun _ => none same
  refine wp_then (ingestFrames_inOrder config sorted ⟨none same, ?_⟩)
    fun _ state sorted => ?_
  · rw [same, unfed]
    simp
  · exact wp_mono (FeedsNothing.of_within (closeDay_within config) adds_dayStep
      (fun _ => rfl) state)
      (fun _ _ same => by rw [same]; exact sorted)
      fun _ same => by rw [same]; exact sorted

end Storage

/-- Media time never runs backwards: whatever the sensor, the encoder, the queue
and the writer's environment do, the timestamps given to the muxer grow, and
those given to the encoder grow strictly at every switch and in motion. -/
theorem mediaTime_monotone
    (config : Config)
    {capacity : Nat} {queue : FrameQueue}
    (created : fqCreate capacity true = some queue)
    (events : List PipelineEvent)
    (disk : Disk)
    (script : List Choice) :
    let pipeline := Transition.run (Pipeline.step config)
      (Pipeline.start queue) events
    let recorded := (((writer config).life pipeline.popped).run
      (State.restart { disk }) script).state
    (fedPts recorded.trace).reverse.Pairwise (· ≤ ·) ∧
      List.IsChain
        (fun earlier later => earlier.pts ≤ later.pts ∧
          (later.transition = true ∨ later.motion = .detected →
            config.fpsHigh ≤ 1000000 → earlier.pts < later.pts))
        pipeline.sent := by
  intro pipeline recorded
  have ordered := @Pipeline.ordered_run config capacity queue created events
  refine ⟨?_, ordered.chain⟩
  have sorted : (pipeline.popped.map FqFrame.ptsUs).Pairwise (· ≤ ·) := by
    have all := ordered.sorted
    rw [Pipeline.timestamps, List.map_append, List.append_assoc,
      List.pairwise_append] at all
    exact all.1
  rw [List.pairwise_reverse]
  exact Program.Outcome.Meets.state ((Program.wp_iff_run _ _ _ _).mp
    (Storage.life_inOrder config sorted rfl) script)

/-- Two frames in motion and one behind a step back of the sensor's clock. -/
theorem mediaTime_monotone_three_frames :
    let packet : Option Packet := some ⟨some [1], true, true⟩
    let pipeline := Transition.run (Pipeline.step {})
      (Pipeline.start ((fqCreate 4 true).get rfl))
      [.frame 90000 .detected packet, .frame 130000 .detected packet, .pop,
        .frame 70000 .undetected packet, .pop, .pop]
    let works : Choice := {}
    let recorded := (((writer {}).life pipeline.popped).run
      (State.restart {}) (List.replicate 60 works)).state
    (fedPts recorded.trace).reverse.Pairwise (· ≤ ·) :=
  (mediaTime_monotone {} (Option.some_get _).symm _ {} _).1

end MotionSense
