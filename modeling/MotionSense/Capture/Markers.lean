import MotionSense.Capture.Pipeline

/-!
# Where the player marks motion

`updateMotionMarkers` of `playback.js` puts the mark of a frame at the frame's
share of the segment's frames, as if every frame took the same time.  The
capture thread lets real time pass in motion, scaled time when idle, and a
nominal step at a switch, and the queue may drop frames in between; so the mark
is off by as much as the recorded time is spread unevenly over the frames.
-/

namespace MotionSense

/-! ## The player -/

/-- A marker on the progress bar: its place in percent, and the second that a
click on it seeks to. -/
structure Marker where
  left : ℚ
  seconds : ℚ
  deriving DecidableEq

/-- `updateMotionMarkers`.  A duration that is `NaN` or infinite is `none`. -/
def updateMotionMarkers
    (motionFrames : List Int) (totalFrames : Int) (duration : Option ℚ) :
    List Marker :=
  if motionFrames.length = 0 || totalFrames = 0 then []
  else
    match duration with
    | none => []
    | some duration =>
        if duration = 0 then []
        else
          motionFrames.map fun (frame : Int) =>
            let share : ℚ := (frame : ℚ) / (totalFrames : ℚ)
            { left := max 0 (min 100 (share * 100))
              seconds := share * duration }

/-- How many seconds the frames of a segment take in the player. -/
def playbackDuration (pts : List Int) : ℚ :=
  (pts.getLastD 0 - pts.headD 0 : Int) / 1000000

/-- The marker of every frame is at most a second away from the frame. -/
def MarkersSit (pts : List Int) : Prop :=
  ∀ index (inside : index < pts.length),
    ∀ marker ∈ updateMotionMarkers [(index + 1 : Int)] pts.length
        (some (playbackDuration pts)),
      |marker.seconds - (pts[index] - pts.headD 0 : Int) / 1000000| ≤ 1

/-! ## The recorder -/

/-- A frame of the sensor that the capture thread keeps: the sensor's time since
the one kept before it, and whether it is the first of all or the first behind a
switch. -/
structure Shot where
  gap : Int
  motion : Motion
  nominal : Bool
  deriving DecidableEq

/-- The time that a shot adds to the recording: a nominal step, all of the gap in
motion, a part of it when idle. -/
def Shot.elapsed (config : Config) (shot : Shot) : Int :=
  if shot.nominal then (1000000 : Int).tdiv config.clampedHigh
  else if shot.motion = .detected then shot.gap
  else (shot.gap * config.clampedLow).tdiv config.clampedHigh

/-- The shots among the frames of the sensor. -/
def shots (config : Config) : Timeline → List (Nat × Motion) → List Shot
  | _, [] => []
  | timeline, (hwPts, motion) :: inputs =>
      match timeline.step config hwPts motion with
      | (after, none) => shots config after inputs
      | (after, some kept) =>
          { gap := hwPts - timeline.lastKeptHw
            motion
            nominal := timeline.lastKeptHw < 0 || kept.transition } ::
              shots config after inputs

/-- The frames of the sensor among the events of the pipeline. -/
def PipelineEvent.inputs : List PipelineEvent → List (Nat × Motion)
  | [] => []
  | .frame hwPts motion _ :: events => (hwPts, motion) :: inputs events
  | _ :: events => inputs events

/-- A shot that a segment holds, behind the shots that the encoder and the queue
have lost since the one before it. -/
structure Taken where
  lost : List Shot
  shot : Shot

namespace Taken

def shots (taken : Taken) : List Shot :=
  taken.lost ++ [taken.shot]

/-- The recorded time since the frame before it in the segment. -/
def pause (config : Config) (taken : Taken) : Int :=
  (taken.shots.map (Shot.elapsed config)).sum

/-- The timestamps of a segment of these shots. -/
def timestamps (config : Config) (first : Taken) (taken : List Taken) :
    List Int :=
  taken.scanl (fun pts next => pts + next.pause config) (first.pause config)

end Taken

/-- A segment with these timestamps holds shots of the recording. -/
def Holds
    (config : Config) (recording : List Shot) (pts : List Int)
    (first : Taken) (taken : List Taken) : Prop :=
  (first :: taken).flatMap Taken.shots <+: recording ∧
    pts = Taken.timestamps config first taken

/-- How far behind a common frame time a frame is: by the frames lost in front of
it, and by a step at a switch, a stall of the sensor or a scaled gap that
differs. -/
def Taken.late (config : Config) (frameTime : Int) (taken : Taken) : Int :=
  (taken.lost.map (Shot.elapsed config)).sum +
    if taken.shot.nominal then
      (1000000 : Int).tdiv config.clampedHigh - frameTime
    else if taken.shot.motion = .detected then taken.shot.gap - frameTime
    else
      (taken.shot.gap * config.clampedLow).tdiv config.clampedHigh - frameTime

/-- How far some frames in a row drift from a common frame time. -/
def drift (config : Config) (frameTime : Int) (taken : List Taken) : Int :=
  |(taken.map (Taken.late config frameTime)).sum|

/-- For some frame time, up to every frame and from it to the last one the drift
is at most about a second: together with `(T - 1) / T` of the frame time. -/
def KeptEvenly (config : Config) (taken : List Taken) : Prop :=
  ∃ frameTime : Int, 0 ≤ frameTime ∧ ∀ index ≤ taken.length,
    max (drift config frameTime (taken.take index))
          (drift config frameTime (taken.drop index)) * (taken.length + 1) +
        frameTime * taken.length ≤
      1000000 * (taken.length + 1)

/-! ## Marks of a segment -/

/-- Up to every frame and behind it, the same time per frame, up to a second. -/
def EvenlyTimed (pts : List Int) : Prop :=
  ∀ index (inside : index < pts.length),
    let before := pts[index] - pts.headD 0
    let behind := pts.getLastD 0 - pts[index]
    |behind * (index + 1) - before * (pts.length - (index + 1))| ≤
      1000000 * (pts.length : Int)

/-- The first and the last of a list in order bound the others. -/
theorem headD_le_and_le_getLastD
    {pts : List Int} (sorted : pts.Pairwise (· ≤ ·))
    {index : Nat} (inside : index < pts.length) :
    pts.headD 0 ≤ pts[index] ∧ pts[index] ≤ pts.getLastD 0 := by
  have nonempty : pts ≠ [] := List.ne_nil_of_length_pos (by omega)
  rw [List.headD_eq_head?_getD, List.head?_eq_some_head nonempty,
    List.getLastD_eq_getLast?, List.getLast?_eq_some_getLast nonempty,
    Option.getD_some, Option.getD_some, List.head_eq_getElem,
    List.getLast_eq_getElem]
  have monotone := sorted.sortedLE.monotone_get
  constructor
  · exact monotone (Fin.mk_le_mk.mpr (Nat.zero_le index))
  · exact monotone (Fin.mk_le_mk.mpr (by omega))

/-- A frame has its one marker, if the player knows how long the segment
lasts. -/
theorem forall_updateMotionMarkers
    {frame totalFrames : Int} {duration : ℚ}
    (counted : totalFrames ≠ 0) (lasts : duration ≠ 0)
    (condition : ℚ → Prop) :
    (∀ marker ∈ updateMotionMarkers [frame] totalFrames (some duration),
      condition marker.seconds) ↔
        condition ((frame : ℚ) / (totalFrames : ℚ) * duration) := by
  rw [updateMotionMarkers, if_neg (by simpa using counted)]
  simp only [if_neg lasts, List.map_cons, List.map_nil, List.mem_singleton,
    forall_eq]

/-- How far the marker of a frame is from it, in terms of the time before and
behind the frame. -/
theorem share_sub_elapsed
    {first now last frame total : Int} (positive : 0 < total) :
    |(frame : ℚ) / total * ((last - first : Int) / 1000000) -
        (now - first : Int) / 1000000| ≤ 1 ↔
      |(last - now) * frame - (now - first) * (total - frame)| ≤
        1000000 * total := by
  have positive' : (0 : ℚ) < total := Int.cast_pos.mpr positive
  have scaled : (frame : ℚ) / total * ((last - first : Int) / 1000000) -
      (now - first : Int) / 1000000 =
        (((last - now) * frame - (now - first) * (total - frame) : Int) : ℚ) /
          (1000000 * total) := by
    push_cast
    field_simp
    ring
  have million : (0 : ℚ) < 1000000 * total := by positivity
  rw [scaled, abs_div, abs_of_pos million, div_le_one million]
  rw [← Int.cast_abs]
  exact_mod_cast Iff.rfl

/-- In order, the markers sit exactly when the timestamps are spread evenly. -/
theorem markersSit_iff
    {pts : List Int} (sorted : pts.Pairwise (· ≤ ·)) :
    MarkersSit pts ↔ EvenlyTimed pts := by
  refine forall₂_congr fun index inside => ?_
  have counted : (0 : Int) < pts.length := by omega
  obtain ⟨behindFirst, beforeLast⟩ := headD_le_and_le_getLastD sorted inside
  simp only
  rw [← share_sub_elapsed counted]
  by_cases lasts : playbackDuration pts = 0
  · -- all frames have one timestamp, and no marker is drawn
    have together : pts.getLastD 0 - pts.headD 0 = 0 := by
      rw [playbackDuration, div_eq_zero_iff] at lasts
      exact_mod_cast lasts.resolve_right (by norm_num)
    have still : pts[index] - pts.headD 0 = 0 := by omega
    rw [together, still]
    refine iff_of_true (fun marker drawn => ?_) (by norm_num)
    rw [updateMotionMarkers, if_neg (by simpa using counted.ne')] at drawn
    simp only [if_pos lasts] at drawn
    exact absurd drawn List.not_mem_nil
  · rw [forall_updateMotionMarkers counted.ne' lasts fun seconds =>
      |seconds - (pts[index] - pts.headD 0 : Int) / 1000000| ≤ 1,
      playbackDuration]

/-! ## Segments of the recorder -/

namespace Pipeline

variable {config : Config}

/-- What left the encoder was sent to it. -/
def Lossy (pipeline : Pipeline) : Prop :=
  pipeline.timestamps.Sublist (pipeline.sent.map KeptFrame.pts)

theorem sent_getStream (pipeline : Pipeline) (packet : Option Packet) :
    (pipeline.getStream packet).sent = pipeline.sent := by
  unfold getStream
  split <;> rfl

theorem sent_pop (pipeline : Pipeline) :
    (pipeline.step config .pop).sent = pipeline.sent := by
  rw [step]
  split <;> rfl

theorem Ordered.lossy_step
    {pipeline : Pipeline} (ordered : pipeline.Ordered config)
    (lossy : pipeline.Lossy) (event : PipelineEvent) :
    (pipeline.step config event).Lossy := by
  cases event with
  | frame hwPts motion packet =>
      obtain ⟨ahead, moves⟩ := Timeline.step_ahead ordered.ahead hwPts motion
      rw [Pipeline.step]
      split
      · exact lossy
      · rename_i timeline kept equal
        rw [equal] at ahead moves
        obtain ⟨current, grows, strictly⟩ := moves
        have sentOrdered := ordered.sendFrame ahead current grows strictly
        have fewer := sentOrdered.timestamps_getStream packet
        rw [Lossy, sent_getStream]
        refine fewer.trans ?_
        rw [timestamps_sendFrame, Pipeline.sendFrame, List.map_append]
        exact lossy.append_right _
  | pop =>
      rw [Lossy, ordered.timestamps_pop, sent_pop]
      exact lossy
  | close => exact lossy

theorem lossy_run
    {capacity : Nat} {queue : FrameQueue}
    (created : fqCreate capacity true = some queue)
    (events : List PipelineEvent) :
    (Transition.run (step config) (start queue) events).Lossy := by
  have both := @Transition.run_invariant_of_step _ _ (step config)
    (fun pipeline => pipeline.Ordered config ∧ pipeline.Lossy)
    (fun _ event both => ⟨both.1.step event, both.1.lossy_step both.2 event⟩)
    (start queue) events ⟨ordered_start created, ?_⟩
  · exact both.2
  · obtain ⟨_, abstract⟩ := fqCreate_wellFormed created
    have noItems : queue.items = [] := congrArg LossyQueue.items abstract
    simp [Lossy, timestamps, start, noItems]

end Pipeline

/-- A frame of the sensor is dropped, or its shot moves the timeline on. -/
theorem Timeline.step_shot
    (config : Config) (timeline : Timeline) (hwPts : Nat) (motion : Motion) :
    match timeline.step config hwPts motion with
    | (after, none) => after.pts = timeline.pts
    | (after, some kept) =>
        kept.pts = after.pts ∧ after.pts = timeline.pts +
          Shot.elapsed config
            { gap := hwPts - timeline.lastKeptHw
              motion
              nominal := timeline.lastKeptHw < 0 || kept.transition } := by
  unfold Timeline.step
  simp only
  split
  · rename_i after equal
    split at equal
    · cases equal
      rfl
    · exact nomatch equal
  · rename_i after kept equal
    split at equal
    · exact nomatch equal
    · cases equal
      refine ⟨rfl, congrArg (timeline.pts + ·) ?_⟩
      rw [Timeline.advance, Shot.elapsed]
      exact if_congr (by simp) rfl rfl

/-- The timestamps that the shots get. -/
def recorded (config : Config) : Int → List Shot → List Int
  | _, [] => []
  | pts, shot :: later =>
      (pts + shot.elapsed config) ::
        recorded config (pts + shot.elapsed config) later

/-- The timestamps that kept frames get are those of the shots. -/
theorem Pipeline.sent_run
    (config : Config) (pipeline : Pipeline) (events : List PipelineEvent) :
    (Transition.run (step config) pipeline events).sent.map KeptFrame.pts =
      pipeline.sent.map KeptFrame.pts ++
        recorded config pipeline.timeline.pts
          (shots config pipeline.timeline (PipelineEvent.inputs events)) := by
  induction events generalizing pipeline with
  | nil => exact (List.append_nil _).symm
  | cons event events inductionHypothesis =>
      rw [Transition.run_cons]
      cases event with
      | pop =>
          have same : (pipeline.step config .pop).timeline =
              pipeline.timeline := by
            rw [step]
            split <;> rfl
          rw [inductionHypothesis, sent_pop, same]
          rfl
      | close => exact inductionHypothesis _
      | frame hwPts motion packet =>
          have next := Timeline.step_shot config pipeline.timeline hwPts motion
          obtain ⟨after, kept, equal⟩ : ∃ after kept,
              Timeline.step config pipeline.timeline hwPts motion =
                (after, kept) := ⟨_, _, rfl⟩
          rw [PipelineEvent.inputs, shots, Pipeline.step]
          rw [equal] at next ⊢
          cases kept with
          | none =>
              have same : after.pts = pipeline.timeline.pts := next
              rw [← same]
              exact inductionHypothesis _
          | some kept =>
              obtain ⟨samePts, moved⟩ := next
              have sameTimeline : (({ pipeline with
                  timeline := after }.sendFrame kept).getStream
                    packet).timeline = after := by
                unfold getStream
                split <;> rfl
              simp only
              rw [inductionHypothesis, sent_getStream, sameTimeline, sendFrame,
                List.map_append, List.append_assoc, List.map_singleton, samePts,
                recorded, ← moved]
              rfl

/-! ## Segments of a recording -/

namespace Taken

variable {config : Config}

/-- Timestamps out of a recording are those of some of its shots. -/
theorem exists_of_sublist
    {recording : List Shot} {start : Int} {pts : List Int}
    (part : pts.Sublist (recorded config start recording)) :
    ∃ taken : List Taken,
      taken.flatMap shots <+: recording ∧
      start :: pts =
        taken.scanl (fun pts next => pts + next.pause config) start := by
  induction recording generalizing start pts with
  | nil =>
      obtain rfl := List.eq_nil_of_sublist_nil part
      exact ⟨[], List.nil_prefix, rfl⟩
  | cons shot recording inductionHypothesis =>
      rw [recorded] at part
      cases part with
      | cons _ part =>
          obtain ⟨taken, shown, timed⟩ := inductionHypothesis part
          cases taken with
          | nil =>
              obtain rfl : pts = [] := by simpa using timed
              exact ⟨[], List.nil_prefix, rfl⟩
          | cons next taken =>
              -- the shot is lost in front of the next one that is taken
              refine ⟨⟨shot :: next.lost, next.shot⟩ :: taken,
                (List.prefix_cons_inj shot).mpr shown, ?_⟩
              have longer : (⟨shot :: next.lost, next.shot⟩ : Taken).pause
                  config = shot.elapsed config + next.pause config := rfl
              rw [List.scanl_cons] at timed ⊢
              rw [longer, ← add_assoc, (List.cons.inj timed).2]
      | @cons_cons pts _ _ part =>
          obtain ⟨taken, shown, timed⟩ := inductionHypothesis part
          refine ⟨⟨[], shot⟩ :: taken, (List.prefix_cons_inj shot).mpr shown, ?_⟩
          have single : (⟨[], shot⟩ : Taken).pause config =
              shot.elapsed config := by
            simp [pause, shots]
          rw [List.scanl_cons, single, ← timed]

theorem foldl_pause (taken : List Taken) (start : Int) :
    taken.foldl (fun pts next => pts + next.pause config) start =
      start + (taken.map (pause config)).sum := by
  induction taken generalizing start with
  | nil => simp
  | cons next taken inductionHypothesis =>
      rw [List.foldl_cons, inductionHypothesis, List.map_cons, List.sum_cons,
        add_assoc]

/-- How the pauses before and behind each frame compare. -/
theorem evenlyTimed_iff (first : Taken) (taken : List Taken) :
    EvenlyTimed (timestamps config first taken) ↔
      ∀ index ≤ taken.length,
        |((taken.drop index).map (pause config)).sum * (index + 1) -
            ((taken.take index).map (pause config)).sum *
              (taken.length - index)| ≤
          1000000 * (taken.length + 1 : Int) := by
  have times : ∀ index (inside : index < (timestamps config first taken).length),
      (timestamps config first taken)[index] = first.pause config +
        ((taken.take index).map (pause config)).sum := by
    intro index inside
    simp only [timestamps, List.getElem_scanl, foldl_pause]
  have counted : (timestamps config first taken).length = taken.length + 1 :=
    List.length_scanl
  have starts : (timestamps config first taken).headD 0 =
      first.pause config := by
    rw [List.headD_eq_head?_getD, timestamps, List.head?_scanl,
      Option.getD_some]
  have ends : (timestamps config first taken).getLastD 0 =
      first.pause config + (taken.map (pause config)).sum := by
    rw [List.getLastD_eq_getLast?, timestamps, List.getLast?_scanl,
      Option.getD_some, foldl_pause]
  refine forall_congr' fun index => ?_
  have bound : index < (timestamps config first taken).length ↔
      index ≤ taken.length := by
    rw [counted, Nat.lt_succ_iff]
  rw [← bound]
  refine forall_congr' fun inside => ?_
  have split := congrArg (fun taken => (taken.map (pause config)).sum)
    (List.take_append_drop index taken)
  simp only [List.map_append, List.sum_append] at split
  simp only [times, starts, ends, counted, ← split]
  push_cast
  ring_nf

/-- The pauses of frames in a row and their frame times differ by what the frames
are late. -/
theorem sum_pause (frameTime : Int) (taken : List Taken) :
    (taken.map (pause config)).sum =
      frameTime * taken.length + (taken.map (late config frameTime)).sum := by
  induction taken with
  | nil => simp
  | cons next taken inductionHypothesis =>
      have own : next.pause config =
          frameTime + next.late config frameTime := by
        have elapsed : next.shot.elapsed config - frameTime =
            if next.shot.nominal then
              (1000000 : Int).tdiv config.clampedHigh - frameTime
            else if next.shot.motion = .detected then
              next.shot.gap - frameTime
            else (next.shot.gap * config.clampedLow).tdiv config.clampedHigh -
              frameTime := by
          rw [Shot.elapsed]
          split
          · rfl
          · split <;> rfl
        rw [late, ← elapsed, pause, shots, List.map_append, List.sum_append,
          List.map_singleton, List.sum_singleton]
        ring
      rw [List.map_cons, List.sum_cons, List.map_cons, List.sum_cons,
        inductionHypothesis, own, List.length_cons]
      push_cast
      ring

/-- Frames at a common rate are timed evenly. -/
theorem KeptEvenly.evenlyTimed
    {taken : List Taken} (steady : KeptEvenly config taken) (first : Taken) :
    EvenlyTimed (timestamps config first taken) := by
  obtain ⟨frameTime, positive, bounded⟩ := steady
  refine (evenlyTimed_iff first taken).mpr fun index inside => ?_
  have bound := bounded index inside
  rw [drift, drift] at bound
  rw [sum_pause frameTime (taken.take index),
    sum_pause frameTime (taken.drop index), List.length_take_of_le inside,
    List.length_drop, Nat.cast_sub inside]
  generalize ((taken.take index).map (late config frameTime)).sum = before
    at bound ⊢
  generalize ((taken.drop index).map (late config frameTime)).sum = behind
    at bound ⊢
  have none : (0 : Int) ≤ index := Int.natCast_nonneg index
  have few : (index : Int) ≤ taken.length := by exact_mod_cast inside
  have split : (frameTime * (taken.length - index) + behind) * (index + 1) -
        (frameTime * index + before) * (taken.length - index) =
      frameTime * (taken.length - index) +
        (behind * (index + 1) - before * (taken.length - index)) := by
    ring
  calc |(frameTime * (taken.length - index) + behind) * (index + 1) -
          (frameTime * index + before) * (taken.length - index)|
      ≤ frameTime * (taken.length - index) +
          (|behind| * (index + 1) + |before| * (taken.length - index)) := by
        rw [split]
        refine (abs_add_le _ _).trans (add_le_add ?_ ?_)
        · rw [abs_of_nonneg (mul_nonneg positive (by omega))]
        · refine (abs_sub _ _).trans (add_le_add ?_ ?_)
          · rw [abs_mul, abs_of_nonneg (by omega : (0 : Int) ≤ index + 1)]
          · rw [abs_mul, abs_of_nonneg
              (by omega : (0 : Int) ≤ taken.length - index)]
    _ ≤ frameTime * taken.length +
          (max |before| |behind| * (index + 1) +
            max |before| |behind| * (taken.length - index)) := by
        refine add_le_add ?_ (add_le_add ?_ ?_)
        · exact mul_le_mul_of_nonneg_left (by omega) positive
        · exact mul_le_mul_of_nonneg_right (le_max_right _ _) (by omega)
        · exact mul_le_mul_of_nonneg_right (le_max_left _ _) (by omega)
    _ = max |before| |behind| * (taken.length + 1) +
          frameTime * taken.length := by ring
    _ ≤ 1000000 * (taken.length + 1) := bound

/-- Where the frames are timed evenly, no frames in a row take more than two seconds
longer or shorter than they would at the mean rate. -/
theorem abs_pause_le_of_evenlyTimed
    {first : Taken} {taken : List Taken}
    (evenly : EvenlyTimed (timestamps config first taken))
    {stretch : List Taken} (inside : stretch <:+: taken) :
    |(stretch.map (pause config)).sum * (taken.length + 1) -
        (taken.map (pause config)).sum * stretch.length| ≤
      2000000 * (taken.length + 1) := by
  obtain ⟨past, rest, rfl⟩ := inside
  rw [evenlyTimed_iff] at evenly
  have upTo := evenly past.length (by simp)
  have past' := evenly (past ++ stretch).length (by simp)
  rw [List.drop_left, List.take_left] at past'
  rw [List.append_assoc, List.drop_left, List.take_left] at upTo
  simp only [List.map_append, List.sum_append, List.length_append]
    at upTo past' ⊢
  push_cast at upTo past' ⊢
  generalize (past.map (pause config)).sum = pastTime at upTo past' ⊢
  generalize (stretch.map (pause config)).sum = time at upTo past' ⊢
  generalize (rest.map (pause config)).sum = restTime at upTo past' ⊢
  rw [abs_le] at upTo past' ⊢
  constructor <;> linarith [upTo.1, upTo.2, past'.1, past'.2]

end Taken

end MotionSense
