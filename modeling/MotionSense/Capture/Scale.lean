import MotionSense.Capture.KeepGate
import MotionSense.Capture.Markers

/-!
# The scale of the timeline

Within a stretch the new timestamps pass real time in motion and scaled time
when idle, up to the rounding of one division for each kept frame; a switch
passes the nominal step.  With the spacing of the keep gate it follows that the
encoder is never presented more frames than its constant source frame rate.
-/

namespace MotionSense

/-- `SrcFrameRate`, which `media_init` sets once. -/
def Config.srcFrameRate (config : Config) : Int :=
  if config.fpsHigh < 1 then 1 else config.fpsHigh

/-- A truncating division of a nonnegative number, by its bounds. -/
theorem tdiv_mul_bounds
    {value divisor : Int} (nonneg : 0 ≤ value) (positive : 0 < divisor) :
    value.tdiv divisor * divisor ≤ value ∧
      value + 1 ≤ value.tdiv divisor * divisor + divisor := by
  rw [Int.tdiv_eq_ediv_of_nonneg nonneg]
  have remainder := Int.mul_ediv_add_emod value divisor
  have nonnegRemainder := Int.emod_nonneg value positive.ne'
  have small := Int.emod_lt_of_pos value positive
  rw [Int.mul_comm] at remainder
  omega

namespace Timeline

variable {config : Config}

/-! ## One stretch -/

/-- The timeline within a stretch: the hardware timestamp and the new timestamp
of its first frame, and how many frames of it have been kept since. -/
structure Scaled
    (config : Config) (motion : Motion) (hwOrigin ptsOrigin : Int)
    (further : Nat) (timeline : Timeline) : Prop where
  gated : timeline.Gated config motion hwOrigin further
  realTime : motion = .detected →
    timeline.pts - ptsOrigin = timeline.lastKeptHw - hwOrigin
  atMost : motion ≠ .detected →
    (timeline.pts - ptsOrigin) * config.clampedHigh ≤
      (timeline.lastKeptHw - hwOrigin) * config.clampedLow
  above : motion ≠ .detected →
    (timeline.lastKeptHw - hwOrigin) * config.clampedLow + further ≤
      (timeline.pts - ptsOrigin) * config.clampedHigh +
        further * config.clampedHigh

/-- A stretch begins to scale. -/
theorem Gated.scaled
    {motion : Motion} {hwOrigin : Int} {timeline : Timeline}
    (gated : timeline.Gated config motion hwOrigin 0)
    (first : timeline.lastKeptHw = hwOrigin) :
    timeline.Scaled config motion hwOrigin timeline.pts 0 := by
  refine ⟨gated, fun _ => ?_, fun _ => ?_, fun _ => ?_⟩ <;> simp [first]

/-- Within a stretch a frame changes nothing, or passes its share of time. -/
theorem Scaled.step
    {motion : Motion} {hwOrigin ptsOrigin : Int} {further : Nat}
    {timeline : Timeline}
    (scaled : timeline.Scaled config motion hwOrigin ptsOrigin further)
    (hwPts : Nat) :
    timeline.step config hwPts motion = (timeline, none) ∨
      ∃ (after : Timeline) (kept : KeptFrame),
        timeline.step config hwPts motion = (after, some kept) ∧
          after.Scaled config motion hwOrigin ptsOrigin (further + 1) ∧
          after.pts = kept.pts ∧ after.lastKeptHw = hwPts := by
  obtain ⟨gated, realTime, atMost, above⟩ := scaled
  rcases gated.step hwPts with
    ⟨_, dropped⟩ |
      ⟨reached, after, kept, keeps, gatedAfter, lastKept, _, current, passes⟩
  · exact .inl dropped
  refine .inr ⟨after, kept, keeps, ⟨gatedAfter, ?_, ?_, ?_⟩, current,
    lastKept⟩
  · intro moving
    have before := realTime moving
    rw [if_pos moving] at passes
    omega
  all_goals
    intro idle
    rw [if_neg idle] at passes
    have elapsed : 0 ≤ (hwPts - timeline.lastKeptHw) * config.clampedLow :=
      mul_nonneg (by have := gated.ahead; omega) config.clampedLow_pos.le
    obtain ⟨fromBelow, fromAbove⟩ :=
      tdiv_mul_bounds elapsed config.clampedHigh_pos
    rw [lastKept, current, passes]
  · have before := atMost idle
    linarith
  · have before := above idle
    push_cast
    linarith

/-- The timeline after frames of a stretch, and its last kept frame. -/
theorem Scaled.run
    {motion : Motion} {hwOrigin ptsOrigin : Int} {timeline : Timeline}
    (scaled : timeline.Scaled config motion hwOrigin ptsOrigin 0)
    {takes : List Take}
    (ran : timeline.takes config (takes.map Take.input) = takes)
    (oneMode : ∀ take ∈ takes, take.motion = motion) :
    let after := timeline.after config (takes.map Take.input)
    after.Scaled config motion hwOrigin ptsOrigin
        (takes.filter Take.isKept).length ∧
      ∀ last ∈ (takes.filter Take.isKept).getLast?, ∃ frame,
        last.kept = some frame ∧ frame.pts = after.pts ∧
          (last.hwPts : Int) = after.lastKeptHw := by
  refine @after_of_oneMode config motion (fun kept after =>
    after.Scaled config motion hwOrigin ptsOrigin kept.length ∧
      ∀ last ∈ kept.getLast?, ∃ frame, last.kept = some frame ∧
        frame.pts = after.pts ∧ (last.hwPts : Int) = after.lastKeptHw)
    ?_ [] timeline ⟨scaled, nofun⟩ takes ran oneMode
  intro kept before hwPts both
  rcases both.1.step hwPts with
    dropped | ⟨after, frame, keeps, scaledAfter, current, lastKept⟩
  · exact .inl dropped
  · refine .inr ⟨after, frame, keeps, ?_, ?_⟩
    · rw [List.length_append]
      exact scaledAfter
    · intro last isLast
      rw [List.getLast?_concat] at isLast
      obtain rfl := Option.some.inj isLast
      exact ⟨frame, rfl, current.symm, lastKept.symm⟩

/-! ## Dropped frames -/

/-- A frame that is dropped leaves the timeline as it is. -/
theorem step_of_dropped
    {timeline : Timeline} {hwPts : Nat} {motion : Motion}
    (dropped : (timeline.step config hwPts motion).2 = none) :
    (timeline.step config hwPts motion).1 = timeline := by
  by_cases stays : timeline.prevMotionState = some motion
  · rw [step_eq] at dropped ⊢
    split
    · rw [← stays]
    · rename_i next equal
      rw [equal] at dropped
      exact nomatch dropped
  · obtain ⟨after, kept, keeps, _⟩ :=
      @step_of_switch config timeline hwPts motion stays
    rw [keeps] at dropped
    exact nomatch dropped

/-- Without the dropped frames the timeline is the same. -/
theorem takes_kept
    (timeline : Timeline) (inputs : List (Nat × Motion)) :
    let kept := (timeline.takes config inputs).filter Take.isKept
    timeline.takes config (kept.map Take.input) = kept ∧
      timeline.after config (kept.map Take.input) =
        timeline.after config inputs := by
  induction inputs generalizing timeline with
  | nil => exact ⟨rfl, rfl⟩
  | cons input inputs inductionHypothesis =>
      obtain ⟨hwPts, motion⟩ := input
      have first : timeline.after config ((hwPts, motion) :: inputs) =
          (timeline.step config hwPts motion).1.after config inputs := rfl
      rw [takes, first]
      cases became : (timeline.step config hwPts motion).2 with
      | none =>
          rw [step_of_dropped became,
            List.filter_cons_of_neg Bool.false_ne_true]
          exact inductionHypothesis timeline
      | some frame =>
          obtain ⟨sameTakes, sameAfter⟩ :=
            inductionHypothesis (timeline.step config hwPts motion).1
          intro kept
          have isFirst : kept = ⟨hwPts, motion, some frame⟩ ::
              ((timeline.step config hwPts motion).1.takes config
                inputs).filter Take.isKept := List.filter_cons_of_pos rfl
          rw [isFirst, List.map_cons, Take.input, takes, became, sameTakes]
          exact ⟨rfl, sameAfter⟩

/-- The timestamp of a kept frame is the timeline's. -/
theorem pts_step
    {timeline : Timeline} {hwPts : Nat} {motion : Motion} {frame : KeptFrame}
    (keeps : (timeline.step config hwPts motion).2 = some frame) :
    (timeline.step config hwPts motion).1.pts = frame.pts := by
  rw [step_eq] at keeps ⊢
  split at keeps
  · exact nomatch keeps
  · obtain rfl := Option.some.inj keeps
    rfl

/-- Behind a kept frame the timeline has the frame's timestamp. -/
theorem pts_after
    {timeline : Timeline} {inputs : List (Nat × Motion)}
    {before behind : List Take} {last : Take}
    (split : timeline.takes config inputs = before ++ behind)
    (isLast : before.getLast? = some last)
    (isKept : last.isKept = true) :
    ∃ frame, last.kept = some frame ∧
      (timeline.after config (before.map Take.input)).pts = frame.pts := by
  obtain ⟨earlier, rfl⟩ := List.getLast?_eq_some_iff.mp isLast
  rw [List.append_assoc] at split
  obtain ⟨_, ranLast⟩ := takes_eq_append split
  obtain ⟨became, _⟩ := takes_eq_cons ranLast
  obtain ⟨frame, keeps⟩ := Option.isSome_iff_exists.mp isKept
  refine ⟨frame, keeps, ?_⟩
  rw [List.map_append, after, Transition.run_append]
  exact pts_step (became.symm.trans keeps)

end Timeline

/-- The timeline keeps its scale, for every sequence of hardware timestamps and
motion states.  In a stretch of kept frames it passes the time of the hardware
in motion, and the scaled time up to one microsecond for each frame when idle;
a switch passes the nominal step; and without the dropped frames the timeline is
the same. -/
theorem timeline_scale
    (config : Config)
    (inputs : List (Nat × Motion)) :
    let kept := (Timeline.takes config {} inputs).filter Take.isKept
    (∀ before first rest behind, Stretch kept before first rest behind →
      (∀ last ∈ rest.getLast?, ∃ frame lastFrame,
        first.kept = some frame ∧ last.kept = some lastFrame ∧
          if first.motion = .detected then
            lastFrame.pts - frame.pts = (last.hwPts : Int) - first.hwPts
          else
            let scaled : ℚ := ((last.hwPts : ℚ) - first.hwPts) *
              config.clampedLow / config.clampedHigh
            scaled - rest.length < (lastFrame.pts - frame.pts : Int) ∧
              (lastFrame.pts - frame.pts : Int) ≤ scaled) ∧
      ∀ last ∈ before.getLast?, ∃ lastFrame frame,
        last.kept = some lastFrame ∧ first.kept = some frame ∧
          frame.pts =
            lastFrame.pts + (1000000 : Int).tdiv config.clampedHigh) ∧
      Timeline.takes config {} (kept.map Take.input) = kept ∧
      Timeline.after config {} (kept.map Take.input) =
        Timeline.after config {} inputs := by
  intro kept
  obtain ⟨sameTakes, sameAfter⟩ :
      Timeline.takes config {} (kept.map Take.input) = kept ∧ _ :=
    Timeline.takes_kept {} inputs
  have allKept : ∀ take ∈ kept, take.isKept = true := fun take present =>
    (List.mem_filter.mp present).2
  refine ⟨fun before first rest behind stretch => ?_, sameTakes, sameAfter⟩
  have split := stretch.split
  have oneMode := stretch.oneMode
  have ofKept : Stretch (Timeline.takes config {} (kept.map Take.input)) before
      first rest behind := by
    rw [sameTakes]
    exact stretch
  obtain ⟨opened, frame, firstKept, gated, lastKept, current, nominal, ran⟩ :=
    ofKept.begins
  constructor
  · intro last isLast
    obtain ⟨scaled, lastOfRest⟩ := (gated.scaled lastKept).run ran oneMode
    have restKept : rest.filter Take.isKept = rest := by
      rw [List.filter_eq_self]
      intro take present
      apply allKept
      rw [split]
      exact List.mem_append_right _
        (List.mem_cons_of_mem _ (List.mem_append_left _ present))
    rw [restKept] at scaled lastOfRest
    obtain ⟨lastFrame, keepsLast, samePts, sameHw⟩ := lastOfRest last isLast
    refine ⟨frame, lastFrame, firstKept, keepsLast, ?_⟩
    obtain ⟨_, realTime, atMost, above⟩ := scaled
    rw [← samePts, ← sameHw, current] at realTime atMost above
    split
    · rename_i moving
      exact realTime moving
    · rename_i idle
      have some_ : (1 : ℚ) ≤ rest.length := by
        have nonempty : rest ≠ [] := by
          rintro rfl
          exact nomatch isLast
        exact_mod_cast List.length_pos_iff.mpr nonempty
      have high : (0 : ℚ) < config.clampedHigh :=
        Int.cast_pos.mpr config.clampedHigh_pos
      have fromAbove : ((lastFrame.pts - frame.pts : Int) : ℚ) *
          config.clampedHigh ≤
            ((last.hwPts : ℚ) - first.hwPts) * config.clampedLow := by
        exact_mod_cast atMost idle
      have fromBelow : ((last.hwPts : ℚ) - first.hwPts) * config.clampedLow +
          rest.length ≤
            ((lastFrame.pts - frame.pts : Int) : ℚ) * config.clampedHigh +
              rest.length * config.clampedHigh := by
        exact_mod_cast above idle
      refine ⟨?_, (le_div_iff₀ high).mpr fromAbove⟩
      rw [sub_lt_iff_lt_add, div_lt_iff₀ high, add_mul]
      linarith
  · intro last isLast
    have present : last ∈ kept := by
      rw [split]
      exact List.mem_append_left _ (List.mem_of_getLast? isLast)
    obtain ⟨lastFrame, keepsLast, samePts⟩ :=
      Timeline.pts_after ofKept.split isLast (allKept last present)
    rw [samePts] at nominal
    exact ⟨lastFrame, frame, keepsLast, firstKept, nominal⟩

/-- Three frames in motion behind an idle one. -/
theorem timeline_scale_four_frames :
    let takes := Timeline.takes {} {} [(0, .undetected), (5000, .detected),
      (40000, .detected), (90000, .detected)]
    takes.filter Take.isKept = takes ∧
      ∃ frame lastFrame,
        (takes.get ⟨1, by decide⟩).kept = some frame ∧
          (takes.get ⟨3, by decide⟩).kept = some lastFrame ∧
            lastFrame.pts - frame.pts = 90000 - 5000 := by
  intro takes
  have stretch : Stretch (takes.filter Take.isKept) [takes.get ⟨0, by decide⟩]
      (takes.get ⟨1, by decide⟩)
      [takes.get ⟨2, by decide⟩, takes.get ⟨3, by decide⟩] [] :=
    ⟨by decide, by decide, by decide⟩
  exact ⟨by decide,
    (((timeline_scale {} _).1 _ _ _ _ stretch).1 _ rfl)⟩

/-! ## The source frame rate -/

namespace Timeline

variable {config : Config}

/-- Within a stretch the kept frames are as far apart as the source frame rate
asks for, up to two microseconds each. -/
theorem Scaled.paced
    {motion : Motion} {hwOrigin ptsOrigin : Int} {further : Nat}
    {timeline : Timeline}
    (scaled : timeline.Scaled config motion hwOrigin ptsOrigin further)
    (slower : config.clampedLow ≤ config.clampedHigh) :
    ptsOrigin + further * ((1000000 : Int).tdiv config.clampedHigh - 2) ≤
      timeline.pts := by
  obtain ⟨gated, realTime, _, above⟩ := scaled
  have spaced := gated.spaced
  have high := config.clampedHigh_pos
  have count : (0 : Int) ≤ further := Int.natCast_nonneg further
  set nominal := (1000000 : Int).tdiv config.clampedHigh with isNominal
  by_cases moving : motion = .detected
  · have passed := realTime moving
    have interval : config.keepInterval motion = nominal := by
      rw [Config.keepInterval, Config.targetFps, if_pos moving]
    rw [interval] at spaced
    linarith
  · have passed := above moving
    set interval := config.keepInterval motion with isInterval
    rw [Config.keepInterval, Config.targetFps, if_neg moving] at isInterval
    obtain ⟨_, lowBound⟩ :=
      tdiv_mul_bounds (by decide : (0 : Int) ≤ 1000000) config.clampedLow_pos
    obtain ⟨highBound, _⟩ :=
      tdiv_mul_bounds (by decide : (0 : Int) ≤ 1000000) high
    rw [← isInterval] at lowBound
    rw [← isNominal] at highBound
    have each : (nominal - 2) * config.clampedHigh ≤
        interval * config.clampedLow + 1 - config.clampedHigh := by
      linarith
    have all : further * ((nominal - 2) * config.clampedHigh) ≤
        further * (interval * config.clampedLow + 1 - config.clampedHigh) :=
      mul_le_mul_of_nonneg_left each count
    have elapsed : further * interval * config.clampedLow ≤
        (timeline.lastKeptHw - hwOrigin) * config.clampedLow :=
      mul_le_mul_of_nonneg_right (by linarith) config.clampedLow_pos.le
    refine le_of_mul_le_mul_right ?_ high
    linarith

/-- The timeline after some kept frames: nothing has been kept yet, or the
timeline is within a stretch that began in time. -/
inductive Paced (config : Config) : Nat → Timeline → Prop
  | unstarted : Paced config 0 {}
  | within {motion : Motion} {hwOrigin ptsOrigin : Int}
      {before further : Nat} {timeline : Timeline}
      (scaled : timeline.Scaled config motion hwOrigin ptsOrigin further)
      (began : (before : Int) *
        ((1000000 : Int).tdiv config.clampedHigh - 2) ≤ ptsOrigin) :
      Paced config (before + further) timeline

theorem Paced.pts
    {count : Nat} {timeline : Timeline}
    (paced : Paced config count timeline)
    (slower : config.clampedLow ≤ config.clampedHigh) :
    (count : Int) * ((1000000 : Int).tdiv config.clampedHigh - 2) ≤
      timeline.pts := by
  cases paced with
  | unstarted => simp
  | within scaled began =>
      have within_ := scaled.paced slower
      push_cast
      linarith

/-- A frame leaves the timeline as it is, or is kept in time. -/
theorem Paced.step
    {count : Nat} {timeline : Timeline}
    (paced : Paced config count timeline)
    (slower : config.clampedLow ≤ config.clampedHigh)
    (hwPts : Nat) (motion : Motion) :
    timeline.step config hwPts motion = (timeline, none) ∨
      ∃ (after : Timeline) (kept : KeptFrame),
        timeline.step config hwPts motion = (after, some kept) ∧
          Paced config (count + 1) after ∧ after.pts = kept.pts := by
  by_cases stays : timeline.prevMotionState = some motion
  · cases paced with
    | unstarted => exact nomatch stays
    | within scaled began =>
        obtain rfl :=
          Option.some.inj (scaled.gated.mode.symm.trans stays)
        rcases scaled.step hwPts with
          dropped | ⟨after, kept, keeps, scaledAfter, current, _⟩
        · exact .inl dropped
        · refine .inr ⟨after, kept, keeps, ?_, current⟩
          rw [Nat.add_assoc]
          exact .within scaledAfter began
  · obtain ⟨after, kept, keeps, gated, lastKept, _, current, nominal⟩ :=
      @step_of_switch config timeline hwPts motion stays
    refine .inr ⟨after, kept, keeps, ?_, current⟩
    refine @Paced.within config motion hwPts after.pts (count + 1) 0 after
      (gated.scaled lastKept) ?_
    have before := paced.pts slower
    rw [current, nominal]
    push_cast
    linarith

/-- Every kept frame comes in time. -/
theorem Paced.takes
    {count : Nat} {timeline : Timeline}
    (paced : Paced config count timeline)
    (slower : config.clampedLow ≤ config.clampedHigh)
    (inputs : List (Nat × Motion)) (index : Nat) (kept : KeptFrame)
    (isKept : ((timeline.takes config inputs).filterMap Take.kept)[index]? =
      some kept) :
    ((count + index + 1 : Nat) : Int) *
      ((1000000 : Int).tdiv config.clampedHigh - 2) ≤ kept.pts := by
  induction inputs generalizing count timeline index with
  | nil => exact nomatch isKept
  | cons input inputs inductionHypothesis =>
      obtain ⟨hwPts, motion⟩ := input
      rw [Timeline.takes] at isKept
      rcases paced.step slower hwPts motion with
        dropped | ⟨after, frame, keeps, pacedAfter, current⟩
      · rw [dropped, List.filterMap_cons_none rfl] at isKept
        exact inductionHypothesis paced index isKept
      · have first : Take.kept ⟨hwPts, motion, some frame⟩ = some frame := rfl
        rw [keeps, List.filterMap_cons_some first] at isKept
        cases index with
        | zero =>
            obtain rfl : frame = kept := Option.some.inj isKept
            rw [← current]
            exact pacedAfter.pts slower
        | succ index =>
            have later := inductionHypothesis pacedAfter index isKept
            rw [Nat.add_right_comm count 1 index] at later
            exact later

end Timeline

/-- What the encoder gets is what the loop of `h264_thread` keeps. -/
theorem Pipeline.sent_run_takes
    {config : Config} (pipeline : Pipeline) (events : List PipelineEvent) :
    (Transition.run (Pipeline.step config) pipeline events).sent =
      pipeline.sent ++ (pipeline.timeline.takes config
        (PipelineEvent.inputs events)).filterMap Take.kept := by
  induction events generalizing pipeline with
  | nil => exact (List.append_nil _).symm
  | cons event events inductionHypothesis =>
      rw [Transition.run_cons, inductionHypothesis]
      cases event with
      | pop =>
          have same : (pipeline.step config .pop).timeline =
              pipeline.timeline := by
            rw [step]
            split <;> rfl
          rw [sent_pop, same]
          rfl
      | close => rfl
      | frame hwPts motion packet =>
          rw [PipelineEvent.inputs, Timeline.takes, Pipeline.step]
          cases became : pipeline.timeline.step config hwPts motion with
          | mk after kept =>
              cases kept with
              | none => rfl
              | some frame =>
                  have sameTimeline : (({ pipeline with
                      timeline := after }.sendFrame frame).getStream
                        packet).timeline = after := by
                    unfold getStream
                    split <;> rfl
                  have first : Take.kept ⟨hwPts, motion, some frame⟩ =
                      some frame := rfl
                  simp only
                  rw [sent_getStream, sameTimeline, sendFrame,
                    List.filterMap_cons_some first, List.append_assoc]
                  rfl

/-- The encoder is never presented more than its source frame rate: whatever the
hardware timestamps and motion states, the frame sent to it after `n` others has
a timestamp of at least `n + 1` frame times, each short of at most two
microseconds, as long as the idle rate is not the higher one. -/
theorem sent_paced
    (config : Config)
    (slower : config.clampedLow ≤ config.clampedHigh)
    (queue : FrameQueue)
    (events : List PipelineEvent)
    (n : Nat) (kept : KeptFrame)
    (sent : (Transition.run (Pipeline.step config) (Pipeline.start queue)
      events).sent[n]? = some kept) :
    ((n + 1 : Nat) : Int) *
      ((1000000 : Int).tdiv config.srcFrameRate - 2) ≤ kept.pts := by
  rw [Pipeline.sent_run_takes] at sent
  have paced := Timeline.Paced.unstarted.takes slower _ n kept sent
  rw [Nat.zero_add] at paced
  exact paced

/-- Two frames, the second at a switch. -/
theorem sent_paced_two_frames :
    let queue := (fqCreate 1 true).get rfl
    let events : List PipelineEvent :=
      [.frame 0 .undetected none, .frame 5 .detected none]
    ∃ kept, (Transition.run (Pipeline.step {}) (Pipeline.start queue)
        events).sent[1]? = some kept ∧
      ((1 + 1 : Nat) : Int) *
        ((1000000 : Int).tdiv (Config.srcFrameRate {}) - 2) ≤ kept.pts := by
  intro queue events
  have sent : (Transition.run (Pipeline.step {}) (Pipeline.start queue)
      events).sent[1]? = some ⟨66666, .detected, true⟩ := by decide
  exact ⟨_, sent, sent_paced {} (by decide) queue events 1 _ sent⟩

end MotionSense
