import MotionSense.Foundations.Transition
import MotionSense.Storage.State

/-!
# The timeline of the capture thread

`h264_thread` takes frames from the sensor, keeps some of them and gives each
kept frame a new timestamp.  The gate keeps a deadline ahead of the last kept
frame, which is what makes the new timestamps grow even when the hardware's
timestamps repeat or go back.
-/

namespace MotionSense

/-- `MOTION_UNDETECTED` and `MOTION_DETECTED`. -/
inductive Motion
  | undetected
  | detected
  deriving DecidableEq

namespace Config

/-- `fps_high` as `h264_thread` clamps it. -/
def clampedHigh (config : Config) : Int :=
  if config.fpsHigh < 1 then 1 else config.fpsHigh

/-- `fps_low` as `h264_thread` clamps it. -/
def clampedLow (config : Config) : Int :=
  if config.fpsLow < 1 then 1 else config.fpsLow

/-- `target_fps`. -/
def targetFps (config : Config) (motion : Motion) : Int :=
  if motion = .detected then config.clampedHigh else config.clampedLow

/-- `keep_interval`. -/
def keepInterval (config : Config) (motion : Motion) : Int :=
  (1000000 : Int).tdiv (config.targetFps motion)

theorem clampedHigh_pos (config : Config) : 0 < config.clampedHigh := by
  unfold clampedHigh
  split <;> omega

theorem clampedLow_pos (config : Config) : 0 < config.clampedLow := by
  unfold clampedLow
  split <;> omega

theorem targetFps_pos (config : Config) (motion : Motion) :
    0 < config.targetFps motion := by
  unfold targetFps
  split
  · exact config.clampedHigh_pos
  · exact config.clampedLow_pos

theorem keepInterval_nonneg (config : Config) (motion : Motion) :
    0 ≤ config.keepInterval motion :=
  Int.tdiv_nonneg (by decide) (config.targetFps_pos motion).le

end Config

/-- The variables that `h264_thread` carries from frame to frame.  The previous
motion state is `none` for its initial `-1`. -/
structure Timeline where
  pts : Int := 0
  lastKeptHw : Int := -1
  nextKeepHw : Int := 0
  prevMotionState : Option Motion := none
  deriving DecidableEq

/-- A kept frame as it goes to the encoder. -/
structure KeptFrame where
  pts : Int
  motion : Motion
  transition : Bool
  deriving DecidableEq

namespace Timeline

variable (config : Config)

/-- The keep gate: the next deadline, or nothing for a frame that is
dropped. -/
def keepGate
    (timeline : Timeline) (hwPts : Int) (motion : Motion)
    (transition : Bool) : Option Int :=
  if 0 ≤ timeline.lastKeptHw ∧ !transition then
    if hwPts < timeline.nextKeepHw then none
    else
      let next := timeline.nextKeepHw + config.keepInterval motion
      some (if next ≤ hwPts then hwPts + config.keepInterval motion else next)
  else some (hwPts + config.keepInterval motion)

/-- How far a kept frame advances the timeline. -/
def advance
    (timeline : Timeline) (hwPts : Int) (motion : Motion)
    (transition : Bool) : Int :=
  if timeline.lastKeptHw < 0 ∨ transition then
    (1000000 : Int).tdiv config.clampedHigh
  else if motion = .detected then hwPts - timeline.lastKeptHw
  else
    ((hwPts - timeline.lastKeptHw) * config.clampedLow).tdiv
      config.clampedHigh

/-- The body of the loop of `h264_thread`, up to the encoder: the next state,
and the frame if it is kept. -/
def step
    (timeline : Timeline) (hwPts : Nat) (motion : Motion) :
    Timeline × Option KeptFrame :=
  let transition := timeline.prevMotionState != some motion
  let timeline := { timeline with prevMotionState := some motion }
  match timeline.keepGate config hwPts motion transition with
  | none => (timeline, none)
  | some next =>
      let pts := timeline.pts + timeline.advance config hwPts motion transition
      ({ timeline with pts, lastKeptHw := hwPts, nextKeepHw := next },
        some { pts, motion, transition })

/-- The deadline lies at or ahead of the last kept frame; ahead of it in motion,
for a rate whose interval is not rounded to nothing. -/
structure Ahead (timeline : Timeline) : Prop where
  deadline : 0 ≤ timeline.lastKeptHw →
    timeline.lastKeptHw ≤ timeline.nextKeepHw
  inMotion : 0 ≤ timeline.lastKeptHw →
    timeline.prevMotionState = some .detected →
      config.fpsHigh ≤ 1000000 → timeline.lastKeptHw < timeline.nextKeepHw

theorem ahead_initial : ({} : Timeline).Ahead config := by
  constructor <;> simp

/-- The interval of a target rate of at most a million frames is not empty. -/
theorem nominalStep_pos (bounded : config.fpsHigh ≤ 1000000) :
    0 < (1000000 : Int).tdiv config.clampedHigh := by
  have positive := config.clampedHigh_pos
  have clamped : config.clampedHigh ≤ 1000000 := by
    unfold Config.clampedHigh
    split <;> omega
  rw [Int.tdiv_eq_ediv_of_nonneg (by decide)]
  exact Int.le_ediv_of_mul_le positive (by omega)

variable {config}

/-- A frame that the gate lets through without a switch is not older than the
last kept one, and is newer in motion. -/
theorem Ahead.hwPts
    {timeline : Timeline}
    (ahead : timeline.Ahead config)
    {hwPts : Int} {motion : Motion} {next : Int}
    (started : 0 ≤ timeline.lastKeptHw)
    (kept : timeline.keepGate config hwPts motion false = some next) :
    timeline.nextKeepHw ≤ hwPts ∧ timeline.lastKeptHw ≤ hwPts := by
  have deadline := ahead.deadline started
  rw [keepGate, if_pos ⟨started, by decide⟩] at kept
  split at kept
  · contradiction
  · omega

/-- The gate puts the next deadline at or behind the frame it keeps, and behind
it where the interval is not empty. -/
theorem keepGate_ahead
    {timeline : Timeline}
    {hwPts : Int} {motion : Motion} {transition : Bool} {next : Int}
    (kept : timeline.keepGate config hwPts motion transition = some next) :
    hwPts ≤ next ∧ (0 < config.keepInterval motion → hwPts < next) := by
  have interval := config.keepInterval_nonneg motion
  unfold keepGate at kept
  split at kept
  · split at kept
    · contradiction
    · obtain rfl := Option.some.inj kept
      split <;> omega
  · obtain rfl := Option.some.inj kept
    omega

/-- A kept frame never moves the timeline back, and moves it on at a switch and
in motion. -/
theorem Ahead.advance
    {timeline : Timeline}
    (ahead : timeline.Ahead config)
    {hwPts : Int} {motion : Motion} {next : Int}
    (kept : timeline.keepGate config hwPts motion
      (timeline.prevMotionState != some motion) = some next) :
    0 ≤ timeline.advance config hwPts motion
        (timeline.prevMotionState != some motion) ∧
      ((timeline.prevMotionState != some motion) = true ∨
          motion = .detected →
        config.fpsHigh ≤ 1000000 →
          0 < timeline.advance config hwPts motion
            (timeline.prevMotionState != some motion)) := by
  have high := config.clampedHigh_pos
  by_cases nominal : timeline.lastKeptHw < 0 ∨
      (timeline.prevMotionState != some motion) = true
  · rw [Timeline.advance, if_pos nominal]
    exact ⟨Int.tdiv_nonneg (by decide) high.le,
      fun _ bounded => nominalStep_pos config bounded⟩
  · rw [Timeline.advance, if_neg nominal]
    push Not at nominal
    obtain ⟨started, stays⟩ := nominal
    have sameMode : timeline.prevMotionState = some motion := by
      simpa using stays
    have noSwitch : (timeline.prevMotionState != some motion) = false := by
      simpa using stays
    rw [noSwitch] at kept
    obtain ⟨reached, later⟩ := ahead.hwPts started kept
    by_cases moving : motion = .detected
    · rw [if_pos moving]
      refine ⟨by omega, fun _ bounded => ?_⟩
      have strictly := ahead.inMotion started (moving ▸ sameMode) bounded
      omega
    · rw [if_neg moving, noSwitch]
      refine ⟨?_, by simp [moving]⟩
      have low := config.clampedLow_pos
      exact Int.tdiv_nonneg (mul_nonneg (by omega) low.le) high.le

/-- What a frame does to the timeline. -/
theorem step_ahead
    {timeline : Timeline}
    (ahead : timeline.Ahead config)
    (hwPts : Nat) (motion : Motion) :
    let after := timeline.step config hwPts motion
    after.1.Ahead config ∧
      match after.2 with
      | none => after.1.pts = timeline.pts
      | some kept => after.1.pts = kept.pts ∧ timeline.pts ≤ kept.pts ∧
          (kept.transition = true ∨ kept.motion = .detected →
            config.fpsHigh ≤ 1000000 → timeline.pts < kept.pts) := by
  intro after
  cases gate : timeline.keepGate config hwPts motion
      (timeline.prevMotionState != some motion) with
  | none =>
      have dropped : after =
          ({ timeline with prevMotionState := some motion }, none) := by
        change timeline.step config hwPts motion = _
        unfold step
        have sameGate : { timeline with
            prevMotionState := some motion }.keepGate config hwPts motion
              (timeline.prevMotionState != some motion) = none := gate
        simp only [sameGate]
      rw [dropped]
      refine ⟨⟨ahead.deadline, ?_⟩, rfl⟩
      intro started moving bounded
      -- A frame is dropped only when it does not switch the mode.
      have sameMode : timeline.prevMotionState = some motion := by
        by_contra switches
        have noDrop : (timeline.prevMotionState != some motion) = true := by
          simpa using switches
        rw [noDrop, keepGate, if_neg (by simp)] at gate
        contradiction
      exact ahead.inMotion started (sameMode.trans moving) bounded
  | some next =>
      have keeps : after =
          ({ timeline with
              prevMotionState := some motion
              pts := timeline.pts + timeline.advance config hwPts motion
                (timeline.prevMotionState != some motion)
              lastKeptHw := hwPts
              nextKeepHw := next },
            some
              { pts := timeline.pts + timeline.advance config hwPts motion
                  (timeline.prevMotionState != some motion)
                motion
                transition := timeline.prevMotionState != some motion }) := by
        change timeline.step config hwPts motion = _
        unfold step
        have sameGate : { timeline with
            prevMotionState := some motion }.keepGate config hwPts motion
              (timeline.prevMotionState != some motion) = some next := gate
        simp only [sameGate]
        rfl
      obtain ⟨behind, strictly⟩ := keepGate_ahead gate
      obtain ⟨grows, growsStrictly⟩ := ahead.advance gate
      rw [keeps]
      refine ⟨⟨fun _ => behind, ?_⟩, rfl, ?_, ?_⟩
      · intro _ moving bounded
        obtain rfl := Option.some.inj moving
        refine strictly ?_
        rw [Config.keepInterval, Config.targetFps, if_pos rfl]
        exact nominalStep_pos config bounded
      · dsimp only
        omega
      · intro marked bounded
        have := growsStrictly marked bounded
        dsimp only
        omega

end Timeline
end MotionSense
