import MotionSense.Capture.Settings
import MotionSense.Capture.Timeline
import MotionSense.Storage.Steps

/-!
# Divisors

The rates come unchecked from the configuration file.  The capture thread clamps
them before it divides; the writer divides one by the other as they are, and
then takes a remainder by the quotient, once it is in its motion branch.
-/

namespace MotionSense

/-! ## The capture thread -/

namespace Timeline

variable (config : Config)

/-- The divisors of an iteration of `h264_thread`: of `keep_interval` and, for
a frame that is kept, of the step of the timeline. -/
def divisors (timeline : Timeline) (hwPts : Nat) (motion : Motion) :
    List Int :=
  let transition := timeline.prevMotionState != some motion
  config.targetFps motion ::
    match timeline.keepGate config hwPts motion transition with
    | none => []
    | some _ =>
        if timeline.lastKeptHw < 0 ∨ transition then [config.clampedHigh]
        else if motion = .detected then []
        else [config.clampedHigh]

/-- The divisors of all iterations. -/
def allDivisors : Timeline → List (Nat × Motion) → List Int
  | _, [] => []
  | timeline, (hwPts, motion) :: inputs =>
      timeline.divisors config hwPts motion ++
        allDivisors (timeline.step config hwPts motion).1 inputs

theorem divisors_pos
    (timeline : Timeline) (hwPts : Nat) (motion : Motion) :
    ∀ divisor ∈ timeline.divisors config hwPts motion, 0 < divisor := by
  have high := config.clampedHigh_pos
  refine List.forall_mem_cons.mpr ⟨config.targetFps_pos motion, ?_⟩
  split
  · simp
  · split
    · simpa using high
    · split
      · simp
      · simpa using high

/-- Whatever is configured, the capture thread divides by positive numbers. -/
theorem allDivisors_pos
    (timeline : Timeline) (inputs : List (Nat × Motion)) :
    ∀ divisor ∈ timeline.allDivisors config inputs, 0 < divisor := by
  induction inputs generalizing timeline with
  | nil => simp [allDivisors]
  | cons input inputs inductionHypothesis =>
      intro divisor present
      rcases List.mem_append.mp present with now | later
      · exact divisors_pos config timeline input.1 input.2 divisor now
      · exact inductionHypothesis _ divisor later

end Timeline

/-! ## The writer -/

/-- No divisor so far was zero. -/
def DividesByNonzero (trace : List Moment) : Prop :=
  ∀ moment ∈ trace, moment.event ≠ .divides 0

instance (trace : List Moment) : Decidable (DividesByNonzero trace) :=
  inferInstanceAs (Decidable (∀ moment ∈ trace, moment.event ≠ .divides 0))

/-- No frame so far came through the motion branch of `ingest_frame`. -/
def NeverInMotion (trace : List Moment) : Prop :=
  ∀ moment ∈ trace, moment.event ≠ .motion

instance (trace : List Moment) : Decidable (NeverInMotion trace) :=
  inferInstanceAs (Decidable (∀ moment ∈ trace, moment.event ≠ .motion))

/-- The low rate is not zero and no larger than the high one. -/
def Config.HasRatio (config : Config) : Prop :=
  config.fpsLow ≠ 0 ∧ config.fpsLow.natAbs ≤ config.fpsHigh.natAbs

instance (config : Config) : Decidable config.HasRatio :=
  inferInstanceAs (Decidable (config.fpsLow ≠ 0 ∧
    config.fpsLow.natAbs ≤ config.fpsHigh.natAbs))

/-- The rates have a ratio exactly when neither the division nor the remainder
by its result has a zero divisor. -/
theorem Config.hasRatio_iff (config : Config) :
    config.HasRatio ↔
      config.fpsLow ≠ 0 ∧ config.fpsHigh.tdiv config.fpsLow ≠ 0 := by
  refine and_congr_right fun nonzero => ?_
  rw [← Int.natAbs_ne_zero, Int.natAbs_tdiv]
  change _ ↔ config.fpsHigh.natAbs / config.fpsLow.natAbs ≠ 0
  rw [Nat.div_ne_zero_iff]
  simp [nonzero]

namespace State

/-- A zero divisor goes with a motion branch taken without a ratio. -/
def DividesWell (config : Config) (state : State) : Prop :=
  DividesByNonzero state.trace ↔
    config.HasRatio ∨ NeverInMotion state.trace

/-- A step that adds neither a zero divisor nor motion keeps the law. -/
theorem DividesWell.of_adds
    {config : Config} {kind : Event → Bool} {before after : State}
    (adds : Adds kind before after)
    (zero : kind (.divides 0) = false) (motion : kind .motion = false)
    (well : before.DividesWell config) : after.DividesWell config := by
  rcases adds with same | ⟨event, listed, grown⟩
  · rw [DividesWell, same]
    exact well
  · have nonzero : event ≠ .divides 0 := by
      rintro rfl
      rw [zero] at listed
      contradiction
    have still : event ≠ .motion := by
      rintro rfl
      rw [motion] at listed
      contradiction
    rw [DividesWell, grown]
    simpa [DividesWell, DividesByNonzero, NeverInMotion, nonzero, still]
      using well

end State

namespace Storage

open Program State

variable (config : Config) {state : State}

/-- A program that records neither a zero divisor nor motion keeps the law. -/
theorem keeps_dividesWell
    {step : State → State → Prop}
    {program : Storage α}
    (within : program.Within step)
    {kind : Event → Bool}
    (adds : ∀ before after, step before after → Adds kind before after)
    (zero : kind (.divides 0) = false) (motion : kind .motion = false)
    (well : state.DividesWell config) :
    program.wp (fun _ => DividesWell config) (DividesWell config) state :=
  within.keeps (fun _ _ last =>
    DividesWell.of_adds (adds _ _ last) zero motion) state well

theorem wp_divide_zero
    (post : Unit → State → Prop) (stopped : State → Prop) (state : State) :
    (divide 0).wp post stopped state = stopped (state.log (.divides 0)) := rfl

/-- Without a ratio the law asks for a zero divisor behind the motion
branch. -/
theorem dividesWell_zero
    (noRatio : ¬ config.HasRatio) (inMotion : ¬ NeverInMotion state.trace) :
    (state.log (.divides 0)).DividesWell config := by
  refine iff_of_false ?_ ?_
  · simp [DividesByNonzero]
  · rintro (ratio | still)
    · exact noRatio ratio
    · refine inMotion fun moment earlier => still moment ?_
      exact List.mem_cons_of_mem _ earlier

/-- Behind the motion branch the two divisors are those of the ratio. -/
theorem recordProgress_divides (well : state.DividesWell config) :
    (recordProgress config).wp (fun _ => DividesWell config)
      (DividesWell config) state := by
  have update : ∀ {reached : State}, reached.DividesWell config →
      eventDbUpdateTotalFrames.wp (fun _ => DividesWell config)
        (DividesWell config) reached := fun well =>
    keeps_dividesWell config eventDbUpdateTotalFrames_within adds_totalStep
      rfl rfl well
  rw [recordProgress, wp_bind, wp_answer]
  refine ⟨well, fun fps => ?_⟩
  rw [wp_bind, wp_setWs, wp_bind, wp_log]
  have noted : State.DividesWell config ((state.updateWs fun ws =>
      { ws with lastFps := fps.currentFps }).log
        (.judged (fps.currentFps = config.fpsHigh))) := by
    simpa [State.DividesWell, DividesByNonzero, NeverInMotion] using well
  refine wp_split (fun _ => ?_) fun _ => update noted
  refine wp_then (keeps_dividesWell config (recordMotion_within config)
    adds_markStep rfl rfl noted) fun _ reached well => ?_
  rw [wp_bind, wp_log]
  have inMotion : ∀ later : List Moment,
      ¬ NeverInMotion (later ++ (reached.log .motion).trace) :=
    fun later still => still ⟨.motion, reached.ws, reached.disk⟩
      (List.mem_append_right later List.mem_cons_self) rfl
  by_cases low : config.fpsLow = 0
  · have noRatio : ¬ config.HasRatio := fun ratio => ratio.1 low
    rw [wp_bind, low, wp_divide_zero]
    exact dividesWell_zero config noRatio (inMotion [])
  rw [wp_bind, wp_divide_of_ne low, wp_bind]
  by_cases ratio : config.fpsHigh.tdiv config.fpsLow = 0
  · have noRatio : ¬ config.HasRatio := fun both =>
      (config.hasRatio_iff.mp both).2 ratio
    rw [ratio, wp_divide_zero]
    exact dividesWell_zero config noRatio (inMotion [_])
  rw [wp_divide_of_ne ratio, wp_bind, wp_current]
  have hasRatio : config.HasRatio := config.hasRatio_iff.mpr ⟨low, ratio⟩
  have divided : (((reached.log .motion).log
      (.divides config.fpsLow)).log
        (.divides (config.fpsHigh.tdiv config.fpsLow))).DividesWell config := by
    refine iff_of_true ?_ (.inl hasRatio)
    have earlier : DividesByNonzero reached.trace := well.mpr (.inl hasRatio)
    simpa [DividesByNonzero, low, ratio] using earlier
  exact wp_split (fun _ => update divided) fun _ => divided

theorem ingestFrame_divides
    (frame : FqFrame) (state : State) (well : state.DividesWell config) :
    (ingestFrame config frame).wp (fun _ => DividesWell config)
      (DividesWell config) state := by
  rw [ingestFrame]
  refine wp_then (keeps_dividesWell config (rolloverIfNewDay_within config)
    adds_dayStep rfl rfl well) fun _ reached well => ?_
  refine wp_then (keeps_dividesWell config (passesGate_within frame)
    adds_frameStep rfl rfl well) fun passes reached well => ?_
  refine wp_split (fun _ => ?_) fun _ => well
  refine wp_then (keeps_dividesWell config (feedMuxer_within config frame)
    adds_frameStep rfl rfl well) fun _ reached well => ?_
  refine wp_then (recordProgress_divides config well) fun _ reached well => ?_
  exact keeps_dividesWell config (checkAndCleanup_within config)
    adds_retentionStep rfl rfl well

theorem writerBoot_divides (state : State) (well : state.DividesWell config) :
    (writerBoot config).wp
      (fun _ => DividesWell config)
      (DividesWell config) state.restart := by
  have restarted : state.restart.DividesWell config := by
    simpa [State.restart, DividesWell, DividesByNonzero, NeverInMotion]
      using well
  exact wp_mono (keeps_dividesWell config (writerBoot_within config)
    adds_dayStep rfl rfl restarted)
    (fun _ _ => id) fun _ => id

end Storage

/-- For every configuration file: the capture thread divides by zero on no
input, and the writer has divided by zero exactly when a frame came through its
motion branch although the rates have no ratio. -/
theorem pipeline_divides_by_nonzero_iff
    (root : Option YamlNode)
    (inputs : List (Nat × Motion))
    {phase : Daemon.Phase} {state : State}
    (reached : (writer (msConfigLoad root)).Reach State.Unused phase state) :
    (∀ divisor ∈ Timeline.allDivisors (msConfigLoad root) {} inputs,
        divisor ≠ 0) ∧ DividesByNonzero state.trace ↔
      (msConfigLoad root).HasRatio ∨ NeverInMotion state.trace := by
  have starts : ∀ first : State, first.Unused →
      first.DividesWell (msConfigLoad root) := by
    intro first unused
    have blank : first.trace = [] := unused
    simp [State.DividesWell, DividesByNonzero, NeverInMotion, blank]
  have well := Daemon.Reach.everywhere (fun _ well => well) starts
    (fun first well => Program.wp_mono
      (Storage.writerBoot_divides (msConfigLoad root) first well)
      (fun succeeded _ well => by cases succeeded <;> exact well) fun _ => id)
    (Storage.ingestFrame_divides (msConfigLoad root))
    (fun first well => Storage.keeps_dividesWell (msConfigLoad root)
      (Storage.closeDay_within (msConfigLoad root))
      State.adds_dayStep rfl rfl well) reached
  have law : DividesByNonzero state.trace ↔
      (msConfigLoad root).HasRatio ∨ NeverInMotion state.trace := well
  rw [← law]
  refine and_iff_right fun divisor present => ?_
  have positive := Timeline.allDivisors_pos (msConfigLoad root) {} inputs
    divisor present
  omega

/-- With `fps_low: 0` the first frame in motion makes the writer divide by
zero. -/
theorem writer_divides_by_zero :
    let ivs : YamlNode :=
      .mapping [(.scalar "fps_low".toList, .scalar "0".toList)]
    let root : YamlNode := .mapping [(.scalar "ivs".toList, ivs)]
    let config := msConfigLoad (some root)
    let keyframe : FqFrame := ⟨some ⟨0, [1]⟩, 1, true, 0⟩
    let inMotion : Choice := { currentFps := 30 }
    let state := (((writer config).life [keyframe]).run (State.restart {})
      (List.replicate 40 inMotion)).state
    (writer config).Reach State.Unused .off state ∧
      ¬ DividesByNonzero state.trace := by
  intro ivs root config keyframe inMotion state
  exact ⟨@Daemon.Reach.life _ _ _ (writer config) State.Unused {}
    (.initial rfl) _ _, by decide +kernel⟩

/-- Frames in motion under the default rates. -/
theorem pipeline_divides_by_nonzero_iff_defaults :
    let keyframe : FqFrame := ⟨some ⟨0, [1]⟩, 1, true, 0⟩
    let inMotion : Choice := { currentFps := 30 }
    let state := (((writer (msConfigLoad none)).life [keyframe]).run
      (State.restart {}) (List.replicate 40 inMotion)).state
    (∀ divisor ∈ Timeline.allDivisors (msConfigLoad none) {}
        [(0, .detected), (33333, .detected)], divisor ≠ 0) ∧
      DividesByNonzero state.trace ∧ ¬ NeverInMotion state.trace := by
  intro keyframe inMotion state
  have divides := (pipeline_divides_by_nonzero_iff none
    [(0, .detected), (33333, .detected)]
    (@Daemon.Reach.life _ _ _ (writer (msConfigLoad none)) State.Unused {}
      (.initial rfl) [keyframe] (List.replicate 40 inMotion))).mpr
    (.inl (by decide +kernel))
  exact ⟨divides.1, divides.2, by decide +kernel⟩

end MotionSense
