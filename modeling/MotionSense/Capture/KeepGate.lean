import MotionSense.Capture.Timeline

/-!
# The keep gate as a rate limiter

Between two switches of the mode, `h264_thread` keeps frames on a grid of
deadlines that starts at the frame of the switch and is anchored anew when the
sensor falls behind.  The deadline is never more than one interval ahead of the
last kept frame, and for every frame kept it has moved at least one interval.
-/

namespace MotionSense

/-- What becomes of a frame of the sensor. -/
structure Take where
  hwPts : Nat
  motion : Motion
  kept : Option KeptFrame
  deriving DecidableEq

namespace Take

/-- The frame goes to the encoder. -/
def isKept (take : Take) : Bool := take.kept.isSome

/-- The frame as it comes from the sensor, with the motion state of that
moment. -/
def input (take : Take) : Nat × Motion := (take.hwPts, take.motion)

end Take

/-- A stretch of frames in one mode, from the very first frame or from the frame
of a switch on. -/
structure Stretch
    (frames before : List Take) (first : Take) (rest behind : List Take) :
    Prop where
  split : frames = before ++ first :: (rest ++ behind)
  starts : ∀ last ∈ before.getLast?, last.motion ≠ first.motion
  oneMode : ∀ take ∈ rest, take.motion = first.motion

namespace Timeline

variable (config : Config)

/-- The timeline after frames of the sensor. -/
def after (timeline : Timeline) (inputs : List (Nat × Motion)) : Timeline :=
  Transition.run (fun timeline input =>
    (timeline.step config input.1 input.2).1) timeline inputs

/-- The loop of `h264_thread`, frame by frame. -/
def takes : Timeline → List (Nat × Motion) → List Take
  | _, [] => []
  | timeline, (hwPts, motion) :: inputs =>
      ⟨hwPts, motion, (timeline.step config hwPts motion).2⟩ ::
        takes (timeline.step config hwPts motion).1 inputs

theorem takes_append
    (timeline : Timeline) (first second : List (Nat × Motion)) :
    timeline.takes config (first ++ second) =
      timeline.takes config first ++
        (timeline.after config first).takes config second := by
  induction first generalizing timeline with
  | nil => rfl
  | cons input first inductionHypothesis =>
      rw [List.cons_append, takes, inductionHypothesis]
      rfl

/-- The frames of the sensor can be read off what becomes of them. -/
theorem map_input_takes (timeline : Timeline) (inputs : List (Nat × Motion)) :
    (timeline.takes config inputs).map Take.input = inputs := by
  induction inputs generalizing timeline with
  | nil => rfl
  | cons input inputs inductionHypothesis =>
      rw [takes, List.map_cons, inductionHypothesis]
      rfl

variable {config}

/-- A part of the frames is what becomes of a part of the sensor's frames. -/
theorem takes_eq_append
    {timeline : Timeline} {inputs : List (Nat × Motion)}
    {first second : List Take}
    (split : timeline.takes config inputs = first ++ second) :
    timeline.takes config (first.map Take.input) = first ∧
      (timeline.after config (first.map Take.input)).takes config
        (second.map Take.input) = second := by
  have parts := map_input_takes config timeline inputs
  rw [split, List.map_append] at parts
  rw [← parts, takes_append] at split
  have sameLength : (timeline.takes config (first.map Take.input)).length =
      first.length := by
    rw [← List.length_map Take.input, map_input_takes, List.length_map]
  exact List.append_inj split sameLength

/-- The first of the frames. -/
theorem takes_eq_cons
    {timeline : Timeline} {inputs : List (Nat × Motion)}
    {first : Take} {rest : List Take}
    (split : timeline.takes config inputs = first :: rest) :
    first.kept = (timeline.step config first.hwPts first.motion).2 ∧
      ∃ later, rest = ((timeline.step config first.hwPts
        first.motion).1).takes config later := by
  cases inputs with
  | nil => exact nomatch split
  | cons input inputs =>
      obtain ⟨rfl, rfl⟩ := List.cons.inj split
      exact ⟨rfl, inputs, rfl⟩

/-- The body of the loop, spelled out. -/
theorem step_eq
    (timeline : Timeline) (hwPts : Nat) (motion : Motion) :
    timeline.step config hwPts motion =
      match timeline.keepGate config hwPts motion
          (timeline.prevMotionState != some motion) with
      | none => ({ timeline with prevMotionState := some motion }, none)
      | some next =>
          let pts := timeline.pts + timeline.advance config hwPts motion
            (timeline.prevMotionState != some motion)
          ({ pts, lastKeptHw := hwPts, nextKeepHw := next,
             prevMotionState := some motion },
            some
              { pts
                motion
                transition := timeline.prevMotionState != some motion }) :=
  rfl

theorem prevMotionState_step
    (timeline : Timeline) (hwPts : Nat) (motion : Motion) :
    (timeline.step config hwPts motion).1.prevMotionState = some motion := by
  rw [step_eq]
  split <;> rfl

/-- The thread remembers the motion state of the last frame. -/
theorem prevMotionState_after
    (timeline : Timeline) (takes : List Take) :
    (timeline.after config (takes.map Take.input)).prevMotionState =
      (takes.getLast?.map Take.motion).or timeline.prevMotionState := by
  induction takes using List.reverseRecOn with
  | nil => rfl
  | append_singleton earlier last _ =>
      rw [List.map_append, after, Transition.run_append,
        List.getLast?_concat]
      exact prevMotionState_step _ last.hwPts last.motion

/-! ## Within a stretch -/

/-- The gate within a stretch: the hardware timestamp of its first frame, and how
many frames of it have been kept since. -/
structure Gated
    (config : Config) (motion : Motion) (origin : Int) (further : Nat)
    (timeline : Timeline) : Prop where
  mode : timeline.prevMotionState = some motion
  started : 0 ≤ timeline.lastKeptHw
  ahead : timeline.lastKeptHw ≤ timeline.nextKeepHw
  near : timeline.nextKeepHw ≤
    timeline.lastKeptHw + config.keepInterval motion
  grid : origin + (further + 1) * config.keepInterval motion ≤
    timeline.nextKeepHw
  spaced : origin + further * config.keepInterval motion ≤
    timeline.lastKeptHw

/-- The frame of a switch is kept, and moves the timeline on by the nominal
step. -/
theorem step_of_switch
    (timeline : Timeline) (hwPts : Nat) (motion : Motion)
    (switches : timeline.prevMotionState ≠ some motion) :
    ∃ after kept, timeline.step config hwPts motion = (after, some kept) ∧
      after.Gated config motion hwPts 0 ∧ after.lastKeptHw = hwPts ∧
      kept.motion = motion ∧ after.pts = kept.pts ∧
      kept.pts = timeline.pts + (1000000 : Int).tdiv config.clampedHigh := by
  have transition : (timeline.prevMotionState != some motion) = true := by
    simpa using switches
  have interval := config.keepInterval_nonneg motion
  rw [step_eq, transition, keepGate, if_neg (by simp), advance,
    if_pos (.inr rfl)]
  refine ⟨_, _, rfl, ?_, rfl, rfl, rfl, rfl⟩
  constructor <;> simp [interval]

/-- Within a stretch a frame before the deadline is dropped and changes nothing;
any other is kept, and the deadline moves on by an interval at least. -/
theorem Gated.step
    {motion : Motion} {origin : Int} {further : Nat} {timeline : Timeline}
    (gated : timeline.Gated config motion origin further) (hwPts : Nat) :
    ((hwPts : Int) < timeline.nextKeepHw ∧
      timeline.step config hwPts motion = (timeline, none)) ∨
    (timeline.nextKeepHw ≤ hwPts ∧
      ∃ after kept, timeline.step config hwPts motion = (after, some kept) ∧
        after.Gated config motion origin (further + 1) ∧
        after.lastKeptHw = hwPts ∧ kept.motion = motion ∧
        after.pts = kept.pts ∧
        kept.pts = timeline.pts +
          if motion = .detected then hwPts - timeline.lastKeptHw
          else ((hwPts - timeline.lastKeptHw) * config.clampedLow).tdiv
            config.clampedHigh) := by
  obtain ⟨mode, started, ahead, near, grid, spaced⟩ := gated
  have stays : (timeline.prevMotionState != some motion) = false := by
    rw [mode, bne_self_eq_false]
  have interval := config.keepInterval_nonneg motion
  have notNominal : ¬(timeline.lastKeptHw < 0 ∨ false = true) := by
    simpa using started
  rw [step_eq, stays, keepGate, if_pos ⟨started, rfl⟩, advance,
    if_neg notNominal]
  by_cases early : (hwPts : Int) < timeline.nextKeepHw
  · rw [if_pos early]
    refine .inl ⟨early, ?_⟩
    rw [← mode]
  · rw [if_neg early]
    have reached : timeline.nextKeepHw ≤ hwPts := not_lt.mp early
    refine .inr ⟨reached, _, _, rfl, ?_, rfl, rfl, rfl, rfl⟩
    have counted : origin + ((further + 1 : Nat) + 1) *
        config.keepInterval motion =
          origin + (further + 1) * config.keepInterval motion +
            config.keepInterval motion := by
      push_cast
      ring
    have moved : origin + (further + 1 : Nat) * config.keepInterval motion =
        origin + (further + 1) * config.keepInterval motion := by
      push_cast
      ring
    constructor
    · rfl
    · exact Int.natCast_nonneg hwPts
    · dsimp only
      split <;> omega
    · dsimp only
      split <;> omega
    · dsimp only
      rw [counted]
      split <;> omega
    · rw [moved]
      exact grid.trans reached

/-- A relation between the frames kept so far and the timeline that every frame
of one mode keeps holds after frames of this mode. -/
theorem after_of_oneMode
    {motion : Motion} {invariant : List Take → Timeline → Prop}
    (keeps : ∀ kept timeline hwPts, invariant kept timeline →
      timeline.step config hwPts motion = (timeline, none) ∨
        ∃ after frame,
          timeline.step config hwPts motion = (after, some frame) ∧
            invariant (kept ++ [⟨hwPts, motion, some frame⟩]) after)
    {kept : List Take} {timeline : Timeline}
    (starts : invariant kept timeline)
    {takes : List Take}
    (ran : timeline.takes config (takes.map Take.input) = takes)
    (oneMode : ∀ take ∈ takes, take.motion = motion) :
    invariant (kept ++ takes.filter Take.isKept)
      (timeline.after config (takes.map Take.input)) := by
  induction takes generalizing timeline kept with
  | nil =>
      rw [List.filter_nil, List.append_nil]
      exact starts
  | cons take takes inductionHypothesis =>
      obtain ⟨thisMode, otherModes⟩ := List.forall_mem_cons.mp oneMode
      subst thisMode
      obtain ⟨same, later⟩ := List.cons.inj ran
      have became : (timeline.step config take.hwPts take.motion).2 =
          take.kept := congrArg Take.kept same
      have first : timeline.after config ((take :: takes).map Take.input) =
          (timeline.step config take.hwPts take.motion).1.after config
            (takes.map Take.input) := rfl
      rw [first]
      rcases keeps kept timeline take.hwPts starts with
        dropped | ⟨next, frame, keeps, nextKept⟩
      · rw [dropped] at became later ⊢
        have notKept : ¬take.isKept = true := by
          rw [Take.isKept, ← became]
          exact Bool.false_ne_true
        rw [List.filter_cons_of_neg notKept]
        exact inductionHypothesis starts later otherModes
      · rw [keeps] at became later ⊢
        have isKept : take.isKept = true := by
          rw [Take.isKept, ← became]
          rfl
        have same : some frame = take.kept := became
        rw [same] at nextKept
        rw [List.filter_cons_of_pos isKept, List.append_cons]
        exact inductionHypothesis nextKept later otherModes

/-- The gate after frames of a stretch, and its last kept frame. -/
theorem Gated.run
    {motion : Motion} {origin : Int} {timeline : Timeline}
    (gated : timeline.Gated config motion origin 0)
    {takes : List Take}
    (ran : timeline.takes config (takes.map Take.input) = takes)
    (oneMode : ∀ take ∈ takes, take.motion = motion) :
    let after := timeline.after config (takes.map Take.input)
    after.Gated config motion origin (takes.filter Take.isKept).length ∧
      after.lastKeptHw = ((takes.filter Take.isKept).getLast?.map fun take =>
        (take.hwPts : Int)).getD timeline.lastKeptHw := by
  refine @after_of_oneMode config motion (fun kept after =>
    after.Gated config motion origin kept.length ∧
      after.lastKeptHw = (kept.getLast?.map fun take =>
        (take.hwPts : Int)).getD timeline.lastKeptHw)
    ?_ [] timeline ⟨gated, rfl⟩ takes ran oneMode
  intro kept before hwPts both
  rcases both.1.step hwPts with
    ⟨_, dropped⟩ | ⟨_, after, frame, keeps, gatedAfter, lastKept, _⟩
  · exact .inl dropped
  · refine .inr ⟨after, frame, keeps, ?_, ?_⟩
    · rw [List.length_append]
      exact gatedAfter
    · rw [List.getLast?_concat]
      exact lastKept

end Timeline

/-- A stretch begins with a frame that is kept, and the gate is on its grid from
then on. -/
theorem Stretch.begins
    {config : Config} {inputs : List (Nat × Motion)}
    {before : List Take} {first : Take} {rest behind : List Take}
    (stretch : Stretch (Timeline.takes config {} inputs) before first rest
      behind) :
    ∃ (opened : Timeline) (kept : KeptFrame), first.kept = some kept ∧
      opened.Gated config first.motion first.hwPts 0 ∧
      opened.lastKeptHw = first.hwPts ∧ opened.pts = kept.pts ∧
      kept.pts =
        (Timeline.after config {} (before.map Take.input)).pts +
          (1000000 : Int).tdiv config.clampedHigh ∧
      opened.takes config (rest.map Take.input) = rest := by
  obtain ⟨split, starts, oneMode⟩ := stretch
  obtain ⟨_, ranFirst⟩ := Timeline.takes_eq_append split
  set timeline := Timeline.after config {} (before.map Take.input)
  have switches : timeline.prevMotionState ≠ some first.motion := by
    rw [Timeline.prevMotionState_after]
    cases isLast : before.getLast? with
    | none => exact nofun
    | some last =>
        exact fun same => starts last isLast (Option.some.inj same)
  obtain ⟨opened, kept, keeps, gated, lastKept, _, current, nominal⟩ :=
    @Timeline.step_of_switch config timeline first.hwPts first.motion switches
  obtain ⟨firstKept, later, ranRest⟩ := Timeline.takes_eq_cons ranFirst
  rw [keeps] at firstKept ranRest
  exact ⟨opened, kept, firstKept, gated, lastKept, current, nominal,
    (Timeline.takes_eq_append ranRest.symm).1⟩

/-- The gate is an exact rate limiter, for every sequence of hardware timestamps
and motion states: the first frame of a stretch is kept, the frames kept behind
it are at least as far from it as the target rate asks for, and a frame at least
an interval behind the last kept one is kept. -/
theorem keepGate_exact
    (config : Config)
    (inputs : List (Nat × Motion))
    {before : List Take} {first : Take} {rest behind : List Take}
    (stretch : Stretch (Timeline.takes config {} inputs) before first rest
      behind) :
    let interval := config.keepInterval first.motion
    first.isKept = true ∧
      ∀ earlier take later, rest = earlier ++ take :: later →
        (take.isKept = true →
          first.hwPts + ((earlier.filter Take.isKept).length + 1 : Nat) *
            interval ≤ take.hwPts) ∧
        ∀ last ∈ ((first :: earlier).filter Take.isKept).getLast?,
          last.hwPts + interval ≤ take.hwPts → take.isKept = true := by
  intro interval
  obtain ⟨opened, kept, firstKept, gated, lastKept, _, _, ran⟩ := stretch.begins
  have firstIsKept : first.isKept = true := by
    rw [Take.isKept, firstKept]
    rfl
  refine ⟨firstIsKept, fun earlier take later split => ?_⟩
  rw [split] at ran
  obtain ⟨ranEarlier, ranTake⟩ := Timeline.takes_eq_append ran
  have oneMode : ∀ take ∈ earlier, take.motion = first.motion :=
    fun take present => stretch.oneMode take
      (split ▸ List.mem_append_left _ present)
  have sameMode : take.motion = first.motion :=
    stretch.oneMode take
      (split ▸ List.mem_append_right _ List.mem_cons_self)
  obtain ⟨gatedBefore, lastBefore⟩ := gated.run ranEarlier oneMode
  set timeline := opened.after config (earlier.map Take.input)
  obtain ⟨takeKept, _⟩ := Timeline.takes_eq_cons ranTake
  rw [sameMode] at takeKept
  have grid := gatedBefore.grid
  have near := gatedBefore.near
  rcases gatedBefore.step take.hwPts with
    ⟨early, dropped⟩ | ⟨reached, next, frame, keeps, _⟩
  · have notKept : take.isKept = false := by
      rw [Take.isKept, takeKept, dropped]
      rfl
    refine ⟨fun isKept => absurd (notKept.symm.trans isKept) nofun, ?_⟩
    intro last isLast due
    have lastHw : timeline.lastKeptHw = last.hwPts := by
      rw [List.filter_cons_of_pos firstIsKept, List.getLast?_cons] at isLast
      obtain rfl := Option.some.inj isLast
      rw [lastBefore, lastKept]
      cases (earlier.filter Take.isKept).getLast? <;> rfl
    omega
  · have isKept : take.isKept = true := by
      rw [Take.isKept, takeKept, keeps]
      rfl
    refine ⟨fun _ => ?_, fun _ _ _ => isKept⟩
    push_cast
    exact grid.trans reached

/-- A frame of the switch to idle, one too early and one in time. -/
theorem keepGate_exact_three_frames :
    let takes := Timeline.takes {} {}
      [(0, .undetected), (900000, .undetected), (1100000, .undetected)]
    takes.map Take.isKept = [true, false, true] ∧
      (0 : Int) + 1 * Config.keepInterval {} .undetected ≤ 1100000 := by
  intro takes
  have stretch : Stretch takes [] (takes.get ⟨0, by decide⟩)
      [takes.get ⟨1, by decide⟩, takes.get ⟨2, by decide⟩] [] :=
    ⟨by decide, nofun, by decide⟩
  have exactly := (keepGate_exact {} _ stretch).2
    [takes.get ⟨1, by decide⟩] (takes.get ⟨2, by decide⟩) [] rfl
  exact ⟨by decide, exactly.1 (by decide)⟩

end MotionSense
