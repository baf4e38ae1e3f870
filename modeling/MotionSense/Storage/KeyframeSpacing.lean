import MotionSense.Storage.Discontinuity
import MotionSense.Storage.SegmentRules

/-!
# How far apart keyframes may be

A segment ends on the first keyframe that lies `hls_duration_s` behind its start.
Where such a keyframe always comes within half of `HLS_DURATION` no segment is
flagged, whatever days end in between: the first keyframe behind a rollover comes
no later than the one that would have ended the last segment.
-/

namespace MotionSense

/-- `pts_us / 1000`. -/
def FqFrame.ptsMs (frame : FqFrame) : Int := frame.ptsUs.tdiv 1000

variable (config : Config)

/-- The frame that `ingest_frame` holds back or feeds at a moment. -/
def Moment.taken (moment : Moment) : Option FqFrame :=
  match moment.event with
  | .discarded frame | .fed frame => some frame
  | _ => none

/-- Where `hls_media_input` may end a segment: at a keyframe, at a frame that
comes when the segment has reached `N_TS_FILESIZE`, and, under a negative
duration, at every frame. -/
def Moment.cutPoint (moment : Moment) : Option Int :=
  match moment.event with
  | .fed frame =>
      if frame.isKey || moment.ws.hls.any (fun hls => hls.maxsize ≤ hls.bytes) ||
          config.hlsDurationS < 0 then some frame.ptsMs
      else none
  | _ => none

/-- The frames popped by the running process, newest first. -/
def takenFrames : List Moment → List FqFrame
  | [] => []
  | moment :: older =>
      match moment.event with
      | .started => []
      | _ => moment.taken.toList ++ takenFrames older

/-- The points where its segments may end, newest first. -/
def cutPoints : List Moment → List Int
  | [] => []
  | moment :: older =>
      match moment.event with
      | .started => []
      | _ => (moment.cutPoint config).toList ++ cutPoints older

/-- Between a point and the next one that lies more than half of `HLS_DURATION`
behind it there is one that lies `hls_duration_s` behind it. -/
def InTime (next : Int) (points : List Int) : Prop :=
  ∀ place : Fin points.length,
    points[place] + config.hlsDuration.tdiv 2 < next →
      ∃ point ∈ points.take place,
        points[place] + config.hlsDurationS * 1000 ≤ point

/-- What is asked of a moment: no write of a file fails; a frame that is popped
carries data and lies at most 100 ms behind the one before it; and a point where
a segment may end comes in time. -/
def Moment.Regular (moment : Moment) (older : List Moment) : Prop :=
  moment.event.writeFailed = false ∧
    (∀ frame ∈ moment.taken, frame.payload.isSome = true ∧
      ∀ last ∈ (takenFrames older).head?,
        last.ptsUs ≤ frame.ptsUs ∧ frame.ptsUs ≤ last.ptsUs + 100000) ∧
    ∀ next ∈ moment.cutPoint config, InTime config next (cutPoints config older)

/-- The same of every moment. -/
def Regular : List Moment → Prop
  | [] => True
  | moment :: older => moment.Regular config older ∧ Regular older

instance (next : Int) (points : List Int) :
    Decidable (InTime config next points) :=
  inferInstanceAs (Decidable (∀ _ : Fin points.length, _ → _))

instance (moment : Moment) (older : List Moment) :
    Decidable (moment.Regular config older) :=
  inferInstanceAs (Decidable (_ ∧ (∀ frame ∈ moment.taken, _ ∧
    ∀ last ∈ (takenFrames older).head?, _ ∧ _) ∧
    ∀ next ∈ moment.cutPoint config, InTime config next _))

instance decidableRegular :
    (trace : List Moment) → Decidable (Regular config trace)
  | [] => inferInstanceAs (Decidable True)
  | moment :: older =>
      have := decidableRegular older
      inferInstanceAs (Decidable
        (moment.Regular config older ∧ Regular config older))

/-! ## The segment under way -/

/-- A segment that starts there has not come to a point where it ends. -/
def Open (start : Int) (points : List Int) : Prop :=
  ∃ since older, points = since ++ start :: older ∧
    ∀ point ∈ since, point < start + config.hlsDurationS * 1000

section Points

variable {config}

theorem Open.start (start : Int) (older : List Int) :
    Open config start (start :: older) :=
  ⟨[], older, rfl, by rintro _ ⟨⟩⟩

/-- Another point does not end it. -/
theorem Open.cons
    {start next : Int} {points : List Int} (isOpen : Open config start points)
    (short : next < start + config.hlsDurationS * 1000) :
    Open config start (next :: points) := by
  obtain ⟨since, older, rfl, before⟩ := isOpen
  exact ⟨next :: since, older, rfl, List.forall_mem_cons.mpr ⟨short, before⟩⟩

/-- What comes in time is near the start. -/
theorem InTime.near
    {start next : Int} {points : List Int} (inTime : InTime config next points)
    (isOpen : Open config start points) :
    next ≤ start + config.hlsDuration.tdiv 2 := by
  obtain ⟨since, older, rfl, before⟩ := isOpen
  by_contra far
  have inside : since.length < (since ++ start :: older).length := by simp
  obtain ⟨point, member, ends⟩ := inTime ⟨since.length, inside⟩
    (by simpa using far)
  have itsStart : (since ++ start :: older)[since.length] = start := by simp
  simp only [Fin.getElem_fin, itsStart, List.take_left'] at member ends
  exact absurd (before point member) (by omega)

end Points

/-- What is kept of the muxer: where the last segment given to `hls_cb` began,
and the segment under way, which begins near that. -/
structure KeepsNear (state : State) : Prop where
  lastDts : state.lastDts = (cutStarts state.trace).head?.getD (-1)
  seamless : Seamless config state.trace
  duration : ∀ hls, state.ws.hls = some hls →
    hls.duration = config.hlsDurationS * 1000
  empty : (∀ hls, state.ws.hls = some hls → hls.bytes = 0) →
    0 ≤ state.lastDts → Open config state.lastDts (cutPoints config state.trace)
  filled : ∀ hls, state.ws.hls = some hls → hls.bytes ≠ 0 →
    hls.audioOnlyFlag = false ∧
      Open config hls.dts (cutPoints config state.trace) ∧
      ¬Jumps config state.lastDts hls.dts ∧
      ∃ last ∈ (takenFrames state.trace).head?, hls.dtsLast = last.ptsMs

/-- What the muxer is kept by. -/
structure CutView where
  lastDts : Int
  hls : Option HlsMedia
  seen : Bool
  starts : List Int
  points : List Int
  taken : List FqFrame

/-- The view of a state. -/
def State.cutView (state : State) : CutView where
  lastDts := state.lastDts
  hls := state.ws.hls
  seen := state.ws.seenKeyframe
  starts := cutStarts state.trace
  points := cutPoints config state.trace
  taken := takenFrames state.trace

/-- Nothing has happened to the muxer. -/
structure SameCuts (before after : State) : Prop where
  view : after.cutView config = before.cutView config
  seamless : Seamless config before.trace → Seamless config after.trace
  regular : Regular config after.trace → Regular config before.trace

section Same

variable {config}

theorem SameCuts.refl (state : State) : SameCuts config state state :=
  ⟨rfl, id, id⟩

theorem SameCuts.trans
    {first second third : State}
    (earlier : SameCuts config first second)
    (later : SameCuts config second third) : SameCuts config first third :=
  ⟨later.view.trans earlier.view, fun holds => later.seamless
    (earlier.seamless holds), fun holds => earlier.regular (later.regular holds)⟩

theorem KeepsNear.of_same
    {before after : State} (near : KeepsNear config before)
    (same : SameCuts config before after) : KeepsNear config after := by
  have view := same.view
  simp only [State.cutView, CutView.mk.injEq] at view
  obtain ⟨lastDts, hls, _, starts, points, taken⟩ := view
  refine ⟨?_, same.seamless near.seamless, ?_, ?_, ?_⟩
  · rw [lastDts, starts]
    exact near.lastDts
  · rw [hls]
    exact near.duration
  · rw [hls, lastDts, points]
    exact near.empty
  · rw [hls, lastDts, points, taken]
    exact near.filled

end Same

/-- Events that neither take a frame nor end a segment. -/
def Event.offCuts : Event → Bool
  | .started | .cut _ | .discarded _ | .fed _ => false
  | _ => true

section Steps

variable {config}

theorem sameCuts_of_adds
    {before after : State}
    (adds : State.Adds Event.offCuts before after)
    (lastDts : after.lastDts = before.lastDts)
    (hls : after.ws.hls = before.ws.hls)
    (seen : after.ws.seenKeyframe = before.ws.seenKeyframe) :
    SameCuts config before after := by
  have starts := adds.view fun moment older off =>
    show cutStarts (moment :: older) = cutStarts older by
      obtain ⟨event, ws, disk⟩ := moment
      cases event <;> first | rfl | cases off
  have points := adds.view fun moment older off =>
    show cutPoints config (moment :: older) = cutPoints config older by
      obtain ⟨event, ws, disk⟩ := moment
      cases event <;> first | rfl | cases off
  have taken := adds.view fun moment older off =>
    show takenFrames (moment :: older) = takenFrames older by
      obtain ⟨event, ws, disk⟩ := moment
      cases event <;> first | rfl | cases off
  refine ⟨?_, ?_, ?_⟩
  · simp only [State.cutView, lastDts, hls, seen, starts, points, taken]
  · rcases adds with same | ⟨event, off, grown⟩
    · rw [same]
      exact id
    · rw [grown]
      refine fun holds => ⟨?_, holds⟩
      have none : Moment.cutStart ⟨event, after.ws, after.disk⟩ = none := by
        cases event <;> first | rfl | cases off
      rw [none]
      exact fun _ given => by cases given
  · rcases adds with same | ⟨event, off, grown⟩
    · rw [same]
      exact id
    · rw [grown]
      exact And.right

/-- A moment at which nothing happens to the muxer. -/
theorem sameCuts_log
    {state : State} {event : Event} (off : event.offCuts = true) :
    SameCuts config state (state.log event) :=
  sameCuts_of_adds (.inr ⟨event, off, rfl⟩) rfl rfl rfl

/-- A change of other fields. -/
theorem sameCuts_updateWs
    {state : State} {update : WriterState → WriterState}
    (hls : (update state.ws).hls = state.ws.hls)
    (seen : (update state.ws).seenKeyframe = state.ws.seenKeyframe) :
    SameCuts config state (state.updateWs update) :=
  sameCuts_of_adds (.inl rfl) rfl hls seen

theorem sameCuts_folderStep
    (before after : State) (step : FolderStep before after) :
    SameCuts config before after := by
  cases step <;> refine sameCuts_of_adds ?_ rfl rfl rfl <;>
    first | exact .inl rfl | exact .inr ⟨_, rfl, rfl⟩

theorem sameCuts_statementStep
    {writes : (EventDb → EventDb) → Prop}
    (before after : State) (step : StatementStep writes before after) :
    SameCuts config before after := by
  cases step <;> refine sameCuts_of_adds ?_ rfl rfl rfl <;>
    first | exact .inl rfl | exact .inr ⟨_, rfl, rfl⟩

theorem sameCuts_totalStep
    (before after : State) (step : TotalStep before after) :
    SameCuts config before after := by
  cases step <;> exact sameCuts_of_adds (.inr ⟨_, rfl, rfl⟩) rfl rfl rfl

theorem sameCuts_dbStep
    (before after : State) (step : DbStep before after) :
    SameCuts config before after := by
  cases step with
  | statement step => exact sameCuts_statementStep _ _ step
  | stamp => exact sameCuts_of_adds (.inr ⟨_, rfl, rfl⟩) rfl rfl rfl
  | _ => exact sameCuts_of_adds (.inl rfl) rfl rfl rfl

theorem sameCuts_progressStep
    (before after : State) (step : ProgressStep before after) :
    SameCuts config before after := by
  cases step with
  | marks step =>
      cases step with
      | statement step => exact sameCuts_statementStep _ _ step
      | _ =>
          refine sameCuts_of_adds ?_ rfl rfl rfl
          first | exact .inl rfl | exact .inr ⟨_, rfl, rfl⟩
  | total step => exact sameCuts_totalStep _ _ step
  | _ =>
      refine sameCuts_of_adds ?_ rfl rfl rfl
      first | exact .inl rfl | exact .inr ⟨_, rfl, rfl⟩

theorem sameCuts_retentionStep
    (before after : State) (step : RetentionStep before after) :
    SameCuts config before after := by
  cases step <;> refine sameCuts_of_adds ?_ rfl rfl rfl <;>
    first | exact .inl rfl | exact .inr ⟨_, rfl, rfl⟩

end Steps

namespace Storage

open Program

variable {config}

/-- What holds wherever the writer is. -/
abbrev SeamlessSoFar (config : Config) (state : State) : Prop :=
  Regular config state.trace → Seamless config state.trace

/-- What holds between two frames: the segment under way is near, and it is empty
until the folder's first keyframe. -/
abbrev ReadyNear (config : Config) (state : State) : Prop :=
  Regular config state.trace → KeepsNear config state ∧
    ∀ hls, state.ws.hls = some hls →
      (hls.bytes = 0 ↔ state.ws.seenKeyframe = false)

theorem ReadyNear.of_same
    {before after : State} (ready : ReadyNear config before)
    (same : SameCuts config before after) : ReadyNear config after := by
  intro regular
  obtain ⟨near, unseen⟩ := ready (same.regular regular)
  have hls := congrArg CutView.hls same.view
  have seen := congrArg CutView.seen same.view
  simp only [State.cutView] at hls seen
  refine ⟨near.of_same same, ?_⟩
  rw [hls, seen]
  exact unseen

/-- A program whose steps leave the muxer alone. -/
theorem sameCuts_of_within
    {program : Storage α} (within : program.Within (SameCuts config))
    (state : State) :
    program.wp (fun _ => SameCuts config state) (SameCuts config state)
      state :=
  within.keeps (fun _ _ last earlier => earlier.trans last) state (.refl state)

theorem readyNear_of_within
    {program : Storage α} (within : program.Within (SameCuts config))
    {state : State} (ready : ReadyNear config state) :
    program.wp (fun _ => ReadyNear config) (SeamlessSoFar config) state :=
  wp_mono (sameCuts_of_within within state)
    (fun _ _ same => ready.of_same same)
    fun _ same regular => (ready.of_same same regular).1.seamless

/-! ## The muxer -/

/-- A file is written where no write fails. -/
theorem writeFileAtomic_sameCuts
    (dir : SegmentDir) (name : CString) (data : FileData) (state : State) :
    (writeFileAtomic dir name data).wp
      (fun result after => SameCuts config state after ∧
        (Regular config after.trace → result = 0))
      (SameCuts config state) state := by
  have within : (writeFileAtomic dir name data).Within (SameCuts config) :=
    writeFileAtomic_within_of
      (fun _ _ _ => sameCuts_of_adds (.inr ⟨_, rfl, rfl⟩) rfl rfl rfl)
      (fun _ => sameCuts_of_adds (.inl rfl) rfl rfl rfl)
      fun _ => sameCuts_of_adds (.inr ⟨_, rfl, rfl⟩) rfl rfl rfl
  refine wp_mono (wp_and (sameCuts_of_within within state)
    (writeFileAtomic_loses dir name data state)) ?_ fun _ both => both.1
  rintro result after ⟨same, loses⟩
  refine ⟨same, fun regular => ?_⟩
  by_contra failed
  obtain ⟨moment, last, lost⟩ := loses failed
  cases trace : after.trace with
  | nil =>
      rw [trace] at last
      cases last
  | cons first older =>
      rw [trace] at last regular
      obtain rfl := Option.some.inj last
      rw [regular.1.1] at lost
      cases lost

/-- The view after a segment was given to `hls_cb`. -/
def afterCut (view : CutView) (start : Int) : CutView :=
  { view with lastDts := start, starts := start :: view.starts }

/-- A segment that begins near the one before it is not flagged, and the next one
is compared with it. -/
theorem hlsCb_near
    {state : State} {hls : HlsMedia} (muxer : state.ws.hls = some hls)
    (duration : Int)
    (near : Regular config state.trace →
      state.lastDts = (cutStarts state.trace).head?.getD (-1) ∧
        Seamless config state.trace ∧ ¬Jumps config state.lastDts hls.dts) :
    (hlsCb config hls.frames hls.pts hls.dts duration).wp
      (fun result after => Regular config after.trace →
        Regular config state.trace ∧ result = 0 ∧
          after.cutView config = afterCut (state.cutView config) hls.dts ∧
          Seamless config after.trace)
      (SeamlessSoFar config) state := by
  have cut : Regular config (⟨.cut hls.frames, state.ws, state.disk⟩ ::
        state.trace) → Regular config state.trace ∧
      Seamless config (⟨.cut hls.frames, state.ws, state.disk⟩ ::
        state.trace) := by
    rintro ⟨_, regular⟩
    obtain ⟨lastDts, seamless, short⟩ := near regular
    refine ⟨regular, ?_, seamless⟩
    intro next begins _ previous earlier
    rw [Moment.cutStart, muxer] at begins
    obtain rfl := Option.some.inj begins
    rw [earlier, Option.getD_some] at lastDts
    rw [← lastDts]
    exact short
  rw [hlsCb, wp_bind, wp_log, wp_bind, wp_current, wp_bind, wp_modify,
    wp_bind, wp_setWs]
  simp only [State.ws_log]
  cases listed : state.ws.m3u with
  | none => exact fun regular => (cut regular).2
  | some entries =>
      simp only
      rw [wp_bind, wp_setWs]
      refine wp_then (wp_mono (writeFileAtomic_sameCuts _ _ _ _)
        (fun _ _ both => both) fun _ same regular =>
          same.seamless (cut (same.regular regular)).2) ?_
      rintro media reached ⟨first, written⟩
      refine wp_split (fun failed regular => ?_) fun _ => ?_
      · exact absurd (written regular.2) failed
      refine wp_then (wp_mono (writeFileAtomic_sameCuts _ _ _ _)
        (fun _ _ both => both) fun _ same regular =>
          (first.trans same).seamless
            (cut ((first.trans same).regular regular)).2) ?_
      rintro index last ⟨second, written⟩
      refine wp_split (fun failed regular => ?_) fun _ regular => ?_
      · exact absurd (written regular.2) failed
      have same := first.trans second
      obtain ⟨before, seamless⟩ := cut (same.regular regular.2)
      refine ⟨before, rfl, ?_, by rintro _ ⟨⟩, same.seamless seamless⟩
      have view := same.view
      have starts : cutStarts (⟨.cut hls.frames, state.ws, state.disk⟩ ::
          state.trace) = hls.dts :: cutStarts state.trace := by
        rw [cutStarts, Moment.cutStart, muxer]
        rfl
      simp only [State.cutView, State.ws_updateWs,
        State.trace_updateWs, State.trace_log, starts] at view
      exact view

/-- What starting a segment makes of the view. -/
def afterBegin (view : CutView) (hls : HlsMedia) (pts dts : Int) : CutView :=
  { (if hls.bytes = 0 then view else afterCut view hls.dts) with
    hls := some (hls.begin pts dts) }

theorem hlsNewSegment_near
    {state : State} {hls : HlsMedia} (muxer : state.ws.hls = some hls)
    (payload : Option FqFrame) (pts dts : Int)
    (near : Regular config state.trace →
      state.lastDts = (cutStarts state.trace).head?.getD (-1) ∧
        Seamless config state.trace ∧
        (hls.bytes ≠ 0 → ¬Jumps config state.lastDts hls.dts)) :
    (hlsNewSegment config hls payload pts dts).wp
      (fun result after => Regular config after.trace →
        Regular config state.trace ∧ result = 0 ∧
          after.cutView config =
            afterBegin (state.cutView config) hls pts dts ∧
          Seamless config after.trace)
      (SeamlessSoFar config) state := by
  rw [hlsNewSegment]
  refine wp_via (fun result after => Regular config after.trace →
    Regular config state.trace ∧ result = 0 ∧
      after.cutView config = (if hls.bytes = 0 then state.cutView config
        else afterCut (state.cutView config) hls.dts) ∧
      Seamless config after.trace)
    (wp_split (fun filled => ?_) fun empty regular => ?_)
    fun result after begun => ?_
  · rw [if_neg (by omega)]
    refine hlsCb_near muxer _ fun regular => ?_
    obtain ⟨lastDts, seamless, short⟩ := near regular
    exact ⟨lastDts, seamless, short (by omega)⟩
  · rw [if_pos (by omega)]
    exact ⟨regular, rfl, rfl, (near regular).2.1⟩
  · refine wp_split (fun failed regular => ?_) fun _ regular => ?_
    · exact absurd (begun regular).2.1 failed
    obtain ⟨before, _, view, seamless⟩ := begun regular
    refine ⟨before, rfl, ?_, seamless⟩
    have current : after.ws.hls = some hls := by
      have same := congrArg CutView.hls view
      simp only [State.cutView] at same
      rw [same, ← muxer]
      split <;> rfl
    rw [afterBegin, ← view]
    simp only [State.cutView, State.ws_updateWs, State.trace_updateWs, current,
      Option.map_some]
    rfl

section Frame

variable {frame last : FqFrame} {hls : HlsMedia}

/-- Milliseconds apart, for timestamps in microseconds. -/
theorem ptsMs_steady
    (forward : last.ptsUs ≤ frame.ptsUs)
    (steady : frame.ptsUs ≤ last.ptsUs + 100000) :
    last.ptsMs ≤ frame.ptsMs ∧ frame.ptsMs ≤ last.ptsMs + 100 := by
  rw [FqFrame.ptsMs, FqFrame.ptsMs, Int.tdiv_eq_ediv, Int.tdiv_eq_ediv,
    show Int.sign 1000 = 1 from rfl]
  constructor <;> split_ifs <;> omega

/-- A segment ends only where it may. -/
theorem mayCut_of_starts
    (duration : hls.duration = config.hlsDurationS * 1000)
    (filled : hls.bytes ≠ 0) (video : hls.audioOnlyFlag = false)
    (follows : hls.dtsLast ≤ frame.ptsMs)
    (starts : hls.starts (some frame) frame.ptsMs frame.isKey = true) :
    (frame.isKey || decide (hls.maxsize ≤ hls.bytes) ||
      decide (config.hlsDurationS < 0)) = true := by
  by_contra never
  simp only [Bool.or_eq_true, decide_eq_true_eq, not_or] at never
  obtain ⟨⟨notKey, small⟩, nonnegative⟩ := never
  have backwards : ¬ frame.ptsMs + hls.duration < hls.dtsLast := by omega
  simp [HlsMedia.starts, HlsMedia.cuts, HlsMedia.forces, filled, video, notKey,
    small, backwards] at starts

/-- Where it may end and does not, it has not its duration yet. -/
theorem short_of_goesOn
    (duration : hls.duration = config.hlsDurationS * 1000)
    (soon : frame.ptsMs ≤ hls.dtsLast + 100)
    (goesOn : hls.starts (some frame) frame.ptsMs frame.isKey = false)
    (may : (frame.isKey || decide (hls.maxsize ≤ hls.bytes) ||
      decide (config.hlsDurationS < 0)) = true) :
    frame.ptsMs < hls.dts + config.hlsDurationS * 1000 := by
  obtain ⟨_, uncut, unforced⟩ := HlsMedia.starts_eq_false_iff.mp goesOn
  simp only [Bool.or_eq_true, decide_eq_true_eq] at may
  have forward : ¬ frame.ptsMs + hls.duration < hls.dtsLast := by
    simpa [HlsMedia.forces] using unforced
  have cuts : frame.isKey = true ∨ hls.maxsize ≤ hls.bytes := by
    refine may.resolve_right fun negative => forward ?_
    omega
  by_contra long
  have whole : frame.ptsMs - hls.dts ≥ hls.duration := by omega
  simp [HlsMedia.cuts, whole, cuts] at uncut

theorem cutPoint_fed
    {ws : WriterState} (muxer : ws.hls = some hls) (disk : Disk) :
    Moment.cutPoint config ⟨.fed frame, ws, disk⟩ =
      if (frame.isKey || decide (hls.maxsize ≤ hls.bytes) ||
          decide (config.hlsDurationS < 0)) = true then some frame.ptsMs
      else none := by
  simp [Moment.cutPoint, muxer]

end Frame

/-- The frame at hand may be given to the muxer. -/
structure GatedNear (config : Config) (frame : FqFrame) (state : State) :
    Prop where
  seen : state.ws.seenKeyframe = true
  near : Regular config state.trace → KeepsNear config state ∧
    ∀ hls, state.ws.hls = some hls → hls.bytes = 0 → frame.isKey = true

/-- What a frame that is fed has to do with the one before it. -/
theorem follows_of_regular
    {before : State} {frame : FqFrame} {hls : HlsMedia}
    (muxer : before.ws.hls = some hls) (filled : hls.bytes ≠ 0)
    (near : KeepsNear config before)
    (regular : Moment.Regular config ⟨.fed frame, before.ws, before.disk⟩
      before.trace) :
    hls.dtsLast ≤ frame.ptsMs ∧ frame.ptsMs ≤ hls.dtsLast + 100 := by
  obtain ⟨_, _, _, last, isLast, sameDts⟩ := near.filled hls muxer filled
  obtain ⟨forward, steady⟩ := (regular.2.1 frame rfl).2 last isLast
  rw [sameDts]
  exact ptsMs_steady forward steady

/-- The segment that a frame starts is near the one before it. -/
theorem keepsNear_of_began
    {before after : State} {frame : FqFrame} {hls : HlsMedia}
    (muxer : before.ws.hls = some hls) (near : KeepsNear config before)
    (isKey : hls.bytes = 0 → frame.isKey = true)
    (regular : Moment.Regular config ⟨.fed frame, before.ws, before.disk⟩
      before.trace)
    (starts : hls.starts (some frame) frame.ptsMs frame.isKey = true)
    {packets : Nat}
    (view : after.cutView config =
      { afterBegin ((before.log (.fed frame)).cutView config) hls frame.ptsMs
          frame.ptsMs with
        hls := some ((hls.begin frame.ptsMs frame.ptsMs).feed (some frame)
          frame.ptsMs packets) })
    (seamless : Seamless config after.trace) : KeepsNear config after := by
  have may : (frame.isKey || decide (hls.maxsize ≤ hls.bytes) ||
      decide (config.hlsDurationS < 0)) = true := by
    by_cases empty : hls.bytes = 0
    · rw [isKey empty]
      rfl
    · exact mayCut_of_starts (near.duration hls muxer) empty
        (near.filled hls muxer empty).1
        (follows_of_regular muxer empty near regular).1 starts
  have point := @cutPoint_fed config frame hls before.ws muxer before.disk
  rw [if_pos may] at point
  have inTime := regular.2.2 frame.ptsMs point
  have points : cutPoints config (before.log (.fed frame)).trace =
      frame.ptsMs :: cutPoints config before.trace := by
    rw [State.trace_log, cutPoints, point]
    rfl
  -- The start of the last segment given to `hls_cb`, this one included.
  obtain ⟨lastDts, lastIs, heads, close⟩ : ∃ lastDts,
      after.lastDts = lastDts ∧
        lastDts = (cutStarts after.trace).head?.getD (-1) ∧
        ¬Jumps config lastDts frame.ptsMs := by
    have last := congrArg CutView.lastDts view
    have cuts := congrArg CutView.starts view
    simp only [State.cutView, afterBegin] at last cuts
    by_cases empty : hls.bytes = 0
    · simp only [if_pos empty] at last cuts
      refine ⟨before.lastDts, last, ?_, fun ⟨positive, far⟩ => ?_⟩
      · rw [cuts]
        exact near.lastDts
      · have isOpen := near.empty (fun other same => by
          rw [muxer] at same
          obtain rfl := Option.some.inj same
          exact empty) positive
        exact absurd (inTime.near isOpen) (by omega)
    · simp only [if_neg empty, afterCut] at last cuts
      refine ⟨hls.dts, last, ?_, fun ⟨_, far⟩ => ?_⟩
      · rw [cuts]
        rfl
      · have isOpen := (near.filled hls muxer empty).2.1
        exact absurd (inTime.near isOpen) (by omega)
  have current := congrArg CutView.hls view
  have allPoints := congrArg CutView.points view
  have taken := congrArg CutView.taken view
  simp only [State.cutView] at current
  have samePoints : cutPoints config after.trace =
      frame.ptsMs :: cutPoints config before.trace := by
    rw [← points]
    refine Eq.trans allPoints ?_
    simp only [afterBegin]
    split <;> rfl
  have sameTaken : takenFrames after.trace =
      frame :: takenFrames before.trace := by
    refine Eq.trans taken ?_
    simp only [afterBegin]
    split <;> rfl
  refine ⟨lastIs.trans heads, seamless, fun other same => ?_, fun none => ?_,
    fun other same _ => ?_⟩
  · rw [current] at same
    obtain rfl := Option.some.inj same
    exact near.duration hls muxer
  · have filled := none _ current
    simp at filled
  · rw [current] at same
    obtain rfl := Option.some.inj same
    refine ⟨rfl, ?_, ?_, frame, ?_, rfl⟩
    · rw [samePoints]
      exact .start frame.ptsMs _
    · rw [lastIs]
      exact close
    · rw [sameTaken]
      rfl

/-- The segment goes on with a frame. -/
theorem keepsNear_of_continued
    {before after : State} {frame : FqFrame} {hls : HlsMedia}
    (muxer : before.ws.hls = some hls) (near : KeepsNear config before)
    (regular : Moment.Regular config ⟨.fed frame, before.ws, before.disk⟩
      before.trace)
    (goesOn : hls.starts (some frame) frame.ptsMs frame.isKey = false)
    {packets : Nat}
    (view : after.cutView config =
      { (before.log (.fed frame)).cutView config with
        hls := some (hls.feed (some frame) frame.ptsMs packets) })
    (seamless : Seamless config after.trace) : KeepsNear config after := by
  have filled := (HlsMedia.starts_eq_false_iff.mp goesOn).1
  simp only [State.cutView, CutView.mk.injEq] at view
  obtain ⟨lastDts, current, _, starts, points, taken⟩ := view
  obtain ⟨_, isOpen, close, _⟩ := near.filled hls muxer filled
  have stillOpen : Open config hls.dts
      (cutPoints config (before.log (.fed frame)).trace) := by
    change Open config hls.dts ((Moment.cutPoint config
      ⟨.fed frame, before.ws, before.disk⟩).toList ++ _)
    rw [cutPoint_fed muxer]
    split
    · rename_i may
      exact isOpen.cons (short_of_goesOn (near.duration hls muxer)
        (follows_of_regular muxer filled near regular).2 goesOn may)
    · exact isOpen
  refine ⟨?_, seamless, fun other same => ?_, fun none => ?_,
    fun other same _ => ?_⟩
  · rw [lastDts, starts]
    exact near.lastDts
  · rw [current] at same
    obtain rfl := Option.some.inj same
    exact near.duration hls muxer
  · have empty := none _ current
    simp at empty
  · rw [current] at same
    obtain rfl := Option.some.inj same
    refine ⟨rfl, ?_, ?_, frame, ?_, rfl⟩
    · rw [points]
      exact stillOpen
    · rw [lastDts]
      exact close
    · rw [taken]
      rfl

/-- `hls_media_input` on a frame that passed the gate. -/
theorem hlsMediaInput_near
    {frame : FqFrame} {before : State} (gated : GatedNear config frame before) :
    (hlsMediaInput config frame.payload frame.ptsMs frame.ptsMs
      frame.isKey).wp
      (fun _ => ReadyNear config) (SeamlessSoFar config)
      (before.log (.fed frame)) := by
  have seamlessFed : Regular config (before.log (.fed frame)).trace →
      Seamless config (before.log (.fed frame)).trace := fun regular =>
    ⟨by rintro _ ⟨⟩, (gated.near regular.2).1.seamless⟩
  rw [hlsMediaInput, wp_bind, wp_current]
  simp only [State.ws_log]
  cases muxer : before.ws.hls with
  | none => exact seamlessFed
  | some hls =>
      have fedMuxer : (before.log (.fed frame)).ws.hls = some hls := muxer
      -- What the first part does, where it is regular.
      refine wp_via (fun result after => Regular config after.trace →
        Regular config (before.log (.fed frame)).trace ∧ result = 0 ∧
          Seamless config after.trace ∧
          after.cutView config =
            if hls.starts frame.payload frame.ptsMs frame.isKey = true then
              afterBegin ((before.log (.fed frame)).cutView config) hls
                frame.ptsMs frame.ptsMs
            else (before.log (.fed frame)).cutView config)
        (wp_split (fun starts => ?_) fun goesOn regular => ?_)
        fun result after outcome => ?_
      · refine wp_mono (hlsNewSegment_near fedMuxer _ _ _ fun regular => ?_)
          (fun result last begun regular => ?_) fun _ stops => stops
        · have near := (gated.near regular.2).1
          exact ⟨near.lastDts, (seamlessFed regular),
            fun filled => (near.filled hls muxer filled).2.2.1⟩
        · obtain ⟨earlier, works, view, seamless⟩ := begun regular
          have begins : hls.starts frame.payload frame.ptsMs frame.isKey =
              true := by
            simpa [HlsMedia.starts, or_assoc] using starts
          rw [if_pos begins]
          exact ⟨earlier, works, seamless, view⟩
      · have goes : ¬ hls.starts frame.payload frame.ptsMs frame.isKey =
            true := by
          simpa [HlsMedia.starts, or_assoc] using goesOn
        rw [if_neg goes]
        exact ⟨regular, rfl, seamlessFed regular, rfl⟩
      · refine wp_split (fun failed regular => ?_) fun _ => ?_
        · exact absurd (outcome regular).2.1 failed
        rw [wp_bind, wp_answer]
        refine ⟨fun regular => (outcome regular).2.2.1, fun written => ?_⟩
        rw [wp_bind, wp_setWs, wp_bind]
        suffices ready : ∀ last : State,
            (Regular config last.trace → Regular config after.trace) →
            (Seamless config after.trace → Seamless config last.trace) →
            last.cutView config = { after.cutView config with
              hls := after.ws.hls.map fun hls =>
                hls.feed frame.payload frame.ptsMs written.packets } →
            ReadyNear config last by
          apply wp_noteAppended
          · exact fun _ => ready _ id id rfl
          · exact fun _ _ => ready _ And.right
              (fun holds => ⟨by rintro _ ⟨⟩, holds⟩) rfl
        intro last earlier later view regular
        obtain ⟨fed, _, seamless, sameView⟩ := outcome (earlier regular)
        obtain ⟨near, isKey⟩ := gated.near fed.2
        have carries := payload_of_isSome (fed.1.2.1 frame rfl).1
        rw [carries] at sameView view
        have same : after.ws.hls = (after.cutView config).hls := rfl
        rw [same, sameView] at view
        have unseen : last.ws.seenKeyframe = true := by
          have seen := congrArg CutView.seen view
          refine seen.trans (Eq.trans ?_ gated.seen)
          split
          · simp only [afterBegin]
            split <;> rfl
          · rfl
        have filled : ∀ other, last.ws.hls = some other →
            (other.bytes = 0 ↔ last.ws.seenKeyframe = false) := by
          intro other current
          have hls := congrArg CutView.hls view
          rw [unseen]
          refine iff_of_false ?_ (by decide)
          simp only [State.cutView, current] at hls
          obtain ⟨old, _, rfl⟩ := Option.map_eq_some_iff.mp hls.symm
          simp
        refine ⟨?_, filled⟩
        by_cases starts : hls.starts (some frame) frame.ptsMs frame.isKey =
            true
        · rw [if_pos starts] at view
          exact keepsNear_of_began muxer near (isKey hls muxer) fed.1 starts
            view (later seamless)
        · rw [if_neg starts] at view
          refine @keepsNear_of_continued _ _ _ _ _ muxer near fed.1
            (Bool.eq_false_iff.mpr starts) written.packets ?_ (later seamless)
          rw [view]
          simp only [State.cutView, State.ws_log, muxer, Option.map_some]

/-- `ingest_frame` gives a frame to the muxer. -/
theorem feedMuxer_near
    {frame : FqFrame} {state : State} (gated : GatedNear config frame state) :
    (feedMuxer config frame).wp (fun _ => ReadyNear config)
      (SeamlessSoFar config) state := by
  rw [feedMuxer, wp_bind, wp_divide_of_ne (by decide), wp_bind, wp_setWs,
    wp_bind, wp_log]
  have same : SameCuts config state ((state.log (.divides 1000)).updateWs
      fun ws => { ws with ptsMs := frame.ptsUs.tdiv 1000 }) :=
    (sameCuts_log rfl).trans (sameCuts_updateWs rfl rfl)
  have divided : GatedNear config frame ((state.log (.divides 1000)).updateWs
      fun ws => { ws with ptsMs := frame.ptsUs.tdiv 1000 }) :=
    ⟨gated.seen, fun regular =>
      ⟨(gated.near (same.regular regular)).1.of_same same,
        (gated.near (same.regular regular)).2⟩⟩
  refine wp_then (hlsMediaInput_near divided) fun _ reached ready => ?_
  exact ready.of_same (sameCuts_of_adds (.inl rfl) rfl rfl rfl)

/-! ## The writer -/

/-- With no muxer there is nothing under way. -/
theorem readyNear_of_none
    {state : State} (gone : state.ws.hls = none)
    (near : Regular config state.trace → KeepsNear config state) :
    ReadyNear config state := by
  refine fun regular => ⟨near regular, fun hls current => ?_⟩
  rw [gone] at current
  cases current

/-- Flushing gives the segment under way to `hls_cb`. -/
theorem hlsFlushAndDestroy_near
    {state : State} (ready : ReadyNear config state) :
    (hlsFlushAndDestroy config).wp
      (fun _ after => after.ws.hls = none ∧
        (Regular config after.trace → KeepsNear config after))
      (SeamlessSoFar config) state := by
  rw [hlsFlushAndDestroy, wp_bind, wp_current]
  refine wp_via (fun _ after => after.ws.hls = none ∧
      (Regular config after.trace → KeepsNear config after))
    (wp_split (fun present => ?_) fun absent => ?_) fun _ after gone => ?_
  · obtain ⟨hls, muxer⟩ := Option.isSome_iff_exists.mp present
    rw [hlsFlush]
    refine wp_via (fun _ after => Regular config after.trace →
      Regular config state.trace ∧ Seamless config after.trace ∧
        ∃ hls', after.cutView config =
          { afterBegin (state.cutView config) hls 0 0 with hls := hls' }) ?_
      fun _ after flushed => ?_
    · rw [hlsMediaInput, wp_bind, wp_current]
      simp only [muxer]
      rw [if_pos (by simp [HlsMedia.forces])]
      refine wp_then (hlsNewSegment_near muxer none 0 0 fun regular => ?_)
        fun result after begun => ?_
      · have near := (ready regular).1
        exact ⟨near.lastDts, near.seamless,
          fun filled => (near.filled hls muxer filled).2.2.1⟩
      refine wp_split (fun failed regular => ?_) fun _ => ?_
      · exact absurd (begun regular).2.1 failed
      rw [wp_bind, wp_answer]
      refine ⟨fun regular => (begun regular).2.2.2, fun written => ?_⟩
      rw [wp_bind, wp_setWs, wp_bind, noteAppended]
      intro regular
      obtain ⟨before, _, view, seamless⟩ := begun regular
      exact ⟨before, seamless, _, by rw [← view]; rfl⟩
    · refine ⟨rfl, fun regular => ?_⟩
      obtain ⟨before, seamless, hls', view⟩ := flushed regular
      have near := (ready before).1
      have lastDts := congrArg CutView.lastDts view
      have starts := congrArg CutView.starts view
      have points := congrArg CutView.points view
      simp only [State.cutView, afterBegin] at lastDts starts points
      refine ⟨?_, seamless, by rintro _ ⟨⟩, fun _ positive => ?_,
        by rintro _ ⟨⟩⟩
      · change after.lastDts = (cutStarts after.trace).head?.getD (-1)
        rw [lastDts, starts]
        split
        · exact near.lastDts
        · rfl
      · change 0 ≤ after.lastDts at positive
        change Open config after.lastDts (cutPoints config after.trace)
        by_cases empty : hls.bytes = 0
        · simp only [if_pos empty] at lastDts points
          rw [lastDts] at positive
          rw [lastDts, points]
          refine near.empty (fun other same => ?_) positive
          rw [muxer] at same
          obtain rfl := Option.some.inj same
          exact empty
        · simp only [if_neg empty, afterCut] at lastDts points
          rw [lastDts, points]
          exact (near.filled hls muxer empty).2.1
  · have gone : state.ws.hls = none := by simpa using absent
    exact ⟨gone, fun regular => (ready regular).1⟩
  · have same : SameCuts config after (after.updateWs fun ws =>
        { ws with m3u := none }) := sameCuts_of_adds (.inl rfl) rfl rfl rfl
    exact ⟨gone.1, fun regular => (gone.2 regular).of_same same⟩

theorem metaDbEnsureDay_sameCuts :
    metaDbEnsureDay.Within (SameCuts config) :=
  Within.bind (Within.modify fun _ =>
    sameCuts_of_adds (.inr ⟨_, rfl, rfl⟩) rfl rfl rfl) fun _ =>
      @insertDay_within (fun _ => False) |>.mono sameCuts_statementStep

/-- A new muxer is empty. -/
theorem hlsCreate_near
    {state : State} (gone : state.ws.hls = none)
    (unseen : state.ws.seenKeyframe = false)
    (near : Regular config state.trace → KeepsNear config state) :
    (hlsCreate config).wp (fun _ => ReadyNear config) (SeamlessSoFar config)
      state := by
  rw [hlsCreate, wp_bind, wp_call]
  refine ⟨fun regular => (near regular).seamless, fun m3u _ => ?_⟩
  rw [wp_bind, wp_setWs, wp_bind, wp_call]
  have first : SameCuts config state ((state.log (.called .alloc
      m3u.ok)).updateWs fun ws =>
        { ws with m3u := if m3u.ok then some [] else none }) :=
    (sameCuts_log rfl).trans (sameCuts_updateWs rfl rfl)
  refine ⟨fun regular => first.seamless (near (first.regular regular)).seamless,
    fun hls _ => ?_⟩
  rw [wp_bind, wp_setWs]
  have both := first.trans
    (@sameCuts_log config _ (.called .alloc hls.ok) rfl)
  intro regular
  have kept := (near (both.regular regular)).of_same both
  have blank : ∀ created, (if hls.ok then
      some (HlsMedia.create (config.hlsDurationS * 1000)) else none) =
        some created →
      created = HlsMedia.create (config.hlsDurationS * 1000) := by
    intro created current
    split at current
    · exact (Option.some.inj current).symm
    · cases current
  refine ⟨⟨kept.lastDts, kept.seamless, fun created current => ?_,
    fun _ => kept.empty fun other current => ?_,
    fun created current filled => ?_⟩, fun created current => ?_⟩
  · rw [blank created current]
    rfl
  · change state.ws.hls = some other at current
    rw [gone] at current
    cases current
  · rw [blank created current] at filled
    exact absurd rfl filled
  · rw [blank created current]
    exact iff_of_true rfl unseen

theorem openSegment_near
    {state : State} (gone : state.ws.hls = none)
    (near : Regular config state.trace → KeepsNear config state) :
    (openSegment config).wp (fun _ => ReadyNear config) (SeamlessSoFar config)
      state := by
  have stays : ∀ {program : Storage Int} {first : State},
      program.Within (SameCuts config) → first.ws.hls = none →
      (Regular config first.trace → KeepsNear config first) →
      program.wp (fun _ after => after.ws.hls = none ∧
        (Regular config after.trace → KeepsNear config after))
        (SeamlessSoFar config) first := by
    intro program first within gone near
    refine wp_mono (sameCuts_of_within within first) ?_ fun after same regular =>
      same.seamless (near (same.regular regular)).seamless
    intro _ after same
    exact ⟨(congrArg CutView.hls same.view).trans gone,
      fun regular => (near (same.regular regular)).of_same same⟩
  rw [openSegment]
  refine wp_then (stays (eventDbOpen_within.mono sameCuts_dbStep) gone near) ?_
  rintro db state ⟨gone, near⟩
  refine wp_split (fun _ => readyNear_of_none gone near) fun _ => ?_
  refine wp_then (stays (eventDbAddSegment_within.mono sameCuts_dbStep) gone
    near) ?_
  rintro id state ⟨gone, near⟩
  rw [wp_bind, wp_setWs]
  have identified : SameCuts config state (state.updateWs fun ws =>
      { ws with currentSegmentId := id }) :=
    sameCuts_of_adds (.inl rfl) rfl rfl rfl
  refine wp_split (fun _ => ?_) fun _ => ?_
  · rw [wp_bind, eventDbClose, wp_setWs]
    refine readyNear_of_none gone fun regular => ?_
    have closed := identified.trans (@sameCuts_updateWs config _
      (fun ws => { ws with eventDb := none }) rfl rfl)
    exact (near (closed.regular regular)).of_same closed
  rw [wp_bind, resetSegment, wp_setWs]
  refine wp_then (@hlsCreate_near config _ gone rfl fun regular => ?_)
    fun hls state ready => ?_
  · have kept := near regular
    exact ⟨kept.lastDts, kept.seamless, kept.duration, kept.empty, kept.filled⟩
  · refine wp_split (fun _ => ?_) fun _ => ready
    rw [wp_bind, eventDbClose, wp_setWs]
    exact ready.of_same (sameCuts_of_adds (.inl rfl) rfl rfl rfl)

/-- `open_today`, with no muxer left, makes a new one or none. -/
theorem openToday_near
    {state : State} (gone : state.ws.hls = none)
    (near : Regular config state.trace → KeepsNear config state) :
    (openToday config).wp (fun _ => ReadyNear config) (SeamlessSoFar config)
      state := by
  have opening : SameCuts config state (state.log .opening) :=
    sameCuts_log rfl
  rw [openToday, wp_bind, wp_log]
  refine wp_then (wp_mono (sameCuts_of_within
    (openFolder_within.mono sameCuts_folderStep) (state.log .opening))
    (fun _ _ same => opening.trans same) fun after same regular => ?_)
    fun folder reached same => ?_
  · have both := opening.trans same
    exact both.seamless (near (both.regular regular)).seamless
  have gone : reached.ws.hls = none :=
    (congrArg CutView.hls same.view).trans gone
  have near : Regular config reached.trace → KeepsNear config reached :=
    fun regular => (near (same.regular regular)).of_same same
  refine wp_via (fun _ => ReadyNear config) (wp_split (fun _ => ?_)
    fun _ => openSegment_near gone near) fun result last ready => ?_
  · exact readyNear_of_none gone near
  · exact ready.of_same (sameCuts_of_adds (.inr ⟨_, rfl, rfl⟩) rfl rfl rfl)

/-- A rollover ends with a new muxer or none. -/
theorem rolloverDay_near {state : State} (ready : ReadyNear config state) :
    (rolloverDay config).wp (fun _ => ReadyNear config) (SeamlessSoFar config)
      state := by
  rw [rolloverDay]
  refine wp_then (hlsFlushAndDestroy_near ready) ?_
  rintro _ state ⟨gone, near⟩
  refine wp_then (wp_mono (sameCuts_of_within
    (eventDbUpdateTotalFrames_within.mono sameCuts_totalStep) state)
    (fun _ _ same => same) fun after same regular =>
      same.seamless (near (same.regular regular)).seamless)
    fun _ reached same => ?_
  rw [wp_bind, eventDbClose, wp_setWs]
  have closed := same.trans (@sameCuts_updateWs config _
    (fun ws => { ws with eventDb := none }) rfl rfl)
  refine wp_then (openToday_near ((congrArg CutView.hls closed.view).trans gone)
    fun regular => (near (closed.regular regular)).of_same closed)
    fun result reached ready => ?_
  refine wp_via (fun _ => ReadyNear config) (wp_split (fun _ => ?_)
    fun _ => ready) fun _ _ ready => ready
  exact readyNear_of_within metaDbEnsureDay_sameCuts ready

theorem rolloverIfNewDay_near {state : State} (ready : ReadyNear config state) :
    (rolloverIfNewDay config).wp (fun _ => ReadyNear config)
      (SeamlessSoFar config) state := by
  rw [rolloverIfNewDay, wp_bind, todayString, wp_bind, wp_answer]
  refine ⟨fun regular => (ready regular).1.seamless, fun today => ?_⟩
  rw [wp_pure, wp_bind, wp_log, wp_bind, wp_current]
  have noted := ready.of_same (@sameCuts_log config state
    (.ingest today.tm.date today.tm.yday) rfl)
  refine wp_split (fun _ => ?_) fun _ => noted
  exact wp_then (rolloverDay_near noted) fun _ _ ready => ready

/-- A frame passes the gate behind a keyframe, or is one. -/
theorem passesGate_near
    (frame : FqFrame) {state : State} (ready : ReadyNear config state) :
    (passesGate frame).wp
      (fun passes after =>
        if passes then GatedNear config frame after
        else ReadyNear config after)
      (SeamlessSoFar config) state := by
  rw [passesGate, wp_bind, wp_log, wp_bind, wp_current]
  have noted := ready.of_same (@sameCuts_log config state
    (.gate frame.isKey) rfl)
  refine wp_split (fun seen => ?_) fun _ => wp_split (fun _ => ?_) fun key => ?_
  · refine ⟨seen, fun regular => ⟨(noted regular).1, ?_⟩⟩
    intro hls current empty
    have unseen := ((noted regular).2 hls current).mp empty
    rw [seen] at unseen
    cases unseen
  · rw [wp_bind, wp_log]
    rintro ⟨⟨_, _, _⟩, regular⟩
    obtain ⟨near, unseen⟩ := noted regular
    refine ⟨⟨near.lastDts, ⟨by rintro _ ⟨⟩, near.seamless⟩, near.duration,
      near.empty, fun hls current filled => ?_⟩, unseen⟩
    have blank := (unseen hls current).mpr ?_
    · exact absurd blank filled
    · simpa using ‹¬(state.log (.gate frame.isKey)).ws.seenKeyframe = true›
  · rw [wp_bind, wp_setWs]
    refine ⟨rfl, fun regular => ⟨?_, fun _ _ _ => by simpa using key⟩⟩
    have near := (noted regular).1
    exact ⟨near.lastDts, near.seamless, near.duration, near.empty, near.filled⟩

/-- `ingest_frame` keeps what is near. -/
theorem ingestFrame_near
    (frame : FqFrame) {state : State} (ready : ReadyNear config state) :
    (ingestFrame config frame).wp (fun _ => ReadyNear config)
      (SeamlessSoFar config) state := by
  rw [ingestFrame]
  refine wp_then (rolloverIfNewDay_near ready) fun _ state ready => ?_
  refine wp_then (passesGate_near frame ready) fun passes state passed => ?_
  cases passes with
  | false => exact passed
  | true =>
      refine wp_then (feedMuxer_near passed) fun _ state ready => ?_
      refine wp_then (readyNear_of_within ((recordProgress_within config).mono
        sameCuts_progressStep) ready) fun _ state ready => ?_
      exact readyNear_of_within ((checkAndCleanup_within config).mono
        sameCuts_retentionStep) ready

theorem writerBoot_near
    {state : State} (seamless : SeamlessSoFar config state) :
    (writerBoot config).wp
      (fun succeeded after =>
        if succeeded then ReadyNear config after
        else SeamlessSoFar config after)
      (SeamlessSoFar config) state.restart := by
  have started : Regular config state.restart.trace →
      KeepsNear config state.restart := fun regular =>
    ⟨rfl, ⟨by rintro _ ⟨⟩, seamless regular.2⟩, by rintro _ ⟨⟩,
      fun _ negative => absurd negative (show ¬(0 : Int) ≤ -1 by decide),
      by rintro _ ⟨⟩⟩
  rw [writerBoot]
  refine wp_then (@openToday_near config state.restart rfl started)
    fun opened state ready => ?_
  refine wp_split (fun _ regular => (ready regular).1.seamless) fun _ => ?_
  refine wp_then (readyNear_of_within (metaDbInit_within.mono sameCuts_dbStep)
    ready) fun initialised state ready => ?_
  refine wp_split (fun _ => ?_) fun _ => ?_
  · refine wp_then (hlsFlushAndDestroy_near ready) ?_
    rintro _ state ⟨_, near⟩
    exact fun regular => (near regular).seamless
  · exact wp_then (readyNear_of_within metaDbEnsureDay_sameCuts ready)
      fun _ _ ready => ready

theorem writerStop_near {state : State} (ready : ReadyNear config state) :
    (writerStop config).wp (fun _ => SeamlessSoFar config)
      (SeamlessSoFar config) state := by
  rw [writerStop]
  refine wp_then (hlsFlushAndDestroy_near ready) ?_
  rintro _ state ⟨_, near⟩
  refine wp_then (wp_mono (sameCuts_of_within
    (eventDbUpdateTotalFrames_within.mono sameCuts_totalStep) state)
    (fun _ _ same => same) fun after same regular =>
      same.seamless (near (same.regular regular)).seamless)
    fun _ reached same => ?_
  exact fun regular => same.seamless (near (same.regular regular)).seamless

end Storage

/-- In every regular history the segments given to `hls_cb` begin near each
other. -/
theorem seamless_of_regular
    {phase : Daemon.Phase} {state : State}
    (reached : (writer config).Reach State.Blank phase state)
    (regular : Regular config state.trace) : Seamless config state.trace := by
  apply @Daemon.Reach.everywhere _ _ _ (writer config) State.Blank
    (Storage.SeamlessSoFar config) (Storage.ReadyNear config)
    (fun _ ready regular => (ready regular).1.seamless) ?_ ?_ ?_ ?_ phase state
    reached regular
  · rintro state ⟨unused, _⟩ _
    rw [unused]
    trivial
  · exact fun _ seamless => Storage.writerBoot_near seamless
  · exact fun frame _ ready => Storage.ingestFrame_near frame ready
  · exact fun _ ready => Storage.writerStop_near ready

end MotionSense
