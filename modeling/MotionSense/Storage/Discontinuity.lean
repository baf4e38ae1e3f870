import MotionSense.Storage.Rounds

/-!
# Discontinuities in the playlists

`hls_cb` flags a discontinuity when a segment begins more than half of
`HLS_DURATION` behind the beginning of the segment before it.  The segment before
may itself be that long, so a flag need not mean that timestamps are missing.
-/

namespace MotionSense

variable (config : Config)

/-- Where the segment begins that `hls_cb` is given at a moment. -/
def Moment.cutStart (moment : Moment) : Option Int :=
  match moment.event with
  | .cut _ => moment.ws.hls.map HlsMedia.dts
  | _ => none

/-- Where the segments begin that the process has given to `hls_cb`, newest
first. -/
def cutStarts : List Moment → List Int
  | [] => []
  | moment :: older =>
      match moment.event with
      | .started => []
      | _ => moment.cutStart.toList ++ cutStarts older

/-- A segment begins more than half of `HLS_DURATION` behind the beginning of the
one before it. -/
def Jumps (previous next : Int) : Prop :=
  0 ≤ previous ∧ previous + config.hlsDuration.tdiv 2 < next

/-- No segment that a process has added to a playlist jumps ahead of the segment
before it. -/
def Seamless : List Moment → Prop
  | [] => True
  | moment :: older =>
      (∀ next ∈ moment.cutStart, moment.ws.m3u.isSome = true →
        ∀ previous ∈ (cutStarts older).head?, ¬Jumps config previous next) ∧
        Seamless older

/-- The writer's playlist has no discontinuity. -/
def WriterState.Unflagged (ws : WriterState) : Prop :=
  ∀ entries ∈ ws.m3u, ∀ entry ∈ entries, entry.discontinuity = false

/-- No playlist has a discontinuity, now or at any moment before. -/
def Unflagged (state : State) : Prop :=
  state.ws.Unflagged ∧ ∀ moment ∈ state.trace, moment.ws.Unflagged

/-- No writer has run yet, and none has left anything in memory. -/
def State.Blank (state : State) : Prop :=
  state.trace = [] ∧ state.ws = {}

instance (ws : WriterState) : Decidable ws.Unflagged :=
  inferInstanceAs (Decidable (∀ entries ∈ ws.m3u, ∀ entry ∈ entries, _ = _))

instance (state : State) : Decidable (Unflagged state) :=
  inferInstanceAs (Decidable (_ ∧ ∀ moment ∈ state.trace, moment.ws.Unflagged))

/-- `last_dts` is where the last segment began, and seamless segments are not
flagged. -/
structure Flags (state : State) : Prop where
  lastDts : state.lastDts = (cutStarts state.trace).head?.getD (-1)
  unflagged : Seamless config state.trace → Unflagged state

/-! ## Cuts and everything else -/

/-- Events that are neither a start nor a cut. -/
def Event.cutsNothing : Event → Bool
  | .started | .cut _ => false
  | _ => true

/-- One step of the writer as far as the flags are concerned: a call of `hls_cb`
adds an entry to the playlist, and otherwise the playlist stays, is emptied or
goes. -/
inductive CutStep : State → State → Prop
  | other {before after : State}
      (lastDts : after.lastDts = before.lastDts)
      (m3u : after.ws.m3u = before.ws.m3u ∨ after.ws.m3u.getD [] = [])
      (adds : State.Adds Event.cutsNothing before after) :
      CutStep before after
  | cut (state : State) {hls : HlsMedia} (muxer : state.ws.hls = some hls)
      (frames : List FqFrame) {entry : PlaylistEntry}
      (flag : entry.discontinuity =
        if state.lastDts < 0 then false
        else decide (hls.dts > state.lastDts + config.hlsDuration.tdiv 2)) :
      CutStep state
        ({ state.log (.cut frames) with lastDts := hls.dts }.updateWs fun ws =>
          { ws with
            tsIdx := ws.tsIdx + 1
            m3u := ws.m3u.map fun added => added ++ [entry] })

theorem cutStart_of_cutsNothing
    {moment : Moment} (nothing : moment.event.cutsNothing = true) :
    moment.cutStart = none := by
  obtain ⟨event, ws, disk⟩ := moment
  cases event <;> first | rfl | cases nothing

theorem cutStarts_of_cutsNothing
    (moment : Moment) (older : List Moment)
    (nothing : moment.event.cutsNothing = true) :
    cutStarts (moment :: older) = cutStarts older := by
  obtain ⟨event, ws, disk⟩ := moment
  cases event <;> first | rfl | cases nothing

theorem seamless_of_cutsNothing
    (moment : Moment) (older : List Moment)
    (nothing : moment.event.cutsNothing = true) :
    Seamless config (moment :: older) = Seamless config older := by
  rw [Seamless, cutStart_of_cutsNothing nothing]
  exact propext ⟨And.right, fun seamless => ⟨nofun, seamless⟩⟩

/-- A playlist that stays, is emptied or goes gets no flag. -/
theorem unflagged_of_m3u
    {before after : WriterState}
    (m3u : after.m3u = before.m3u ∨ after.m3u.getD [] = [])
    (unflagged : before.Unflagged) : after.Unflagged := by
  intro entries present
  rcases m3u with same | empty
  · rw [same] at present
    exact unflagged entries present
  · rw [Option.mem_def.mp present, Option.getD_some] at empty
    rw [empty]
    exact fun entry member => absurd member List.not_mem_nil

/-- Every step keeps the flags. -/
theorem flags_cutStep
    (before after : State) (step : CutStep config before after)
    (flags : Flags config before) : Flags config after := by
  cases step with
  | other lastDts m3u adds =>
      have starts := adds.view cutStarts_of_cutsNothing
      have seamless := adds.view (seamless_of_cutsNothing config)
      refine ⟨by rw [lastDts, starts, flags.lastDts], fun holds => ?_⟩
      rw [seamless] at holds
      obtain ⟨now, earlier⟩ := flags.unflagged holds
      have later := unflagged_of_m3u m3u now
      refine ⟨later, ?_⟩
      rcases adds with same | ⟨event, _, grown⟩
      · rw [same]
        exact earlier
      · rw [grown]
        rintro moment (_ | ⟨_, member⟩)
        · exact later
        · exact earlier moment member
  | @cut hls muxer frames entry flag =>
      have started : cutStarts
          (⟨.cut frames, before.ws, before.disk⟩ :: before.trace) =
            hls.dts :: cutStarts before.trace := by
        rw [cutStarts, Moment.cutStart, muxer]
        rfl
      refine ⟨?_, ?_⟩
      · change hls.dts = (cutStarts (_ :: before.trace)).head?.getD (-1)
        rw [started]
        rfl
      · rintro ⟨calm, seamless⟩
        obtain ⟨now, earlier⟩ := flags.unflagged seamless
        refine ⟨?_, ?_⟩
        · intro entries present
          obtain ⟨added, playlist, rfl⟩ := Option.map_eq_some_iff.mp present
          intro other member
          rcases List.mem_append.mp member with old | new
          · exact now added playlist other old
          · rw [List.mem_singleton.mp new, flag, flags.lastDts]
            have begins : hls.dts ∈
                (Moment.mk (.cut frames) before.ws before.disk).cutStart := by
              rw [Moment.cutStart, muxer]
              rfl
            have near := calm hls.dts begins (by
              change before.ws.m3u.isSome = true
              change before.ws.m3u = some added at playlist
              rw [playlist]
              rfl)
            cases head : (cutStarts before.trace).head? with
            | none => rfl
            | some previous =>
                have short := near previous head
                rw [Option.getD_some]
                split_ifs with negative
                · rfl
                · rw [decide_eq_false_iff_not]
                  exact fun far => short ⟨not_lt.mp negative, far⟩
        · rintro moment (_ | ⟨_, member⟩)
          · exact now
          · exact earlier moment member

/-! ## The steps of the writer -/

namespace CutStep

theorem ofFolder
    (before after : State) (step : FolderStep before after) :
    CutStep config before after := by
  cases step <;>
    exact .other rfl (.inl rfl) (by first | exact .inl rfl | exact .log rfl)

theorem ofStatement
    {writes : (EventDb → EventDb) → Prop}
    (before after : State) (step : StatementStep writes before after) :
    CutStep config before after := by
  cases step <;>
    exact .other rfl (.inl rfl) (by first | exact .inl rfl | exact .inr ⟨_, rfl, rfl⟩)

theorem ofTotal
    (before after : State) (step : TotalStep before after) :
    CutStep config before after := by
  cases step <;>
    exact .other rfl (.inl rfl) (by first | exact .inl rfl | exact .inr ⟨_, rfl, rfl⟩)

theorem ofDb
    (before after : State) (step : DbStep before after) :
    CutStep config before after := by
  cases step with
  | statement step => exact ofStatement config _ _ step
  | stamp => exact .other rfl (.inl rfl) (.inr ⟨_, rfl, rfl⟩)
  | _ => exact .other rfl (.inl rfl) (.inl rfl)

theorem ofSegment
    (before after : State) (step : SegmentStep before after) :
    CutStep config before after := by
  cases step with
  | db step => exact ofDb config _ _ step
  | playlist created =>
      cases created with
      | false => exact .other rfl (.inr rfl) (.inl rfl)
      | true => exact .other rfl (.inr rfl) (.inl rfl)
  | _ => exact .other rfl (.inl rfl) (.inl rfl)

theorem ofProgress
    (before after : State) (step : ProgressStep before after) :
    CutStep config before after := by
  cases step with
  | marks step =>
      cases step with
      | statement step => exact ofStatement config _ _ step
      | _ =>
          exact .other rfl (.inl rfl)
            (by first | exact .inl rfl | exact .log rfl)
  | total step => exact ofTotal config _ _ step
  | _ =>
      exact .other rfl (.inl rfl) (by first | exact .inl rfl | exact .log rfl)

theorem ofRetention
    (before after : State) (step : RetentionStep before after) :
    CutStep config before after := by
  cases step <;>
    exact .other rfl (.inl rfl)
      (by first | exact .inl rfl | exact .inr ⟨_, rfl, rfl⟩)

end CutStep

namespace Storage

open Program

theorem log_cutStep {event : Event} (nothing : event.cutsNothing = true) :
    (log event).Within (CutStep config) :=
  Within.modify fun _ => .other rfl (.inl rfl) (.log nothing)

/-- Writing fields of `ws` apart from the playlist. -/
theorem setWs_cutStep
    {update : WriterState → WriterState}
    (m3u : ∀ ws, (update ws).m3u = ws.m3u ∨ (update ws).m3u.getD [] = []) :
    (setWs update).Within (CutStep config) :=
  Within.modify fun state => .other rfl (m3u state.ws) (.inl rfl)

theorem writeFileAtomic_cutStep
    (dir : SegmentDir) (name : CString) (data : FileData) :
    (writeFileAtomic dir name data).Within (CutStep config) :=
  writeFileAtomic_within_of (fun _ _ _ => .other rfl (.inl rfl) (.log rfl))
    (fun _ => .other rfl (.inl rfl) (.inl rfl))
    fun _ => .other rfl (.inl rfl) (.log rfl)

/-- What follows the first test of `hls_cb` ends like this when a file cannot be
written. -/
theorem cutFailed_cutStep :
    (do log (.cutDone (-1)); return -1 : Storage Int).Within (CutStep config) :=
  Within.bind (log_cutStep config rfl) fun _ => Within.pure _

/-- `hls_cb` on the segment of the muxer adds one entry. -/
theorem hlsCb_cutStep
    {state : State} {hls : HlsMedia} (muxer : state.ws.hls = some hls)
    (duration : Int) :
    (hlsCb config hls.frames hls.pts hls.dts duration).wp
      (fun _ => Relation.ReflTransGen (CutStep config) state)
      (Relation.ReflTransGen (CutStep config) state) state := by
  have cut := fun entry flag =>
    @CutStep.cut config state hls muxer hls.frames entry flag
  rw [hlsCb, wp_bind, wp_log, wp_bind, wp_current, wp_bind, wp_modify,
    wp_bind, wp_setWs]
  simp only [State.ws_log]
  cases playlist : state.ws.m3u with
  | none =>
      -- Without a playlist the process ends here.
      have halts := cut ⟨[], 0, 0, _⟩ rfl
      simp only [State.updateWs, State.ws_log, playlist, Option.map_none]
        at halts
      simp only [wp_halt, State.updateWs, playlist]
      exact .single halts
  | some entries =>
      rw [wp_bind, wp_setWs]
      refine Within.after ?_ (.single (cut ⟨_, _, _, _⟩ rfl))
      refine Within.bind (writeFileAtomic_cutStep config _ _ _) fun media => ?_
      refine Within.ite (fun _ => cutFailed_cutStep config) fun _ => ?_
      refine Within.bind (writeFileAtomic_cutStep config _ _ _) fun index => ?_
      refine Within.ite (fun _ => cutFailed_cutStep config) fun _ => ?_
      refine Within.bind (setWs_cutStep config fun _ => .inl rfl) fun _ => ?_
      exact Within.bind (log_cutStep config rfl) fun _ => Within.pure _

theorem hlsNewSegment_cutStep
    {state : State} {hls : HlsMedia} (muxer : state.ws.hls = some hls)
    (payload : Option FqFrame) (pts dts : Int) :
    (hlsNewSegment config hls payload pts dts).wp
      (fun _ => Relation.ReflTransGen (CutStep config) state)
      (Relation.ReflTransGen (CutStep config) state) state := by
  refine Within.continue (wp_split (fun _ => hlsCb_cutStep config muxer _)
    fun _ => .refl) fun result => ?_
  refine Within.ite (fun _ => Within.pure _) fun _ => ?_
  exact Within.bind (setWs_cutStep config fun _ => .inl rfl) fun _ =>
    Within.pure _

theorem hlsMediaInput_cutStep
    (payload : Option FqFrame) (pts dts : Int) (isKey : Bool) :
    (hlsMediaInput config payload pts dts isKey).Within (CutStep config) := by
  refine Within.bindCurrent fun state => ?_
  cases muxer : state.ws.hls with
  | none => exact .refl
  | some hls =>
      refine Within.continue (wp_split (fun _ =>
        hlsNewSegment_cutStep config muxer _ _ _) fun _ => .refl)
        fun result => ?_
      refine Within.ite (fun _ => Within.pure _) fun _ => ?_
      refine Within.bind Within.answer fun written => ?_
      refine Within.bind (setWs_cutStep config fun _ => .inl rfl) fun _ => ?_
      refine Within.bind ?_ fun _ => Within.pure _
      cases payload with
      | none => exact Within.pure _
      | some frame => exact log_cutStep config rfl

theorem hlsFlushAndDestroy_cutStep :
    (hlsFlushAndDestroy config).Within (CutStep config) := by
  have flush : (hlsFlush config).Within (CutStep config) :=
    Within.bind (hlsMediaInput_cutStep config _ _ _ _) fun _ =>
      setWs_cutStep config fun _ => .inl rfl
  refine Within.bind Within.current fun state => ?_
  refine Within.bind (Within.ite (fun _ => flush) fun _ => Within.pure _)
    fun _ => ?_
  exact setWs_cutStep config fun _ => .inr rfl

theorem openToday_cutStep : (openToday config).Within (CutStep config) := by
  refine Within.bind (log_cutStep config rfl) fun _ => ?_
  refine Within.bind (openFolder_within.mono (CutStep.ofFolder config))
    fun folder => ?_
  refine Within.bind (Within.ite (fun _ => Within.pure _) fun _ =>
    (openSegment_within config).mono (CutStep.ofSegment config))
    fun result => ?_
  exact Within.bind (log_cutStep config rfl) fun _ => Within.pure _

theorem metaDbEnsureDay_cutStep :
    metaDbEnsureDay.Within (CutStep config) :=
  Within.bind (log_cutStep config rfl) fun _ =>
    @insertDay_within (fun _ => False) |>.mono (CutStep.ofStatement config)

/-- Leaving a day and ending the thread, as far as the card goes. -/
theorem writerStop_cutStep : (writerStop config).Within (CutStep config) := by
  refine Within.bind (hlsFlushAndDestroy_cutStep config) fun _ => ?_
  refine Within.bind (eventDbUpdateTotalFrames_within.mono
    (CutStep.ofTotal config)) fun _ => ?_
  exact eventDbClose_within.mono (CutStep.ofDb config)

theorem rolloverIfNewDay_cutStep :
    (rolloverIfNewDay config).Within (CutStep config) := by
  have rollover : (rolloverDay config).Within (CutStep config) := by
    refine Within.bind (hlsFlushAndDestroy_cutStep config) fun _ => ?_
    refine Within.bind (eventDbUpdateTotalFrames_within.mono
      (CutStep.ofTotal config)) fun _ => ?_
    refine Within.bind (eventDbClose_within.mono (CutStep.ofDb config))
      fun _ => ?_
    refine Within.bind (openToday_cutStep config) fun result => ?_
    exact Within.bind (Within.ite (fun _ => metaDbEnsureDay_cutStep config)
      fun _ => Within.pure _) fun _ => Within.pure _
  refine Within.bind (todayString_within.mono (CutStep.ofDb config))
    fun today => ?_
  refine Within.bind (log_cutStep config rfl) fun _ => ?_
  refine Within.bind Within.current fun state => ?_
  refine Within.ite (fun _ => ?_) fun _ => Within.pure _
  exact Within.bind rollover fun _ => Within.pure _

theorem ingestFrame_cutStep (frame : FqFrame) :
    (ingestFrame config frame).Within (CutStep config) := by
  have gate : (passesGate frame).Within (CutStep config) := by
    refine Within.bind (log_cutStep config rfl) fun _ => ?_
    refine Within.bind Within.current fun state => ?_
    refine Within.ite (fun _ => Within.pure _) fun _ => ?_
    refine Within.ite (fun _ => ?_) fun _ => ?_
    · exact Within.bind (log_cutStep config rfl) fun _ => Within.pure _
    · exact Within.bind (setWs_cutStep config fun _ => .inl rfl) fun _ =>
        Within.pure _
  have feed : (feedMuxer config frame).Within (CutStep config) := by
    refine Within.bind (divide_within fun _ =>
      .other rfl (.inl rfl) (.log rfl)) fun _ => ?_
    refine Within.bind (setWs_cutStep config fun _ => .inl rfl) fun _ => ?_
    refine Within.bind (log_cutStep config rfl) fun _ => ?_
    refine Within.bind (hlsMediaInput_cutStep config _ _ _ _) fun _ => ?_
    exact setWs_cutStep config fun _ => .inl rfl
  refine Within.bind (rolloverIfNewDay_cutStep config) fun _ => ?_
  refine Within.bind gate fun passes => ?_
  refine Within.ite (fun _ => ?_) fun _ => Within.pure _
  refine Within.bind feed fun _ => ?_
  refine Within.bind ((recordProgress_within config).mono
    (CutStep.ofProgress config)) fun _ => ?_
  exact (checkAndCleanup_within config).mono (CutStep.ofRetention config)

theorem writerBoot_cutStep : (writerBoot config).Within (CutStep config) := by
  refine Within.bind (openToday_cutStep config) fun opened => ?_
  refine Within.ite (fun _ => Within.pure _) fun _ => ?_
  refine Within.bind (metaDbInit_within.mono (CutStep.ofDb config))
    fun ready => ?_
  refine Within.ite (fun _ => ?_) fun _ => ?_
  · refine Within.bind (hlsFlushAndDestroy_cutStep config) fun _ => ?_
    exact Within.bind (eventDbClose_within.mono (CutStep.ofDb config)) fun _ =>
      Within.pure _
  · exact Within.bind (metaDbEnsureDay_cutStep config) fun _ => Within.pure _

end Storage

/-! ## The writer -/

/-- A new process has a fresh `last_dts`, and no playlist. -/
theorem flags_restart
    {state : State} (unflagged : Seamless config state.trace → Unflagged state) :
    Flags config state.restart where
  lastDts := rfl
  unflagged := by
    rintro ⟨_, seamless⟩
    refine ⟨fun entries present => ?_, ?_⟩
    · cases present
    · rintro moment (_ | ⟨_, member⟩)
      · intro entries present
        cases present
      · exact (unflagged seamless).2 moment member

/-- In every history, if no segment begins more than half of `HLS_DURATION`
behind the beginning of the segment that the process gave to `hls_cb` before it,
no playlist ever gets a discontinuity. -/
theorem seamless_unflagged
    {phase : Daemon.Phase} {state : State}
    (reached : (writer config).Reach State.Blank phase state)
    (seamless : Seamless config state.trace) :
    Unflagged state := by
  apply @Daemon.Reach.everywhere _ _ _ (writer config) State.Blank
    (fun state => Seamless config state.trace → Unflagged state)
    (Flags config) (fun _ flags => flags.unflagged) ?_ ?_ ?_ ?_ phase state
    reached seamless
  · rintro state ⟨unused, fresh⟩ _
    refine ⟨?_, ?_⟩
    · rw [fresh]
      intro entries present
      cases present
    · rw [unused]
      intro moment member
      cases member
  · intro state unflagged
    refine Program.wp_mono ((Storage.writerBoot_cutStep config).keeps
      (flags_cutStep config) _ (flags_restart config unflagged)) ?_
      fun _ flags => flags.unflagged
    intro succeeded after flags
    cases succeeded with
    | false => exact flags.unflagged
    | true => exact flags
  · intro frame state flags
    exact Program.wp_mono ((Storage.ingestFrame_cutStep config frame).keeps
      (flags_cutStep config) state flags) (fun _ _ flags => flags)
      fun _ flags => flags.unflagged
  · intro state flags
    exact Program.wp_mono ((Storage.writerStop_cutStep config).keeps
      (flags_cutStep config) state flags)
      (fun _ _ flags => flags.unflagged) fun _ flags => flags.unflagged

/-- Ten frames a second, with a keyframe at the beginning and one after 5.1
seconds. -/
def longGop : List FqFrame :=
  (List.range 52).map fun index =>
    { data := some ⟨0, [0]⟩
      len := 1
      isKey := index % 51 = 0
      ptsUs := 100000 * index }

end MotionSense
