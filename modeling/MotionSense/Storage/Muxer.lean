import MotionSense.Storage.Steps

/-!
# Feeding the muxer

`rollover_day` tears the muxer down and `open_today` builds the next one.
`ingest_frame` does not look at the result, so after a failed rollover the muxer
or the playlist is missing, and nothing but the keyframe gate stands between the
next frame and them.
-/

namespace MotionSense

/-- The most recent `open_today` of the running process has succeeded. -/
@[simp] def lastOpened : List Moment → Bool
  | [] => false
  | moment :: older =>
      match moment.event with
      | .started => false
      | .opened result => result = 0
      | _ => lastOpened older

/-- Every frame fed found both the muxer and the playlist. -/
def FeedsMuxer (trace : List Moment) : Prop :=
  ∀ moment ∈ trace, ∀ frame, moment.event = .fed frame →
    moment.ws.hls.isSome ∧ moment.ws.m3u.isSome

instance (trace : List Moment) : Decidable (FeedsMuxer trace) :=
  decidable_of_iff
    (∀ moment ∈ trace,
      (match moment.event with
        | .fed _ => moment.ws.hls.isSome && moment.ws.m3u.isSome
        | _ => true) = true)
    (forall₂_congr fun moment _ => by cases moment.event <;> simp)

/-- No frame passed the keyframe gate while the most recent `open_today` had
failed. -/
@[simp] def PassesWhileOpened : List Moment → Prop
  | [] => True
  | moment :: older =>
      (∀ isKey, moment.event = .gate isKey →
        (moment.ws.seenKeyframe || isKey) = true →
          lastOpened older = true) ∧
        PassesWhileOpened older

namespace State

/-- The two sides of the law so far. -/
def FeedLaw (state : State) : Prop :=
  FeedsMuxer state.trace ↔ PassesWhileOpened state.trace

/-- The muxer and the playlist are there exactly when the most recent
`open_today` has succeeded. -/
def Muxed (state : State) : Prop :=
  lastOpened state.trace = true ↔
    state.ws.hls.isSome = true ∧ state.ws.m3u.isSome = true

/-- Everything the law depends on. -/
def muxerView (state : State) : Prop × Prop × Bool × Bool × Bool :=
  (FeedsMuxer state.trace, PassesWhileOpened state.trace,
    lastOpened state.trace, state.ws.hls.isSome, state.ws.m3u.isSome)

/-- The law holds and the writer is between two frames. -/
structure MuxerReady (state : State) : Prop where
  law : state.FeedLaw
  muxed : state.Muxed

/-- The law holds and there is neither a muxer nor a playlist. -/
structure MuxerGone (state : State) : Prop where
  law : state.FeedLaw
  hls : state.ws.hls.isSome = false
  m3u : state.ws.m3u.isSome = false

theorem MuxerReady.of_view
    {before after : State}
    (same : after.muxerView = before.muxerView)
    (ready : before.MuxerReady) :
    after.MuxerReady := by
  simp only [muxerView, Prod.mk.injEq] at same
  obtain ⟨feeds, passes, opened, hls, m3u⟩ := same
  refine ⟨?_, ?_⟩
  · rw [FeedLaw, feeds, passes]
    exact ready.law
  · rw [Muxed, opened, hls, m3u]
    exact ready.muxed

theorem MuxerGone.of_view
    {before after : State}
    (same : after.muxerView = before.muxerView)
    (gone : before.MuxerGone) :
    after.MuxerGone := by
  simp only [muxerView, Prod.mk.injEq] at same
  obtain ⟨feeds, passes, _, hls, m3u⟩ := same
  refine ⟨?_, hls.trans gone.hls, m3u.trans gone.m3u⟩
  rw [FeedLaw, feeds, passes]
  exact gone.law

theorem FeedLaw.of_view
    {before after : State}
    (same : after.muxerView = before.muxerView)
    (law : before.FeedLaw) :
    after.FeedLaw := by
  simp only [muxerView, Prod.mk.injEq] at same
  rw [FeedLaw, same.1, same.2.1]
  exact law

theorem muxerView_folderStep
    (before after : State) (step : FolderStep before after) :
    after.muxerView = before.muxerView := by
  cases step <;>
    simp [muxerView, FeedsMuxer, PassesWhileOpened, lastOpened]

theorem muxerView_hlsStep
    (before after : State) (step : HlsStep before after) :
    after.muxerView = before.muxerView := by
  cases step <;>
    simp [muxerView, FeedsMuxer, PassesWhileOpened, lastOpened]

theorem muxerView_statementStep
    {writes : (EventDb → EventDb) → Prop}
    (before after : State) (step : StatementStep writes before after) :
    after.muxerView = before.muxerView := by
  cases step <;>
    simp [muxerView, FeedsMuxer, PassesWhileOpened, lastOpened]

theorem muxerView_totalStep
    (before after : State) (step : TotalStep before after) :
    after.muxerView = before.muxerView := by
  cases step <;>
    simp [muxerView, FeedsMuxer, PassesWhileOpened, lastOpened]

theorem muxerView_dbStep
    (before after : State) (step : DbStep before after) :
    after.muxerView = before.muxerView := by
  cases step with
  | statement step => exact muxerView_statementStep _ _ step
  | stamp => simp [muxerView, FeedsMuxer, PassesWhileOpened, lastOpened]
  | _ => simp [muxerView]

theorem muxerView_progressStep
    (before after : State) (step : ProgressStep before after) :
    after.muxerView = before.muxerView := by
  cases step with
  | marks step =>
      cases step with
      | statement step => exact muxerView_statementStep _ _ step
      | _ => simp [muxerView, FeedsMuxer, PassesWhileOpened, lastOpened]
  | total step => exact muxerView_totalStep _ _ step
  | _ => simp [muxerView, FeedsMuxer, PassesWhileOpened, lastOpened]

theorem muxerView_retentionStep
    (before after : State) (step : RetentionStep before after) :
    after.muxerView = before.muxerView := by
  cases step <;>
    simp [muxerView, FeedsMuxer, PassesWhileOpened, lastOpened]

end State

namespace Storage

open Program State

/-- A program that leaves the view alone keeps what depends on the view only. -/
theorem keeps_of_view
    {step : State → State → Prop}
    {program : Storage α}
    (within : program.Within step)
    (kept : ∀ before after, step before after →
      after.muxerView = before.muxerView)
    {invariant : State → Prop}
    (closed : ∀ {before after : State},
      after.muxerView = before.muxerView → invariant before → invariant after)
    (weaker : ∀ state, invariant state → state.FeedLaw)
    {state : State}
    (holds : invariant state) :
    program.wp (fun _ => invariant) FeedLaw state :=
  wp_mono (within.preserves kept state)
    (fun _ _ same => closed same holds)
    fun _ same => FeedLaw.of_view same (weaker state holds)

/-- Flushing leaves neither a muxer nor a playlist. -/
theorem hlsFlushAndDestroy_muxer
    (config : Config) {state : State} (law : state.FeedLaw) :
    (hlsFlushAndDestroy config).wp (fun _ => MuxerGone) FeedLaw state := by
  rw [hlsFlushAndDestroy, wp_bind, wp_current]
  refine wp_via (fun _ after => after.FeedLaw ∧ after.ws.hls.isSome = false)
    (wp_split ?_ ?_) ?_
  · intro _
    refine wp_then (keeps_of_view (hlsMediaInput_within _ _ _ _ _)
      muxerView_hlsStep FeedLaw.of_view (fun _ => id) law) ?_
    exact fun _ flushed law => ⟨law, rfl⟩
  · intro missing
    exact ⟨law, by simpa using missing⟩
  · rintro _ flushed ⟨law, noMuxer⟩
    exact ⟨law, noMuxer, rfl⟩

/-- `hls_create` succeeds exactly when it leaves both a muxer and a
playlist. -/
theorem hlsCreate_muxer
    (config : Config) {state : State} (law : state.FeedLaw) :
    (hlsCreate config).wp
      (fun result after => after.FeedLaw ∧
        (result = 0 ↔
          after.ws.hls.isSome = true ∧ after.ws.m3u.isSome = true))
      FeedLaw state := by
  have logged : ∀ (before : State) succeeded, before.FeedLaw →
      (before.log (.called .alloc succeeded)).FeedLaw :=
    fun before succeeded =>
      FeedLaw.of_view (muxerView_folderStep _ _ (.called before _ succeeded))
  simp only [hlsCreate, wp_bind, wp_call, wp_setWs, wp_pure]
  refine ⟨law, fun m3u _ => ⟨logged _ _ law, fun hls _ => ⟨?_, ?_⟩⟩⟩
  · exact logged _ _ (logged _ _ law)
  · cases m3u.ok <;> cases hls.ok <;> simp

/-- Behind the making of the folder, `open_today` succeeds exactly when it leaves
both. -/
theorem openSegment_muxer
    (config : Config) {state : State} (gone : state.MuxerGone) :
    (openSegment config).wp
      (fun result after => after.FeedLaw ∧
        (result = 0 ↔
          after.ws.hls.isSome = true ∧ after.ws.m3u.isSome = true))
      FeedLaw state := by
  have failed : ∀ after : State, after.MuxerGone → after.FeedLaw ∧
      ((-1 : Int) = 0 ↔
        after.ws.hls.isSome = true ∧ after.ws.m3u.isSome = true) := by
    intro after gone
    refine ⟨gone.law, ?_⟩
    simp [gone.hls]
  have close : ∀ before : State, before.MuxerGone →
      (before.updateWs fun ws => { ws with eventDb := none }).MuxerGone :=
    fun before gone => ⟨gone.law, gone.hls, gone.m3u⟩
  rw [openSegment]
  refine wp_then (keeps_of_view eventDbOpen_within muxerView_dbStep
    MuxerGone.of_view (fun _ => MuxerGone.law) gone) ?_
  intro db state gone
  rw [wp_ite]
  split
  · exact failed state gone
  refine wp_then (keeps_of_view eventDbAddSegment_within muxerView_dbStep
    MuxerGone.of_view (fun _ => MuxerGone.law) gone) ?_
  intro id state gone
  rw [wp_bind, wp_setWs, wp_ite]
  split
  · exact failed _ (close _ ⟨gone.law, gone.hls, gone.m3u⟩)
  rw [wp_bind, resetSegment, wp_setWs]
  refine wp_then (hlsCreate_muxer config ?_) ?_
  · exact gone.law
  · rintro result state ⟨law, created⟩
    rw [wp_ite]
    split
    · rename_i nonzero
      refine ⟨law, ?_⟩
      change (-1 : Int) = 0 ↔
        state.ws.hls.isSome = true ∧ state.ws.m3u.isSome = true
      rw [← created]
      simp [nonzero]
    · rename_i zero
      refine ⟨law, ?_⟩
      rw [← created]
      simpa using zero

/-- `open_today` leaves a muxer and a playlist exactly when it succeeds. -/
theorem openToday_muxer
    (config : Config) {state : State} (gone : state.MuxerGone) :
    (openToday config).wp (fun _ => MuxerReady) FeedLaw state := by
  have begun : (state.log .opening).MuxerGone := by
    refine MuxerGone.of_view ?_ gone
    simp [muxerView, FeedsMuxer, PassesWhileOpened, lastOpened]
  rw [openToday, wp_bind, wp_log]
  refine wp_then (keeps_of_view openFolder_within muxerView_folderStep
    MuxerGone.of_view (fun _ => MuxerGone.law) begun) ?_
  intro folder state gone
  refine wp_then (wp_split (fun _ => ?_)
    fun _ => openSegment_muxer config gone) ?_
  · exact ⟨gone.law, by simp [gone.hls]⟩
  · rintro result state ⟨law, opened⟩
    refine ⟨?_, ?_⟩
    · simpa [FeedLaw, FeedsMuxer, PassesWhileOpened] using law
    · simpa [Muxed, lastOpened] using opened

theorem metaDbEnsureDay_muxer {state : State} (ready : state.MuxerReady) :
    metaDbEnsureDay.wp (fun _ => MuxerReady) FeedLaw state := by
  have noted : (state.log .ensureDay).MuxerReady := by
    refine MuxerReady.of_view ?_ ready
    simp [muxerView, FeedsMuxer, PassesWhileOpened, lastOpened]
  exact keeps_of_view (@insertDay_within EventDb.Marks) muxerView_statementStep
    MuxerReady.of_view (fun _ => MuxerReady.law) noted

/-- Rolling over restores the invariant from any state in which the law
holds. -/
theorem rolloverDay_muxer
    (config : Config) {state : State} (law : state.FeedLaw) :
    (rolloverDay config).wp (fun _ => MuxerReady) FeedLaw state := by
  rw [rolloverDay]
  refine wp_then (hlsFlushAndDestroy_muxer config law) ?_
  intro _ state gone
  refine wp_then (keeps_of_view eventDbUpdateTotalFrames_within
    muxerView_totalStep MuxerGone.of_view (fun _ => MuxerGone.law) gone) ?_
  intro _ state gone
  refine wp_then (keeps_of_view eventDbClose_within muxerView_dbStep
    MuxerGone.of_view (fun _ => MuxerGone.law) gone) ?_
  intro _ state gone
  refine wp_then (openToday_muxer config gone) ?_
  intro result state ready
  exact wp_then (wp_split (fun _ => metaDbEnsureDay_muxer ready)
    fun _ => ready) fun _ _ ready => ready

/-- Noticing a new day keeps the invariant. -/
theorem rolloverIfNewDay_muxer
    (config : Config) {state : State} (ready : state.MuxerReady) :
    (rolloverIfNewDay config).wp (fun _ => MuxerReady) FeedLaw state := by
  rw [rolloverIfNewDay]
  refine wp_then (keeps_of_view todayString_within muxerView_dbStep
    MuxerReady.of_view (fun _ => MuxerReady.law) ready) ?_
  intro today state ready
  have noted : (state.log (.ingest today.1 today.2)).MuxerReady := by
    refine MuxerReady.of_view ?_ ready
    simp [muxerView, FeedsMuxer, PassesWhileOpened, lastOpened]
  rw [wp_bind, wp_log, wp_bind, wp_current]
  refine wp_split (fun _ => ?_) fun _ => noted
  exact wp_then (rolloverDay_muxer config noted.law) fun _ _ ready => ready

/-- A frame passes the gate lawfully exactly when it finds both the muxer and
the playlist. -/
theorem passesGate_muxer
    (frame : FqFrame) {state : State} (ready : state.MuxerReady) :
    (passesGate frame).wp
      (fun passes after =>
        if passes then
          after.Muxed ∧
            (FeedsMuxer after.trace ∧ after.ws.hls.isSome = true ∧
                after.ws.m3u.isSome = true ↔
              PassesWhileOpened after.trace)
        else after.MuxerReady)
      FeedLaw state := by
  have muxed : (state.log (.gate frame.isKey)).Muxed := ready.muxed
  have passed : (state.ws.seenKeyframe || frame.isKey) = true →
      (FeedsMuxer (state.log (.gate frame.isKey)).trace ∧
          state.ws.hls.isSome = true ∧ state.ws.m3u.isSome = true ↔
        PassesWhileOpened (state.log (.gate frame.isKey)).trace) := by
    intro passes
    have law : FeedsMuxer state.trace ↔ PassesWhileOpened state.trace :=
      ready.law
    have muxed : lastOpened state.trace = true ↔
        state.ws.hls.isSome = true ∧ state.ws.m3u.isSome = true := ready.muxed
    have fed : FeedsMuxer (state.log (.gate frame.isKey)).trace ↔
        FeedsMuxer state.trace := by
      simp [FeedsMuxer]
    rw [fed, law, ← muxed]
    simp only [State.trace_log, PassesWhileOpened, Event.gate.injEq,
      forall_eq', passes, forall_const]
    exact and_comm
  simp only [passesGate, wp_bind, wp_log, wp_current, State.ws_log]
  refine wp_split (fun seen => ?_) fun unseen => ?_
  · exact ⟨muxed, passed (by simp [seen])⟩
  refine wp_split (fun notKey => ?_) fun isKey => ?_
  · simp only [Bool.not_eq_true', Bool.not_eq_true] at notKey unseen
    refine ⟨?_, muxed⟩
    have law : FeedsMuxer state.trace ↔ PassesWhileOpened state.trace :=
      ready.law
    simpa [FeedLaw, FeedsMuxer, PassesWhileOpened, notKey, unseen] using law
  · exact ⟨muxed, passed (by simpa using Or.inr isKey)⟩

/-- Feeding a frame that passed the gate restores the invariant. -/
theorem feedMuxer_muxer
    (config : Config) (frame : FqFrame) {state : State}
    (muxed : state.Muxed)
    (passed : FeedsMuxer state.trace ∧ state.ws.hls.isSome = true ∧
      state.ws.m3u.isSome = true ↔ PassesWhileOpened state.trace) :
    (feedMuxer config frame).wp (fun _ => MuxerReady) FeedLaw state := by
  rw [feedMuxer, wp_bind, wp_divide_of_ne (by decide)]
  simp only [wp_bind, wp_setWs, wp_log]
  have ready : (((state.log (.divides 1000)).updateWs fun ws =>
      { ws with ptsMs := frame.ptsUs.tdiv 1000 }).log
        (.fed frame)).MuxerReady := by
    refine ⟨?_, muxed⟩
    have fed : FeedsMuxer (⟨.fed frame, { state.ws with
          ptsMs := frame.ptsUs.tdiv 1000 }, state.disk⟩ ::
          (state.log (.divides 1000)).trace) ↔
        FeedsMuxer state.trace ∧ state.ws.hls.isSome = true ∧
          state.ws.m3u.isSome = true := by
      simp [FeedsMuxer, and_comm]
    have passes : PassesWhileOpened (⟨.fed frame, { state.ws with
          ptsMs := frame.ptsUs.tdiv 1000 }, state.disk⟩ ::
          (state.log (.divides 1000)).trace) ↔
        PassesWhileOpened state.trace := by
      simp [PassesWhileOpened]
    exact fed.trans (passed.trans passes.symm)
  refine wp_mono (keeps_of_view (hlsMediaInput_within _ _ _ _ _)
    muxerView_hlsStep MuxerReady.of_view (fun _ => MuxerReady.law) ready)
    (fun _ after ready => ⟨ready.law, ready.muxed⟩) fun _ law => law

/-- Ingesting a frame keeps the invariant. -/
theorem ingestFrame_muxer
    (config : Config) (frame : FqFrame) (state : State)
    (ready : state.MuxerReady) :
    (ingestFrame config frame).wp (fun _ => MuxerReady) FeedLaw state := by
  rw [ingestFrame]
  refine wp_then (rolloverIfNewDay_muxer config ready) fun _ state ready => ?_
  refine wp_then (passesGate_muxer frame ready) fun passes state gate => ?_
  cases passes with
  | false => exact gate
  | true =>
      obtain ⟨muxed, passed⟩ := gate
      refine wp_then (feedMuxer_muxer config frame muxed passed)
        fun _ state ready => ?_
      refine wp_then (keeps_of_view (recordProgress_within config)
        muxerView_progressStep MuxerReady.of_view
        (fun _ => MuxerReady.law) ready) fun _ state ready => ?_
      exact keeps_of_view (checkAndCleanup_within config)
        muxerView_retentionStep MuxerReady.of_view
        (fun _ => MuxerReady.law) ready

/-- Booting establishes the invariant. -/
theorem writerBoot_muxer
    (config : Config) (state : State) (law : state.FeedLaw) :
    (writerBoot config).wp
      (fun succeeded after =>
        if succeeded then after.MuxerReady else after.FeedLaw)
      FeedLaw state.restart := by
  have gone : state.restart.MuxerGone := by
    refine ⟨?_, rfl, rfl⟩
    simpa [State.restart, FeedLaw, FeedsMuxer, PassesWhileOpened] using law
  rw [writerBoot]
  refine wp_then (openToday_muxer config gone) fun opened state ready => ?_
  refine wp_split (fun _ => ready.law) fun _ => ?_
  refine wp_then (keeps_of_view metaDbInit_within muxerView_dbStep
    MuxerReady.of_view (fun _ => MuxerReady.law) ready)
    fun initialised state ready => ?_
  refine wp_split (fun _ => ?_) fun _ => ?_
  · refine wp_then (hlsFlushAndDestroy_muxer config ready.law)
      fun _ state gone => ?_
    exact gone.law
  · exact wp_then (metaDbEnsureDay_muxer ready) fun _ _ ready => ready

/-- Stopping keeps the law. -/
theorem writerStop_muxer
    (config : Config) (state : State) (ready : state.MuxerReady) :
    (writerStop config).wp (fun _ => FeedLaw) FeedLaw state := by
  rw [writerStop]
  refine wp_then (hlsFlushAndDestroy_muxer config ready.law)
    fun _ state gone => ?_
  refine wp_then (keeps_of_view eventDbUpdateTotalFrames_within
    muxerView_totalStep MuxerGone.of_view (fun _ => MuxerGone.law) gone)
    fun _ state gone => ?_
  exact gone.law

end Storage

/-- In every history of the writer, `ingest_frame` feeds a muxer and a playlist
that are there exactly when no frame passes the keyframe gate while the most
recent `open_today` has failed. -/
theorem writer_feeds_muxer_iff
    (config : Config) {phase : Daemon.Phase} {state : State}
    (reached : (writer config).Reach State.Unused phase state) :
    FeedsMuxer state.trace ↔ PassesWhileOpened state.trace := by
  have starts : ∀ first : State, first.Unused → first.FeedLaw := by
    intro first unused
    rw [State.FeedLaw, unused]
    simp [FeedsMuxer, PassesWhileOpened]
  exact Daemon.Reach.everywhere (fun _ ready => State.MuxerReady.law ready)
    starts (Storage.writerBoot_muxer config) (Storage.ingestFrame_muxer config)
    (Storage.writerStop_muxer config) reached

/-- A frame, a rollover that cannot make its folder, and a frame for a muxer
that is not there. -/
theorem writer_feeds_missing_muxer :
    let frames : List FqFrame :=
      [⟨some ⟨0, [1]⟩, 1, true, 0⟩, ⟨some ⟨1, [2]⟩, 1, false, 40000⟩]
    let works : Choice := {}
    let fails : Choice := { ok := false, tm := { mday := 2, yday := 1 } }
    let state := (((writer {}).life frames).run (State.restart {})
      (List.replicate 24 works ++ List.replicate 40 fails)).state
    (writer {}).Reach State.Unused .off state ∧ ¬ FeedsMuxer state.trace :=
  ⟨@Daemon.Reach.life _ _ _ (writer {}) State.Unused {} (.initial rfl) _ _,
    by decide +kernel⟩

/-- A writer that boots and takes one keyframe. -/
theorem writer_feeds_muxer_iff_one_frame :
    let frames : List FqFrame := [⟨some ⟨0, [1]⟩, 1, true, 0⟩]
    let works : Choice := {}
    let state := (((writer {}).life frames).run (State.restart {})
      (List.replicate 30 works)).state
    FeedsMuxer state.trace ↔ PassesWhileOpened state.trace :=
  writer_feeds_muxer_iff {}
    (@Daemon.Reach.life _ _ _ (writer {}) State.Unused {} (.initial rfl) _ _)

end MotionSense
