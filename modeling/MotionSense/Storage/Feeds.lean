import MotionSense.Storage.Rounds

/-!
# Frames that a failed segment write swallows

`hls_media_input` hands the finished segment to `hls_cb` before it adds the frame
that ends it, and when `hls_cb` fails it returns without adding the frame.
`ingest_frame` counts the frame all the same, and the frames that depend on it are
added to the segment that could not be written.
-/

namespace MotionSense

/-! ## What the record says about the current muxer -/

/-- The frames given to the current muxer, newest first, each with whether it was
added to a segment. -/
def givenFrames : List Moment → List (FqFrame × Bool)
  | [] => []
  | moment :: older =>
      match moment.event with
      | .started | .opening => []
      | .fed frame => (frame, false) :: givenFrames older
      | .appended _ =>
          match givenFrames older with
          | [] => []
          | (frame, _) :: earlier => (frame, true) :: earlier
      | _ => givenFrames older

/-- Since the current muxer was created, no call of `hls_cb` has failed, and every
frame given to it carries data, as `fq_push` sees to. -/
def undisturbed : List Moment → Bool
  | [] => true
  | moment :: older =>
      match moment.event with
      | .started | .opening => true
      | .fed frame => frame.payload.isSome && undisturbed older
      | .cutDone result => decide (result = 0) && undisturbed older
      | _ => undisturbed older

/-- Every frame that was added and is no keyframe follows directly after the frame
given to the muxer just before it. -/
def Linked : List (FqFrame × Bool) → Prop
  | [] => True
  | [first] => first.2 = true → first.1.isKey = true
  | later :: earlier :: rest =>
      (later.2 = true → later.1.isKey = false → earlier.2 = true) ∧
        Linked (earlier :: rest)

/-- The number of frames that were added. -/
def appendedCount (given : List (FqFrame × Bool)) : Nat :=
  given.countP fun feed => feed.2

/-- No frame is swallowed: the writer counts the frames that its muxer has added,
and every one but the keyframes follows the frame before it. -/
def KeepsFrames (state : State) : Prop :=
  state.ws.frameCount = appendedCount (givenFrames state.trace) ∧
    Linked (givenFrames state.trace)

instance decidableLinked :
    (given : List (FqFrame × Bool)) → Decidable (Linked given)
  | [] => inferInstanceAs (Decidable True)
  | [first] =>
      inferInstanceAs (Decidable (first.2 = true → first.1.isKey = true))
  | later :: earlier :: rest =>
      have := decidableLinked (earlier :: rest)
      inferInstanceAs (Decidable ((later.2 = true → later.1.isKey = false →
        earlier.2 = true) ∧ Linked (earlier :: rest)))

instance (state : State) : Decidable (KeepsFrames state) :=
  inferInstanceAs (Decidable (_ ∧ _))

/-- When every frame was added and the first one is a keyframe, each follows the
one before it. -/
theorem linked_of_all
    {given : List (FqFrame × Bool)}
    (added : ∀ feed ∈ given, feed.2 = true)
    (first : ∀ feed ∈ given.getLast?, feed.1.isKey = true) :
    Linked given := by
  induction given with
  | nil => trivial
  | cons later rest inductionHypothesis =>
      cases rest with
      | nil => exact fun _ => first later rfl
      | cons earlier rest =>
          refine ⟨fun _ _ => added earlier
            (List.mem_cons_of_mem _ List.mem_cons_self), ?_⟩
          apply inductionHypothesis
          · exact fun feed member => added feed (List.mem_cons_of_mem _ member)
          · intro feed last
            exact first feed (by rw [List.getLast?_cons_cons]; exact last)

/-- What these statements look at. -/
@[ext]
structure FeedView where
  given : List (FqFrame × Bool)
  undisturbed : Bool
  present : Bool
  frameCount : Nat
  seen : Bool

/-- The view of the current muxer. -/
def State.feedView (state : State) : FeedView where
  given := givenFrames state.trace
  undisturbed := MotionSense.undisturbed state.trace
  present := state.ws.hls.isSome
  frameCount := state.ws.frameCount
  seen := state.ws.seenKeyframe

namespace FeedView

/-- A call of `hls_cb` has failed. -/
def disturb (view : FeedView) : FeedView :=
  { view with undisturbed := false }

/-- A frame has been given to the muxer, and added or not. -/
def feed (view : FeedView) (frame : FqFrame) (added : Bool) : FeedView :=
  { view with
    given := (frame, added) :: view.given
    undisturbed := view.undisturbed && added
    frameCount := view.frameCount + 1 }

/-- The current muxer counts every frame, all were added unless it was disturbed,
and the first one is a keyframe. -/
structure Tallied (view : FeedView) : Prop where
  count : view.frameCount = view.given.length
  added : view.undisturbed = view.given.all fun feed => feed.2
  seen : view.seen = !view.given.isEmpty
  first : ∀ feed ∈ view.given.getLast?, feed.1.isKey = true

theorem Tallied.feed
    {view : FeedView} (tallied : view.Tallied)
    {frame : FqFrame} (key : view.given = [] → frame.isKey = true)
    (added : Bool) :
    ({ view with seen := true }.feed frame added).Tallied where
  count := by
    change view.frameCount + 1 = _
    rw [tallied.count]
    rfl
  added := by
    change (view.undisturbed && added) = (added && view.given.all _)
    rw [tallied.added, Bool.and_comm]
  seen := rfl
  first := by
    change ∀ feed ∈ ((frame, added) :: view.given).getLast?, _
    cases given : view.given with
    | nil =>
        rintro feed last
        cases Option.mem_some_iff.mp last
        exact key given
    | cons earlier rest =>
        rw [List.getLast?_cons_cons, ← given]
        exact tallied.first

/-- The frames are counted as they were added exactly when nothing went wrong. -/
theorem Tallied.keeps_iff
    {view : FeedView} (tallied : view.Tallied) :
    (view.frameCount = appendedCount view.given ∧ Linked view.given) ↔
      view.undisturbed = true := by
  rw [tallied.count, tallied.added, List.all_eq_true]
  constructor
  · rintro ⟨count, _⟩
    exact List.countP_eq_length.mp count.symm
  · intro added
    exact ⟨(List.countP_eq_length.mpr added).symm,
      linked_of_all added tallied.first⟩

end FeedView

/-! ## Steps that the view does not see -/

/-- The current muxer looks the same. -/
def SameMuxer (before after : State) : Prop :=
  after.feedView = before.feedView

theorem sameMuxer_statementStep
    {writes : (EventDb → EventDb) → Prop}
    (before after : State) (step : StatementStep writes before after) :
    SameMuxer before after := by
  cases step <;> rfl

theorem sameMuxer_totalStep
    (before after : State) (step : TotalStep before after) :
    SameMuxer before after := by
  cases step <;> rfl

theorem sameMuxer_progressStep
    (before after : State) (step : ProgressStep before after) :
    SameMuxer before after := by
  cases step with
  | marks step =>
      cases step with
      | statement step => exact sameMuxer_statementStep _ _ step
      | _ => rfl
  | total step => exact sameMuxer_totalStep _ _ step
  | _ => rfl

theorem sameMuxer_retentionStep
    (before after : State) (step : RetentionStep before after) :
    SameMuxer before after := by
  cases step <;> rfl

theorem sameMuxer_dbStep
    (before after : State) (step : DbStep before after) :
    SameMuxer before after := by
  cases step with
  | statement step => exact sameMuxer_statementStep _ _ step
  | _ => rfl

theorem sameMuxer_folderStep
    (before after : State) (step : FolderStep before after) :
    SameMuxer before after := by
  cases step <;> rfl

namespace Storage

open Program

variable (config : Config)

/-- A program whose steps the view does not see leaves it. -/
theorem view_of_within
    {program : Storage α} (within : program.Within SameMuxer)
    (state : State) :
    program.wp (fun _ after => after.feedView = state.feedView)
      (fun _ => True) state :=
  wp_mono (within.preserves (fun _ _ same => same) state)
    (fun _ _ same => same) fun _ _ => trivial

theorem writeFileAtomic_sameMuxer
    (dir : SegmentDir) (name : CString) (data : FileData) :
    (writeFileAtomic dir name data).Within SameMuxer :=
  writeFileAtomic_within_of (fun _ _ _ => rfl) (fun _ => rfl) fun _ => rfl

/-! ## Giving a frame to the muxer -/

/-- The frame given last has been added. -/
theorem feedView_appended (state : State) (frame : FqFrame) :
    (state.log (.appended frame)).feedView =
      { state.feedView with
        given :=
          match state.feedView.given with
          | [] => []
          | (given, _) :: earlier => (given, true) :: earlier } := rfl

/-- The view after a call that may fail. -/
def viewAfter (result : Int) (view : FeedView) : FeedView :=
  if result = 0 then view else view.disturb

/-- `hls_cb` disturbs the muxer when it fails. -/
theorem hlsCb_view
    (frames : List FqFrame) (pts dts duration : Int) (state : State) :
    (hlsCb config frames pts dts duration).wp
      (fun result after =>
        after.feedView = viewAfter result state.feedView)
      (fun _ => True) state := by
  rw [hlsCb, wp_bind, wp_log, wp_bind, wp_current, wp_bind, wp_modify,
    wp_bind, wp_setWs]
  simp only [State.ws_log]
  cases state.ws.m3u with
  | none => trivial
  | some entries =>
      simp only
      rw [wp_bind, wp_setWs]
      refine wp_then (view_of_within (writeFileAtomic_sameMuxer _ _ _) _)
        fun media reached same => ?_
      have failed : (reached.log (.cutDone (-1))).feedView =
          viewAfter (-1) state.feedView := by
        change reached.feedView.disturb = _
        rw [same]
        rfl
      refine wp_split (fun _ => failed) fun _ => ?_
      refine wp_then (view_of_within (writeFileAtomic_sameMuxer _ _ _) _)
        fun index last again => ?_
      refine wp_split (fun _ => ?_) fun _ => ?_
      · change last.feedView.disturb = _
        rw [again, same]
        rfl
      · change last.feedView = _
        rw [again, same]
        rfl

/-- A new segment begins unless `hls_cb` fails on the one before it. -/
theorem hlsNewSegment_view
    (hls : HlsMedia) (payload : Option FqFrame) (pts dts : Int)
    (state : State) :
    (hlsNewSegment config hls payload pts dts).wp
      (fun result after =>
        after.feedView = viewAfter result state.feedView)
      (fun _ => True) state := by
  rw [hlsNewSegment]
  refine wp_via (fun result (after : State) =>
    after.feedView = viewAfter result state.feedView)
    (wp_split (fun _ => hlsCb_view config _ _ _ _ state) fun _ => rfl)
    fun result reached same => ?_
  refine wp_split (fun _ => same) fun success => ?_
  rw [wp_bind, wp_setWs]
  rw [not_not.mp success] at same
  change ({ reached.feedView with
    present := (reached.ws.hls.map _).isSome } : FeedView) = _
  rw [Option.isSome_map]
  exact same

/-- `hls_media_input` on a frame that was just recorded as given. -/
theorem hlsMediaInput_view
    (frame : FqFrame) (pts dts : Int) (isKey : Bool)
    {state : State} {view : FeedView}
    (given : state.feedView = { view with
      given := (frame, false) :: view.given
      undisturbed := frame.payload.isSome && view.undisturbed }) :
    (hlsMediaInput config frame.payload pts dts isKey).wp
      (fun _ after => ∃ added, after.feedView = { view with
        given := (frame, added) :: view.given
        undisturbed := view.undisturbed && added })
      (fun _ => True) state := by
  rw [hlsMediaInput, wp_bind, wp_current]
  cases state.ws.hls with
  | none => trivial
  | some hls =>
      refine wp_via (fun result (after : State) =>
        after.feedView = viewAfter result state.feedView)
        (wp_split (fun _ => hlsNewSegment_view config hls _ _ _ state)
          fun _ => rfl) fun result reached same => ?_
      apply wp_split
      · -- The frame is lost: `hls_cb` has failed on the segment before it.
        intro failed
        refine ⟨false, ?_⟩
        rw [viewAfter, if_neg failed, given] at same
        rw [same, FeedView.disturb, Bool.and_false]
      intro success
      rw [viewAfter, if_pos (not_not.mp success), given] at same
      rw [wp_bind, wp_answer]
      refine ⟨trivial, fun written => ?_⟩
      rw [wp_bind, wp_setWs]
      have written : (reached.updateWs fun ws =>
          { ws with
            hls := ws.hls.map fun hls =>
              { hls with audioOnlyFlag := false, dtsLast := dts }.write
                frame.payload written.packets }).feedView =
          reached.feedView := by
        change ({ reached.feedView with
          present := (reached.ws.hls.map _).isSome } : FeedView) = _
        rw [Option.isSome_map]
        rfl
      rw [same] at written
      rw [wp_bind]
      apply wp_noteAppended
      · intro noData
        refine ⟨false, ?_⟩
        rw [written, noData, Bool.and_false]
        rfl
      · intro data hasData
        refine ⟨true, ?_⟩
        rw [feedView_appended, written, hasData, Bool.and_true]
        rfl

/-- `ingest_frame` gives a frame to the muxer and counts it, added or not. -/
theorem feedMuxer_view (frame : FqFrame) (state : State) :
    (feedMuxer config frame).wp
      (fun _ after => ∃ added,
        after.feedView = state.feedView.feed frame added)
      (fun _ => True) state := by
  rw [feedMuxer, wp_bind, wp_divide_of_ne (by decide), wp_bind, wp_setWs,
    wp_bind, wp_log]
  refine wp_then (@hlsMediaInput_view config frame _ _ _ _ state.feedView rfl)
    ?_
  rintro _ reached ⟨added, same⟩
  refine ⟨added, ?_⟩
  change { reached.feedView with
    frameCount := reached.feedView.frameCount + 1 } = _
  rw [same]
  rfl

/-! ## Opening a muxer -/

/-- If there is a muxer, it is as after its creation. -/
def Fresh (view : FeedView) : Prop :=
  view.present = true → view =
    { given := [], undisturbed := true, present := true, frameCount := 0
      seen := false }

theorem Fresh.tallied
    {view : FeedView} (fresh : Fresh view) (present : view.present = true) :
    view.Tallied := by
  rw [fresh present]
  exact ⟨rfl, rfl, rfl, nofun⟩

/-- No muxer is left, and nothing was given to one since. -/
structure Closed (view : FeedView) : Prop where
  given : view.given = []
  undisturbed : view.undisturbed = true
  present : view.present = false

theorem Closed.fresh {view : FeedView} (closed : Closed view) : Fresh view := by
  intro present
  rw [closed.present] at present
  exact absurd present Bool.false_ne_true

theorem hlsCreate_fresh
    {state : State}
    (reset : state.feedView =
      { given := [], undisturbed := true, present := false, frameCount := 0
        seen := false }) :
    (hlsCreate config).wp (fun _ after => Fresh after.feedView)
      (fun _ => True) state := by
  rw [hlsCreate, wp_bind, wp_call]
  refine ⟨trivial, fun m3u _ => ?_⟩
  rw [wp_bind, wp_setWs, wp_bind, wp_call]
  refine ⟨trivial, fun hls _ => ?_⟩
  rw [wp_bind, wp_setWs]
  intro present
  have given : givenFrames state.trace = [] :=
    congrArg FeedView.given reset
  have calm : undisturbed state.trace = true :=
    congrArg FeedView.undisturbed reset
  have count : state.ws.frameCount = 0 := congrArg FeedView.frameCount reset
  have seen : state.ws.seenKeyframe = false := congrArg FeedView.seen reset
  exact FeedView.ext given calm present count seen

theorem openSegment_fresh
    {state : State} (closed : Closed state.feedView) :
    (openSegment config).wp (fun _ after => Fresh after.feedView)
      (fun _ => True) state := by
  rw [openSegment]
  refine wp_then (view_of_within (eventDbOpen_within.mono sameMuxer_dbStep) _)
    fun db state same => ?_
  rw [← same] at closed
  refine wp_split (fun _ => closed.fresh) fun _ => ?_
  refine wp_then (view_of_within (eventDbAddSegment_within.mono
    sameMuxer_dbStep) _) fun id state same => ?_
  rw [← same] at closed
  rw [wp_bind, wp_setWs]
  refine wp_split (fun _ => closed.fresh) fun _ => ?_
  rw [wp_bind, resetSegment, wp_setWs]
  refine wp_then (hlsCreate_fresh config ?_) fun hls state fresh => ?_
  · exact FeedView.ext closed.given closed.undisturbed closed.present rfl rfl
  · exact wp_split (fun _ => fresh) fun _ => fresh

/-- `open_today`, with no muxer left, makes a new one or none. -/
theorem openToday_fresh
    {state : State} (noMuxer : state.ws.hls = none) :
    (openToday config).wp (fun _ after => Fresh after.feedView)
      (fun _ => True) state := by
  have closed : Closed (state.log .opening).feedView :=
    ⟨rfl, rfl, Option.isSome_eq_false_iff.mpr (by rw [State.ws_log, noMuxer]; rfl)⟩
  rw [openToday, wp_bind, wp_log]
  refine wp_then (view_of_within (openFolder_within.mono
    sameMuxer_folderStep) _) fun folder reached same => ?_
  rw [← same] at closed
  exact wp_via (fun _ (after : State) => Fresh after.feedView)
    (wp_split (fun _ => closed.fresh) fun _ => openSegment_fresh config closed)
    fun result last fresh => fresh

/-- No muxer is left after `hls_flush_and_destroy`. -/
theorem hlsFlushAndDestroy_none (state : State) :
    (hlsFlushAndDestroy config).wp (fun _ after => after.ws.hls = none)
      (fun _ => True) state := by
  rw [hlsFlushAndDestroy, wp_bind, wp_current]
  refine wp_via (fun _ (after : State) => after.ws.hls = none) ?_
    fun _ reached none => none
  apply wp_split
  · intro _
    rw [hlsFlush]
    exact wp_then (wp_true _ _) fun _ _ _ => rfl
  · exact fun absent => Option.isNone_iff_eq_none.mp (by simpa using absent)

theorem metaDbEnsureDay_sameMuxer : metaDbEnsureDay.Within SameMuxer :=
  Within.bind (Within.modify fun _ => rfl) fun _ =>
    @insertDay_within (fun _ => False) |>.mono sameMuxer_statementStep

/-- A rollover ends with a new muxer or none. -/
theorem rolloverDay_fresh (state : State) :
    (rolloverDay config).wp (fun _ after => Fresh after.feedView)
      (fun _ => True) state := by
  rw [rolloverDay]
  refine wp_then (hlsFlushAndDestroy_none config state)
    fun _ state noMuxer => ?_
  have kept := @Within.preserves _ _ _ _ _ _ eventDbUpdateTotalFrames_within
    (fun state => state.ws.hls)
    (fun _ _ step => by cases step <;> rfl) state
  refine wp_then (wp_mono kept (fun _ _ same => same) fun _ _ => trivial)
    fun _ reached same => ?_
  rw [wp_bind, eventDbClose, wp_setWs]
  refine wp_then (openToday_fresh config (same.trans noMuxer))
    fun result reached fresh => ?_
  refine wp_then (view_of_within (Within.ite (fun _ =>
    metaDbEnsureDay_sameMuxer) fun _ => Within.pure _) reached)
    fun _ last same => ?_
  rw [wp_pure, same]
  exact fresh

/-! ## The writer -/

/-- The current muxer, if there is one, has its frames counted. -/
def Counts (state : State) : Prop :=
  state.feedView.present = true → state.feedView.Tallied

theorem rolloverIfNewDay_counts
    {state : State} (counts : Counts state) :
    (rolloverIfNewDay config).wp (fun _ => Counts) (fun _ => True) state := by
  rw [rolloverIfNewDay, wp_bind, todayString, wp_bind, wp_answer]
  refine ⟨trivial, fun today => ?_⟩
  rw [wp_pure, wp_bind, wp_log, wp_bind, wp_current]
  apply wp_split
  · intro _
    refine wp_then (rolloverDay_fresh config _) fun _ reached fresh => ?_
    exact fresh.tallied
  · exact fun _ => counts

/-- A frame that passes the gate is counted with the muxer's first keyframe, or
behind it. -/
theorem passesGate_counts
    (frame : FqFrame) {state : State} (counts : Counts state) :
    (passesGate frame).wp
      (fun passes after =>
        if passes then ∃ view : FeedView,
          after.feedView = { view with seen := true } ∧
          (view.present = true → view.Tallied ∧
            (view.given = [] → frame.isKey = true))
        else Counts after)
      (fun _ => True) state := by
  rw [passesGate, wp_bind, wp_log, wp_bind, wp_current]
  apply wp_split
  · intro seen
    refine ⟨state.feedView, ?_, fun present => ⟨counts present, ?_⟩⟩
    · exact FeedView.ext rfl rfl rfl rfl seen
    · intro none
      have noFrames := (counts present).seen.symm.trans seen
      rw [none] at noFrames
      exact absurd noFrames Bool.false_ne_true
  intro _
  apply wp_split
  · exact fun _ => counts
  · intro key
    exact ⟨state.feedView, rfl, fun present =>
      ⟨counts present, fun _ => by simpa using key⟩⟩

/-- `ingest_frame` keeps the frames counted. -/
theorem ingestFrame_counts
    (frame : FqFrame) {state : State} (counts : Counts state) :
    (ingestFrame config frame).wp (fun _ => Counts) (fun _ => True) state := by
  rw [ingestFrame]
  refine wp_then (rolloverIfNewDay_counts config counts)
    fun _ state counts => ?_
  refine wp_then (passesGate_counts frame counts) fun passes state passed => ?_
  cases passes with
  | false => exact passed
  | true =>
      obtain ⟨view, same, tallied⟩ := passed
      refine wp_then (feedMuxer_view config frame state) ?_
      rintro _ state ⟨added, given⟩
      have counts : Counts state := by
        intro present
        rw [given, same] at present ⊢
        have known := tallied present
        exact known.1.feed known.2 added
      have later : ∀ {program : Storage Unit} {before : State},
          program.Within SameMuxer → Counts before →
            program.wp (fun _ => Counts) (fun _ => True) before := by
        intro program before within counts
        refine wp_mono (view_of_within within before) ?_ fun _ _ => trivial
        intro _ after same
        rw [Counts, same]
        exact counts
      refine wp_then (later ((recordProgress_within config).mono
        sameMuxer_progressStep) counts) fun _ state counts => ?_
      exact later ((checkAndCleanup_within config).mono
        sameMuxer_retentionStep) counts

/-- A start leaves a new muxer or none. -/
theorem writerBoot_counts (state : State) :
    (writerBoot config).wp
      (fun succeeded after => if succeeded then Counts after else True)
      (fun _ => True) state.restart := by
  rw [writerBoot]
  refine wp_then (openToday_fresh config rfl) fun opened state fresh => ?_
  refine wp_split (fun _ => trivial) fun _ => ?_
  refine wp_then (view_of_within (metaDbInit_within.mono sameMuxer_dbStep)
    state) fun ready after same => ?_
  rw [← same] at fresh
  apply wp_split
  · intro _
    refine wp_then (wp_true _ _) fun _ state _ => ?_
    exact wp_then (wp_true _ _) fun _ state _ => trivial
  · intro _
    refine wp_then (view_of_within metaDbEnsureDay_sameMuxer after) ?_
    intro _ last same
    rw [← same] at fresh
    exact fresh.tallied

end Storage

/-- Whenever the writer waits for a frame, its muxer's frames are counted. -/
theorem writer_counts_feeds
    (config : Config) {state : State}
    (reached : (writer config).Reach State.Unused .ready state) :
    Storage.Counts state :=
  @Daemon.Reach.invariant _ _ _ (writer config) State.Unused
    (fun _ => True) Storage.Counts (fun _ _ => trivial)
    (fun last _ => Storage.writerBoot_counts config last)
    (fun frame _ counts => Storage.ingestFrame_counts config frame counts)
    (fun _ _ => Program.wp_true _ _) .ready state reached

/-- In every history, whenever the writer waits for a frame and has a muxer, its
count is that of the frames added by this muxer, and every one of them but the
keyframes follows the frame before it, exactly when no call of `hls_cb` has
failed since the muxer was created and every frame given to it carried data. -/
theorem keeps_frames_iff
    (config : Config) {state : State}
    (reached : (writer config).Reach State.Unused .ready state)
    (current : state.ws.hls.isSome = true) :
    KeepsFrames state ↔ undisturbed state.trace = true :=
  (writer_counts_feeds config reached current).keeps_iff

/-- The segment before the second keyframe cannot be written.  The keyframe is
lost, and the frame that depends on it is added. -/
theorem failed_write_swallows_keyframe :
    let key : FqFrame :=
      { data := some ⟨0, [0]⟩, len := 1, isKey := true, ptsUs := 0 }
    let other : FqFrame := { key with isKey := false }
    let start := ((writer {}).boot.run (State.restart {})
      (List.replicate 40 ({} : Choice))).state
    let first := (((writer {}).serve key).run start
      (List.replicate 40 ({} : Choice))).state
    let second := (((writer {}).serve key).run first
      (List.replicate 40 { ok := false })).state
    let state := (((writer {}).serve other).run second
      (List.replicate 40 ({} : Choice))).state
    (writer {}).Reach State.Unused .ready state ∧
      state.ws.hls.isSome = true ∧
      givenFrames state.trace =
        [(other, true), (key, false), (key, true)] ∧
      ¬KeepsFrames state := by
  intro key other start first second state
  have booted : (writer {}).Reach State.Unused .ready start :=
    Daemon.Reach.booted
      (@Daemon.Reach.initial _ _ _ (writer {}) State.Unused {} rfl)
      (by decide +kernel)
  have reached : (writer {}).Reach State.Unused .ready second :=
    Daemon.Reach.served (Daemon.Reach.served booted (by decide +kernel))
      (by decide +kernel)
  exact ⟨Daemon.Reach.served reached (by decide +kernel), by decide +kernel,
    by decide +kernel, by decide +kernel⟩

/-- A keyframe and a frame behind it, with no failure. -/
theorem keeps_frames_iff_two_frames :
    let key : FqFrame :=
      { data := some ⟨0, [0]⟩, len := 1, isKey := true, ptsUs := 0 }
    let start := ((writer {}).boot.run (State.restart {})
      (List.replicate 40 ({} : Choice))).state
    let first := (((writer {}).serve key).run start
      (List.replicate 40 ({} : Choice))).state
    let state := (((writer {}).serve { key with isKey := false }).run first
      (List.replicate 40 ({} : Choice))).state
    KeepsFrames state := by
  intro key start first state
  have booted : (writer {}).Reach State.Unused .ready start :=
    Daemon.Reach.booted
      (@Daemon.Reach.initial _ _ _ (writer {}) State.Unused {} rfl)
      (by decide +kernel)
  have reached : (writer {}).Reach State.Unused .ready state :=
    Daemon.Reach.served (Daemon.Reach.served booted (by decide +kernel))
      (by decide +kernel)
  exact (keeps_frames_iff {} reached (by decide +kernel)).mpr
    (by decide +kernel)

end MotionSense
