import MotionSense.Storage.Writer

/-!
# What the writer's parts do, one step at a time

These step relations say everything that the making of folders, the muxer, the
databases, the accounting of a frame and retention can do to the writer, the
card and the record, in whatever order and however they are cut short.  A predicate closed
under the steps is kept by the functions, so an invariant need not look inside
them.
-/

namespace MotionSense

/-- The record of a call. -/
inductive CallStep : State → State → Prop
  | called (state : State) (kind : Call) (succeeded : Bool) :
      CallStep state (state.log (.called kind succeeded))

/-- One step of making the folder of a segment. -/
inductive FolderStep : State → State → Prop
  | called (state : State) (kind : Call) (succeeded : Bool) :
      FolderStep state (state.log (.called kind succeeded))
  | enter (state : State) (date : CString) (yday : Nat) :
      FolderStep state (state.updateWs fun ws =>
        { ws with date, dayOfYear := yday, dateDir := date })
  | mkdir (state : State) (dir : Dir)
      (parent : state.disk.parentExists dir = true)
      (new : state.disk.exists? dir = false) :
      FolderStep state
        ((state.updateDisk fun disk => disk.mkdir dir).log (.made dir))
  | place (state : State) (index : Nat) (dir : SegmentDir) :
      FolderStep state (state.updateWs fun ws =>
        { ws with interruptIdx := index, segmentDir := dir })
  | placed (state : State) :
      FolderStep state (state.log .placed)

/-- A step of writing a file has failed. -/
def Event.writeFailed : Event → Bool
  | .called kind succeeded =>
      !succeeded && [Call.writeFile, .rename, .fsyncDir].contains kind
  | _ => false

/-- The last thing that happened is that a step of writing a file failed. -/
def State.LostWrite (state : State) : Prop :=
  ∃ moment ∈ state.trace.head?, moment.event.writeFailed = true

/-- Whether the muxer and its playlist are there, and the folder that their files
go to. -/
def State.outlet (state : State) : Bool × Bool × SegmentDir :=
  (state.ws.hls.isSome, state.ws.m3u.isSome, state.ws.segmentDir)

/-- One step of the muxer and its handler.  The muxer and the playlist are
changed, but neither comes into being nor goes; they replace files of the current
folder, and `hls_cb` fails for a file that was not written. -/
inductive HlsStep : State → State → Prop
  | called (state : State) (kind : Call) (succeeded : Bool) :
      HlsStep state (state.log (.called kind succeeded))
  | cut (state : State) (frames : List FqFrame) :
      HlsStep state (state.log (.cut frames))
  | lastDts (state : State) (dts : Int) :
      HlsStep state { state with lastDts := dts }
  | nextName (state : State) :
      HlsStep state (state.updateWs fun ws => { ws with tsIdx := ws.tsIdx + 1 })
  | addEntry (state : State) (entry : PlaylistEntry) :
      HlsStep state (state.updateWs fun ws =>
        { ws with m3u := ws.m3u.map fun added => added ++ [entry] })
  | replaced (state : State) (dir : SegmentDir) (name : CString)
      (data : FileData) (outlet : state.outlet = (true, true, dir)) :
      HlsStep state
        ((state.updateDisk fun disk => disk.putFile dir name data).log
          (.renamed name data))
  | cutFailed (state : State) (result : Int) (failed : result ≠ 0)
      (lost : state.LostWrite) :
      HlsStep state (state.log (.cutDone result))
  | cutDone (state : State) :
      HlsStep state ((state.updateWs fun ws =>
        { ws with tsSinceCleanup := ws.tsSinceCleanup + 1 }).log (.cutDone 0))
  | appended (state : State) (frame : FqFrame) :
      HlsStep state (state.log (.appended frame))
  | changeMuxer (state : State) (update : HlsMedia → HlsMedia) :
      HlsStep state (state.updateWs fun ws => { ws with hls := ws.hls.map update })

/-- The statements that open an `EventLogs.db`. -/
inductive EventDb.Opens : (EventDb → EventDb) → Prop
  | createSegments : Opens EventDb.createSegments
  | createDetails : Opens EventDb.createDetails
  | createIndex : Opens id

/-- The statement that leaves a motion mark. -/
inductive EventDb.Marks : (EventDb → EventDb) → Prop
  | insertDetail (videoId motionFrame : Int) :
      Marks (EventDb.insertDetail videoId motionFrame)

/-- One step of a function whose statements change `VideoMetadata`, or the
`EventLogs.db` in one of the given ways. -/
inductive StatementStep (writes : (EventDb → EventDb) → Prop) :
    State → State → Prop
  | called (state : State) (kind : Call) (succeeded : Bool) :
      StatementStep writes state (state.log (.called kind succeeded))
  | insert (state : State) (date : CString)
      (ready : state.disk.videoMetadata.isSome = true) :
      StatementStep writes state
        ((state.updateDisk fun disk => disk.updateMeta
          (MetaRow.insertOrIgnore { date, motionCount := 0 })).log
            (.listed date))
  | upsert (state : State) (date : CString) (count : Int)
      (ready : state.disk.videoMetadata.isSome = true) :
      StatementStep writes state
        ((state.updateDisk fun disk => disk.updateMeta
          (MetaRow.upsertMotionCount date count)).log (.listed date))
  | write (state : State) (file : Nat) (update : EventDb → EventDb)
      (written : writes update) :
      StatementStep writes state (state.updateDisk fun disk =>
        disk.updateEventDb file update)

/-- One step of counting the frames of the current segment. -/
inductive TotalStep : State → State → Prop
  | called (state : State) (kind : Call) (succeeded : Bool) :
      TotalStep state (state.log (.called kind succeeded))
  | update (state : State) (file : Nat)
      (opened : state.ws.eventDb = some file) :
      TotalStep state ((state.updateDisk fun disk => disk.updateEventDb file
        (EventDb.updateTotalFrames state.ws.currentSegmentId
          state.ws.frameCount)).log .refreshed)

/-- One step of a function that opens, closes or uses a database. -/
inductive DbStep : State → State → Prop
  | statement {before after : State}
      (step : StatementStep EventDb.Opens before after) :
      DbStep before after
  | openMeta (state : State) (opened : Bool) :
      DbStep state (state.updateWs fun ws => { ws with metaDb := opened })
  | createMeta (state : State) :
      DbStep state (state.updateDisk fun disk =>
        { disk with videoMetadata := some disk.metaRows })
  | createLogs (state : State) (date : CString) :
      DbStep state (state.updateDisk fun disk => disk.openEventLogs date)
  | openLogs (state : State) (file : Option Nat) :
      DbStep state (state.updateWs fun ws => { ws with eventDb := file })
  | stamp (state : State) (file : Nat) (folder : CString)
      (time clock : Reading) (opened : state.ws.eventDb = some file)
      (accepted : (state.disk.eventDb file).accepts folder = true) :
      DbStep state
        ((state.updateDisk fun disk => disk.updateEventDb file
          (EventDb.insertSegment folder (time.tm.startTime clock.usec))).log
            (.stamped time clock))

/-- One step of ending the muxer. -/
inductive FlushStep : State → State → Prop
  | hls {before after : State} (step : HlsStep before after) :
      FlushStep before after
  | dropMuxer (state : State) :
      FlushStep state (state.updateWs fun ws => { ws with hls := none })
  | dropPlaylist (state : State) :
      FlushStep state (state.updateWs fun ws => { ws with m3u := none })

/-- One step of opening a segment in its folder. -/
inductive SegmentStep : State → State → Prop
  | db {before after : State} (step : DbStep before after) :
      SegmentStep before after
  | identify (state : State) (id : Int) :
      SegmentStep state (state.updateWs fun ws =>
        { ws with currentSegmentId := id })
  | reset (state : State) (fps : Int) :
      SegmentStep state (state.updateWs fun ws =>
        { ws with
          frameCount := 0
          motionCount := 0
          lastFps := fps
          ptsMs := 0
          seenKeyframe := false })
  | playlist (state : State) (created : Bool) :
      SegmentStep state (state.updateWs fun ws =>
        { ws with m3u := if created then some [] else none })
  | muxer (state : State) (hls : Option HlsMedia) :
      SegmentStep state (state.updateWs fun ws => { ws with hls, tsIdx := 0 })

/-- One step of opening a day, leaving it or changing to another, at the start
and the end of the thread as well. -/
inductive DayStep : State → State → Prop
  | folder {before after : State} (step : FolderStep before after) :
      DayStep before after
  | segment {before after : State} (step : SegmentStep before after) :
      DayStep before after
  | flush {before after : State} (step : FlushStep before after) :
      DayStep before after
  | total {before after : State} (step : TotalStep before after) :
      DayStep before after
  | opening (state : State) :
      DayStep state (state.log .opening)
  | opened (state : State) (result : Int) :
      DayStep state (state.log (.opened result))
  | ensureDay (state : State) :
      DayStep state (state.log .ensureDay)
  | ingest (state : State) (date : CString) (yday : Nat) :
      DayStep state (state.log (.ingest date yday))

/-- One step of taking a frame through the keyframe gate to the muxer. -/
inductive FrameStep : State → State → Prop
  | hls {before after : State} (step : HlsStep before after) :
      FrameStep before after
  | gate (state : State) (isKey : Bool) :
      FrameStep state (state.log (.gate isKey))
  | discarded (state : State) (frame : FqFrame) :
      FrameStep state (state.log (.discarded frame))
  | pass (state : State) :
      FrameStep state (state.updateWs fun ws => { ws with seenKeyframe := true })
  | timestamp (state : State) (ptsMs : Int) :
      FrameStep state (state.updateWs fun ws => { ws with ptsMs })
  | divides (state : State) (divisor : Int) (nonzero : divisor ≠ 0) :
      FrameStep state (state.log (.divides divisor))
  | fed (state : State) (frame : FqFrame) :
      FrameStep state (state.log (.fed frame))
  | count (state : State) :
      FrameStep state (state.updateWs fun ws =>
        { ws with frameCount := ws.frameCount + 1 })

/-- One step of leaving a motion mark. -/
inductive MarkStep : State → State → Prop
  | statement {before after : State}
      (step : StatementStep EventDb.Marks before after) :
      MarkStep before after
  | countMotion (state : State) :
      MarkStep state (state.updateWs fun ws =>
        { ws with motionCount := ws.motionCount + 1 })
  | mark (state : State) :
      MarkStep state (state.log .mark)
  | counted (state : State) :
      MarkStep state (state.log .counted)
  | lastMotion (state : State) (now : Int) :
      MarkStep state (state.updateWs fun ws =>
        { ws with lastMotionMs := now })

/-- One step of the accounting behind a frame that was fed. -/
inductive ProgressStep : State → State → Prop
  | marks {before after : State} (step : MarkStep before after) :
      ProgressStep before after
  | total {before after : State} (step : TotalStep before after) :
      ProgressStep before after
  | lastFps (state : State) (fps : Int) :
      ProgressStep state (state.updateWs fun ws => { ws with lastFps := fps })
  | judged (state : State) (inMotion : Bool) :
      ProgressStep state (state.log (.judged inMotion))
  | motion (state : State) :
      ProgressStep state (state.log .motion)
  | divides (state : State) (divisor : Int) :
      ProgressStep state (state.log (.divides divisor))

/-- One step of cleaning up.  A removal begins only on a day whose row is
pending, and only a day other than the current one is scheduled. -/
inductive RetentionStep : State → State → Prop
  | called (state : State) (kind : Call) (succeeded : Bool) :
      RetentionStep state (state.log (.called kind succeeded))
  | notDue (state : State) :
      RetentionStep state (state.log .notDue)
  | reset (state : State) :
      RetentionStep state
        ((state.updateWs fun ws => { ws with tsSinceCleanup := 0 }).log
          .cleaning)
  | scheduling (state : State) (date : CString) (freeMb : Nat) :
      RetentionStep state (state.log (.scheduling date freeMb))
  | removing (state : State) (date : CString)
      (pending : MetaRow.firstPending state.disk.metaRows = some date) :
      RetentionStep state (state.log (.removing date))
  | removePart (state : State) (date : CString) (removal : Removal) :
      RetentionStep state
        (state.updateDisk fun disk => disk.removePart date removal)
  | removeDay (state : State) (date : CString) :
      RetentionStep state (state.updateDisk fun disk => disk.removeDay date)
  | removed (state : State) (date : CString) (result : Int) :
      RetentionStep state (state.log (.removed date result))
  | delete (state : State) (date : CString) :
      RetentionStep state (state.updateDisk fun disk =>
        disk.updateMeta (MetaRow.delete date))
  | rowDeleted (state : State) (date : CString) :
      RetentionStep state (state.log (.rowDeleted date))
  | schedule (state : State) (date : CString)
      (notToday : date ≠ state.ws.date) :
      RetentionStep state (state.updateDisk fun disk =>
        disk.updateMeta (MetaRow.schedule date))

/-! ## What the steps record -/

namespace Event

/-- Calls and what they have seen to. -/
def ofCall : Event → Bool
  | .called _ _ | .listed _ | .refreshed => true
  | _ => false

/-- Events of the muxer and its handler. -/
def ofHls : Event → Bool
  | .called _ _ | .cut _ | .renamed _ _ | .cutDone _ | .appended _ => true
  | _ => false

/-- Events of opening, leaving and changing days. -/
def ofDay : Event → Bool
  | .opening | .made _ | .placed | .opened _ | .ensureDay
  | .listed _ | .stamped _ _ | .refreshed | .ingest _ _ => true
  | event => event.ofHls

/-- Events of a frame on its way to the muxer. -/
def ofFrame : Event → Bool
  | .gate _ | .discarded _ | .fed _ => true
  | .divides divisor => divisor ≠ 0
  | event => event.ofHls

/-- Events of leaving a motion mark. -/
def ofMark : Event → Bool
  | .called _ _ | .listed _ | .refreshed | .mark | .counted => true
  | _ => false

/-- Events of cleaning up. -/
def ofRetention : Event → Bool
  | .called _ _ | .notDue | .cleaning | .scheduling _ _ | .removing _
  | .removed _ _ | .rowDeleted _ => true
  | _ => false

end Event

namespace State

/-- The record stays as it is or grows by an event of a class. -/
def Adds (kind : Event → Bool) (before after : State) : Prop :=
  after.trace = before.trace ∨ ∃ event, kind event = true ∧
    after.trace = ⟨event, after.ws, after.disk⟩ :: before.trace

theorem Adds.log
    {kind : Event → Bool} {state : State} {event : Event}
    (listed : kind event = true) : Adds kind state (state.log event) :=
  .inr ⟨event, listed, rfl⟩

theorem Adds.mono
    {small large : Event → Bool} {before after : State}
    (adds : Adds small before after)
    (included : ∀ event, small event = true → large event = true) :
    Adds large before after := by
  rcases adds with same | ⟨event, listed, grown⟩
  · exact .inl same
  · exact .inr ⟨event, included event listed, grown⟩

/-- A view of the record that ignores a class of events is not changed. -/
theorem Adds.view
    {kind : Event → Bool} {before after : State}
    (adds : Adds kind before after)
    {view : List Moment → β}
    (ignores : ∀ moment earlier, kind moment.event = true →
      view (moment :: earlier) = view earlier) :
    view after.trace = view before.trace := by
  rcases adds with same | ⟨event, listed, grown⟩
  · rw [same]
  · rw [grown]
    exact ignores _ _ listed

theorem adds_hlsStep
    (before after : State) (step : HlsStep before after) :
    Adds Event.ofHls before after := by
  cases step <;> first | exact .inl rfl | exact .log rfl

theorem adds_statementStep
    {writes : (EventDb → EventDb) → Prop}
    (before after : State) (step : StatementStep writes before after) :
    Adds Event.ofCall before after := by
  cases step <;> first | exact .inl rfl | exact .log rfl

theorem adds_totalStep
    (before after : State) (step : TotalStep before after) :
    Adds Event.ofCall before after := by
  cases step <;> first | exact .inl rfl | exact .log rfl

theorem ofDay_of_ofCall (event : Event) (listed : event.ofCall = true) :
    event.ofDay = true := by
  cases event <;> first | rfl | exact listed

theorem ofMark_of_ofCall (event : Event) (listed : event.ofCall = true) :
    event.ofMark = true := by
  cases event <;> first | rfl | exact listed

theorem ofDay_of_ofHls (event : Event) (listed : event.ofHls = true) :
    event.ofDay = true := by
  cases event <;> first | rfl | exact listed

theorem ofFrame_of_ofHls (event : Event) (listed : event.ofHls = true) :
    event.ofFrame = true := by
  cases event <;> first | rfl | exact listed | cases listed

theorem adds_dbStep
    (before after : State) (step : DbStep before after) :
    Adds Event.ofDay before after := by
  cases step with
  | statement step =>
      exact (adds_statementStep _ _ step).mono ofDay_of_ofCall
  | stamp => exact .inr ⟨_, rfl, rfl⟩
  | _ => exact .inl rfl

theorem adds_dayStep
    (before after : State) (step : DayStep before after) :
    Adds Event.ofDay before after := by
  cases step with
  | folder step =>
      cases step <;> first | exact .inl rfl | exact .log rfl
  | segment step =>
      cases step with
      | db step => exact adds_dbStep _ _ step
      | _ => exact .inl rfl
  | flush step =>
      cases step with
      | hls step => exact (adds_hlsStep _ _ step).mono ofDay_of_ofHls
      | _ => exact .inl rfl
  | total step => exact (adds_totalStep _ _ step).mono ofDay_of_ofCall
  | _ => exact .log rfl

theorem adds_frameStep
    (before after : State) (step : FrameStep before after) :
    Adds Event.ofFrame before after := by
  cases step with
  | hls step => exact (adds_hlsStep _ _ step).mono ofFrame_of_ofHls
  | divides divisor nonzero => exact .log (by simpa [Event.ofFrame])
  | _ => first | exact .inl rfl | exact .log rfl

theorem adds_markStep
    (before after : State) (step : MarkStep before after) :
    Adds Event.ofMark before after := by
  cases step with
  | statement step =>
      exact (adds_statementStep _ _ step).mono ofMark_of_ofCall
  | _ => first | exact .inl rfl | exact .log rfl

theorem adds_retentionStep
    (before after : State) (step : RetentionStep before after) :
    Adds Event.ofRetention before after := by
  cases step <;> first | exact .inl rfl | exact .log rfl

end State

/-- A view of the record that ignores what a program records is the same
wherever the program is. -/
theorem Program.Within.ignored
    {step : State → State → Prop}
    {program : Storage α}
    (within : program.Within step)
    {kind : Event → Bool}
    (adds : ∀ before after, step before after → State.Adds kind before after)
    {view : List Moment → β}
    (ignores : ∀ moment earlier, kind moment.event = true →
      view (moment :: earlier) = view earlier)
    (state : State) :
    program.wp (fun _ after => view after.trace = view state.trace)
      (fun after => view after.trace = view state.trace) state :=
  @Program.Within.preserves _ _ _ _ _ _ within (fun after => view after.trace)
    (fun before after last => (adds before after last).view ignores) state

namespace Storage

open Program

/-- A call is a step of any relation that records calls. -/
theorem call_within
    {step : State → State → Prop}
    {kind : Call}
    (recorded : ∀ state succeeded,
      step state (state.log (.called kind succeeded)))
    (possible : State → Bool) :
    (call kind possible).Within step :=
  Within.bind Within.answer fun _ =>
    Within.bind Within.current fun _ =>
      Within.bind (Within.modify fun state => recorded state _) fun _ =>
        Within.pure _

/-- `write_file_atomic` replaces its target or leaves it; it succeeds only when
it has replaced it. -/
theorem wp_writeFileAtomic
    {dir : SegmentDir} {name : CString} {data : FileData}
    {post : Int → State → Prop} {stopped : State → Prop} {state : State}
    (unchanged : ∀ after, Relation.ReflTransGen CallStep state after →
      stopped after ∧ post (-1) after)
    (replaced : ∀ before after,
      Relation.ReflTransGen CallStep state before →
      before.disk.exists? (.segment dir) = true →
      Relation.ReflTransGen CallStep
        ((before.updateDisk fun disk => disk.putFile dir name data).log
          (.renamed name data)) after →
      stopped after ∧ post (-1) after ∧ post 0 after) :
    (writeFileAtomic dir name data).wp post stopped state := by
  simp only [writeFileAtomic, wp_bind, wp_call]
  refine ⟨(unchanged _ .refl).1, fun written _ => ?_⟩
  have first := CallStep.called state .writeFile written.ok
  refine wp_split (fun _ => (unchanged _ (.single first)).2) fun _ => ?_
  rw [wp_bind, wp_call]
  refine ⟨(unchanged _ (.single first)).1, fun renamed possible => ?_⟩
  have second := CallStep.called
    (state.log (.called .writeFile written.ok)) .rename renamed.ok
  refine wp_split (fun _ => (unchanged _ (.tail (.single first) second)).2)
    fun ok => ?_
  have present := possible (by simpa using ok)
  rw [wp_bind, wp_setDisk, wp_bind, wp_log, wp_bind, wp_call]
  refine ⟨(replaced _ _ (.tail (.single first) second) present .refl).1,
    fun synced _ => ?_⟩
  have last := replaced _ _ (.tail (.single first) second) present
    (.single (CallStep.called _ .fsyncDir synced.ok))
  exact wp_split (fun _ => last.2.1) fun _ => last.2.2

/-! ## Folders -/

theorem call_folderStep (kind : Call) (possible : State → Bool) :
    (call kind possible).Within FolderStep :=
  call_within (fun state => FolderStep.called state kind) possible

/-- A directory is made where there was none. -/
theorem ensureDir_within (dir : Dir) : (ensureDir dir).Within FolderStep := by
  refine Within.bind Within.answer fun stat => ?_
  refine Within.bindCurrent fun state => ?_
  refine wp_split (fun _ => .refl) fun _ => ?_
  rw [wp_bind, wp_call]
  refine ⟨.refl, fun made possible => ?_⟩
  have called := FolderStep.called state .mkdir made.ok
  refine wp_split (fun _ => .single called) fun succeeded => ?_
  have both := possible (by simpa using succeeded)
  rw [Bool.and_eq_true, Bool.not_eq_true'] at both
  exact .tail (.single called) (FolderStep.mkdir _ dir both.1 both.2)

/-- `ensure_dir` finds the directory, fails, or makes it. -/
theorem wp_ensureDir
    {dir : Dir}
    {post : Int → State → Prop} {stopped : State → Prop} {state : State}
    (stops : stopped state)
    (found : state.disk.exists? dir = true → post 0 state)
    (failed : post (-1) (state.log (.called .mkdir false)))
    (made : state.disk.parentExists dir = true →
      state.disk.exists? dir = false →
        post 0 (((state.log (.called .mkdir true)).updateDisk fun disk =>
          disk.mkdir dir).log (.made dir))) :
    (ensureDir dir).wp post stopped state := by
  rw [ensureDir, wp_bind, wp_answer]
  refine ⟨stops, fun stat => ?_⟩
  rw [wp_bind, wp_current]
  apply wp_split
  · exact fun both => found (Bool.and_eq_true_iff.mp both).2
  intro _
  rw [wp_bind, wp_call]
  refine ⟨stops, fun choice possible => ?_⟩
  cases ok : choice.ok with
  | false => exact failed
  | true =>
      have both := possible ok
      rw [Bool.and_eq_true, Bool.not_eq_true'] at both
      exact made both.1 both.2

/-- `count_subdirs` counts all folders when `opendir` succeeds and no `readdir`
fails, which is when the answer says so. -/
theorem wp_countSubdirs
    {date : CString}
    {post : Nat → State → Prop} {stopped : State → Prop} {state : State}
    (stops : stopped state)
    (counted : ∀ ok total, (ok = true → ∃ day,
      state.disk.day date = some day ∧ total = day.folders.keys.length) →
        post total (state.log (.called .opendir ok))) :
    (countSubdirs date).wp post stopped state := by
  rw [countSubdirs, wp_bind, wp_call]
  refine ⟨stops, fun choice possible => ?_⟩
  rw [wp_bind, wp_current]
  apply counted
  intro ok
  obtain ⟨day, present⟩ := Option.isSome_iff_exists.mp (possible ok)
  refine ⟨day, present, ?_⟩
  rw [if_pos ok, State.disk_log, present]

theorem todayString_within
    {step : State → State → Prop} : todayString.Within step :=
  Within.bind Within.answer fun _ => Within.pure _

theorem countSubdirs_within (date : CString) :
    (countSubdirs date).Within FolderStep := by
  refine Within.bind (call_folderStep _ _) fun opened => ?_
  exact Within.bind Within.current fun state => Within.pure _

theorem openFolder_within : openFolder.Within FolderStep := by
  refine Within.bind todayString_within fun today => ?_
  refine Within.bind (Within.modify fun state =>
    FolderStep.enter state today.1 today.2) fun _ => ?_
  refine Within.bind (ensureDir_within _) fun _ => ?_
  refine Within.bind (ensureDir_within _) fun _ => ?_
  refine Within.bind (countSubdirs_within _) fun subdirs => ?_
  refine Within.bind (Within.modify fun state =>
    FolderStep.place state subdirs ⟨today.1, zeroPadded 5 subdirs⟩)
    fun _ => ?_
  refine Within.bind (Within.modify FolderStep.placed) fun _ => ?_
  exact ensureDir_within _

/-! ## The muxer -/

/-- `write_file_atomic` makes calls, replaces a file and records it. -/
theorem writeFileAtomic_within_of
    {step : State → State → Prop}
    {dir : SegmentDir} {name : CString} {data : FileData}
    (called : ∀ state kind succeeded,
      step state (state.log (.called kind succeeded)))
    (putFile : ∀ state : State,
      step state (state.updateDisk fun disk => disk.putFile dir name data))
    (renamed : ∀ state : State, step state (state.log (.renamed name data))) :
    (writeFileAtomic dir name data).Within step := by
  have calls : ∀ kind possible, (call kind possible).Within step :=
    fun kind possible => call_within (fun state => called state kind) possible
  refine Within.bind (calls _ _) fun written => ?_
  refine Within.ite (fun _ => Within.pure _) fun _ => ?_
  refine Within.bind (calls _ _) fun moved => ?_
  refine Within.ite (fun _ => Within.pure _) fun _ => ?_
  refine Within.bind (Within.modify putFile) fun _ => ?_
  refine Within.bind (Within.modify renamed) fun _ => ?_
  refine Within.bind (calls _ _) fun synced => ?_
  exact Within.ite (fun _ => Within.pure _) fun _ => Within.pure _

/-- Calls leave the writer as it is. -/
theorem outlet_callPath
    {before after : State}
    (path : Relation.ReflTransGen CallStep before after) :
    after.outlet = before.outlet := by
  induction path with
  | refl => rfl
  | tail _ last earlier =>
      cases last
      exact earlier

theorem outlet_hlsPath
    {before after : State}
    (path : Relation.ReflTransGen HlsStep before after) :
    after.outlet = before.outlet := by
  induction path with
  | refl => rfl
  | tail _ last earlier =>
      cases last <;> simpa [State.outlet, State.log, State.updateWs] using earlier

theorem hlsPath_of_calls
    {before after : State}
    (path : Relation.ReflTransGen CallStep before after) :
    Relation.ReflTransGen HlsStep before after :=
  Relation.ReflTransGen.mono (fun _ _ step => by
    cases step with
    | called kind succeeded => exact .called _ kind succeeded) _ _ path

/-- A file is replaced in the folder of the muxer's files. -/
theorem writeFileAtomic_within
    {start state : State} {dir : SegmentDir}
    (path : Relation.ReflTransGen HlsStep start state)
    (outlet : state.outlet = (true, true, dir))
    (name : CString) (data : FileData) :
    (writeFileAtomic dir name data).wp
      (fun _ => Relation.ReflTransGen HlsStep start)
      (Relation.ReflTransGen HlsStep start) state := by
  refine wp_writeFileAtomic (fun after calls => ?_)
    fun before after calls _ later => ?_
  · have reached := path.trans (hlsPath_of_calls calls)
    exact ⟨reached, reached⟩
  · have replaced := HlsStep.replaced before dir name data
      ((outlet_callPath calls).trans outlet)
    have reached := ((path.trans (hlsPath_of_calls calls)).tail replaced).trans
      (hlsPath_of_calls later)
    exact ⟨reached, reached, reached⟩

/-- A file that is not written was lost in the last of the calls. -/
theorem writeFileAtomic_loses
    (dir : SegmentDir) (name : CString) (data : FileData) (state : State) :
    (writeFileAtomic dir name data).wp
      (fun result after => result ≠ 0 → after.LostWrite) (fun _ => True)
      state := by
  have lost : ∀ {before : State} {kind : Call} {choice : Choice},
      [Call.writeFile, .rename, .fsyncDir].contains kind = true →
      (!choice.ok) = true →
      (before.log (.called kind choice.ok)).LostWrite := by
    intro before kind choice writes refused
    exact ⟨_, rfl, Bool.and_eq_true_iff.mpr ⟨refused, writes⟩⟩
  simp only [writeFileAtomic, wp_bind, wp_call, true_and]
  intro written _
  refine wp_split (fun refused _ => lost rfl refused) fun _ => ?_
  simp only [wp_bind, wp_call, true_and]
  intro renamed _
  refine wp_split (fun refused _ => lost rfl refused) fun _ => ?_
  simp only [wp_bind, wp_setDisk, wp_log, wp_call, true_and]
  intro synced _
  exact wp_split (fun refused _ => lost rfl refused) fun _ failed =>
    absurd rfl failed

/-- Where a file is not written `hls_cb` fails. -/
theorem writeOrFail_within
    {start state : State} {dir : SegmentDir}
    (path : Relation.ReflTransGen HlsStep start state)
    (outlet : state.outlet = (true, true, dir))
    (name : CString) (data : FileData)
    {rest : Storage Int}
    (goesOn : ∀ reached, Relation.ReflTransGen HlsStep start reached →
      rest.wp (fun _ => Relation.ReflTransGen HlsStep start)
        (Relation.ReflTransGen HlsStep start) reached) :
    (do
      let written ← writeFileAtomic dir name data
      if written ≠ 0 then
        log (.cutDone (-1))
        return -1
      rest : Storage Int).wp
        (fun _ => Relation.ReflTransGen HlsStep start)
        (Relation.ReflTransGen HlsStep start) state := by
  refine wp_then (wp_mono (wp_and
    (writeFileAtomic_within path outlet name data)
    (writeFileAtomic_loses dir name data state)) (fun _ _ both => both)
    fun _ both => both.1) ?_
  rintro written reached ⟨path, lost⟩
  refine wp_split (fun failed => ?_) fun _ => goesOn reached path
  exact path.tail (HlsStep.cutFailed reached (-1) (by decide) (lost failed))

theorem hlsCb_within
    (config : Config) (frames : List FqFrame) (pts dts duration : Int)
    {state : State} (present : state.ws.hls.isSome = true) :
    (hlsCb config frames pts dts duration).wp
      (fun _ => Relation.ReflTransGen HlsStep state)
      (Relation.ReflTransGen HlsStep state) state := by
  rw [hlsCb, wp_bind, wp_log, wp_bind, wp_current, wp_bind, wp_modify,
    wp_bind, wp_setWs]
  have cut := Relation.ReflTransGen.single (HlsStep.cut state frames)
  have named := (cut.tail (HlsStep.lastDts _ dts)).tail (HlsStep.nextName _)
  simp only [State.ws_log]
  cases playlist : state.ws.m3u with
  | none => exact named
  | some entries =>
      rw [wp_bind, wp_setWs]
      have added := fun entry : PlaylistEntry =>
        named.tail (HlsStep.addEntry _ entry)
      have outlet : state.outlet = (true, true, state.ws.segmentDir) := by
        rw [State.outlet, present, playlist, Option.isSome_some]
      refine writeOrFail_within (added _)
        ((outlet_hlsPath (added _)).trans outlet) _ _ fun reached path => ?_
      refine writeOrFail_within path ((outlet_hlsPath path).trans outlet) _ _
        fun reached path => ?_
      exact path.tail (HlsStep.cutDone reached)

theorem hlsNewSegment_within
    (config : Config) (hls : HlsMedia) (payload : Option FqFrame)
    (pts dts : Int) {state : State} (present : state.ws.hls.isSome = true) :
    (hlsNewSegment config hls payload pts dts).wp
      (fun _ => Relation.ReflTransGen HlsStep state)
      (Relation.ReflTransGen HlsStep state) state := by
  refine Within.continue ?_ fun result => ?_
  · exact wp_split (fun _ => hlsCb_within config _ _ _ _ present) fun _ => .refl
  refine Within.ite (fun _ => Within.pure _) fun _ => ?_
  exact Within.bind (Within.modify fun state =>
    HlsStep.changeMuxer state _) fun _ => Within.pure _

theorem noteAppended_within (payload : Option FqFrame) :
    (noteAppended payload).Within HlsStep := by
  cases payload with
  | none => exact Within.pure _
  | some frame => exact Within.modify fun state => HlsStep.appended state frame

theorem hlsMediaInput_within
    (config : Config) (payload : Option FqFrame) (pts dts : Int)
    (isKey : Bool) :
    (hlsMediaInput config payload pts dts isKey).Within HlsStep := by
  refine Within.bindCurrent fun state => ?_
  cases opened : state.ws.hls with
  | none => exact .refl
  | some hls =>
      refine Within.continue ?_ fun result => ?_
      · exact wp_split (fun _ => hlsNewSegment_within config hls payload pts dts
          (by rw [opened]; rfl)) fun _ => .refl
      refine Within.ite (fun _ => Within.pure _) fun _ => ?_
      refine Within.bind Within.answer fun written => ?_
      refine Within.bind (Within.modify fun before =>
        HlsStep.changeMuxer before _) fun _ => ?_
      exact Within.bind (noteAppended_within payload) fun _ => Within.pure _

theorem hlsFlushAndDestroy_within (config : Config) :
    (hlsFlushAndDestroy config).Within FlushStep := by
  have flush : (hlsFlush config).Within FlushStep := by
    refine Within.bind ((hlsMediaInput_within _ _ _ _ _).mono fun _ _ =>
      FlushStep.hls) fun _ => ?_
    exact Within.modify FlushStep.dropMuxer
  refine Within.bind Within.current fun state => ?_
  refine Within.bind (Within.ite (fun _ => flush) fun _ => Within.pure _)
    fun _ => ?_
  exact Within.modify FlushStep.dropPlaylist

/-! ## Statements -/

theorem call_statementStep
    {writes : (EventDb → EventDb) → Prop}
    (kind : Call) (possible : State → Bool) :
    (call kind possible).Within (StatementStep writes) :=
  call_within (fun state => StatementStep.called state kind) possible

/-- A statement that succeeds finds its table. -/
theorem videoMetadata_of_metaReady
    {state : State} (ready : state.metaReady = true) :
    state.disk.videoMetadata.isSome = true :=
  (Bool.and_eq_true_iff.mp ready).2

theorem insertDay_within {writes : (EventDb → EventDb) → Prop} :
    insertDay.Within (StatementStep writes) := by
  refine Within.bindCurrent fun state => ?_
  refine wp_split (fun _ => .refl) fun _ => ?_
  rw [wp_bind, wp_call]
  refine ⟨.refl, fun inserted possible => ?_⟩
  have called := @StatementStep.called writes state .sql inserted.ok
  refine wp_split (fun _ => .single called) fun succeeded => ?_
  have ready := possible (by simpa using succeeded)
  exact .tail (.single called)
    (StatementStep.insert _ state.ws.date (videoMetadata_of_metaReady ready))

theorem metaDbUpsertMotionCount_within
    {writes : (EventDb → EventDb) → Prop} (count : Int) :
    (metaDbUpsertMotionCount count).Within (StatementStep writes) := by
  refine Within.bindCurrent fun state => ?_
  refine wp_split (fun _ => .refl) fun _ => ?_
  rw [wp_bind, wp_call]
  refine ⟨.refl, fun upserted possible => ?_⟩
  have called := @StatementStep.called writes state .sql upserted.ok
  refine wp_split (fun _ => .single called) fun succeeded => ?_
  have ready := possible (by simpa using succeeded)
  exact .tail (.single called)
    (StatementStep.upsert _ state.ws.date count
      (videoMetadata_of_metaReady ready))

theorem updateEventDb_within
    {writes : (EventDb → EventDb) → Prop} {update : EventDb → EventDb}
    (written : writes update) :
    (updateEventDb update).Within (StatementStep writes) := by
  refine Within.bind Within.current fun state => ?_
  cases state.ws.eventDb with
  | none => exact Within.pure _
  | some file =>
      exact Within.modify fun before =>
        StatementStep.write before file update written

theorem eventDbAddMotion_within (videoId motionFrame : Int) :
    (eventDbAddMotion videoId motionFrame).Within
      (StatementStep EventDb.Marks) := by
  refine Within.bind Within.current fun state => ?_
  refine Within.ite (fun _ => Within.pure _) fun _ => ?_
  refine Within.bind (call_statementStep _ _) fun inserted => ?_
  exact Within.ite (fun _ => Within.pure _) fun _ =>
    updateEventDb_within (.insertDetail _ _)

/-- The update is made with the counters of the moment. -/
theorem eventDbUpdateTotalFrames_within :
    eventDbUpdateTotalFrames.Within TotalStep := by
  refine Within.bindCurrent fun state => ?_
  refine wp_split (fun _ => .refl) fun hasSegment => ?_
  rw [wp_bind, wp_call]
  refine ⟨.refl, fun updated _ => ?_⟩
  have called := TotalStep.called state .sql updated.ok
  refine wp_split (fun _ => .single called) fun _ => ?_
  rw [wp_bind, updateEventDb, wp_bind, wp_current]
  cases opened : state.ws.eventDb with
  | none =>
      rw [opened] at hasSegment
      exact absurd rfl hasSegment
  | some file =>
      simp only [State.ws_log, opened]
      exact .tail (.single called)
        (TotalStep.update (state.log (.called .sql updated.ok)) file opened)

/-! ## Opening and closing databases -/

theorem call_dbStep (kind : Call) (possible : State → Bool) :
    (call kind possible).Within DbStep :=
  (call_statementStep kind possible).mono fun _ _ => DbStep.statement

theorem metaDbInit_within : metaDbInit.Within DbStep := by
  refine Within.bind (call_dbStep _ _) fun opened => ?_
  refine Within.bind
    (Within.modify fun state => DbStep.openMeta state opened.ok) fun _ => ?_
  refine Within.ite (fun _ => Within.pure _) fun _ => ?_
  refine Within.bind (call_dbStep _ _) fun created => ?_
  refine Within.ite (fun _ => Within.pure _) fun _ => ?_
  exact Within.bind (Within.modify DbStep.createMeta) fun _ => Within.pure _

/-- A relation has the steps of opening an `EventLogs.db`. -/
structure OpensLogs (step : State → State → Prop) : Prop where
  called : ∀ state kind succeeded,
    step state (state.log (.called kind succeeded))
  openLogs : ∀ state file,
    step state (state.updateWs fun ws => { ws with eventDb := file })
  createLogs : ∀ state date,
    step state (state.updateDisk fun disk => disk.openEventLogs date)
  write : ∀ state file update, EventDb.Opens update →
    step state (state.updateDisk fun disk => disk.updateEventDb file update)
  stamp : ∀ state file folder (time clock : Reading),
    state.ws.eventDb = some file →
    (state.disk.eventDb file).accepts folder = true →
      step state
        ((state.updateDisk fun disk => disk.updateEventDb file
          (EventDb.insertSegment folder (time.tm.startTime clock.usec))).log
            (.stamped time clock))

theorem opensLogs_dbStep : OpensLogs DbStep where
  called := fun state kind succeeded =>
    .statement (.called state kind succeeded)
  openLogs := DbStep.openLogs
  createLogs := DbStep.createLogs
  write := fun state file update opens =>
    .statement (.write state file update opens)
  stamp := DbStep.stamp

section OpensLogs

variable {step : State → State → Prop} (logs : OpensLogs step)

include logs

theorem eventDbClose_within_of : eventDbClose.Within step :=
  Within.modify fun state => logs.openLogs state none

theorem eventDbExec_within_of
    {update : EventDb → EventDb} (opens : EventDb.Opens update) :
    (eventDbExec update).Within step := by
  refine Within.bind (call_within (fun state => logs.called state _) _)
    fun executed => ?_
  refine Within.ite (fun _ => ?_) fun _ => ?_
  · exact Within.bind (eventDbClose_within_of logs) fun _ => Within.pure _
  refine Within.bind (Within.bind Within.current fun state => ?_)
    fun _ => Within.pure _
  cases state.ws.eventDb with
  | none => exact Within.pure _
  | some file =>
      exact Within.modify fun before => logs.write before file update opens

/-- A row is inserted with its stamp. -/
theorem eventDbAddSegment_within_of : eventDbAddSegment.Within step := by
  refine Within.bindCurrent fun state => ?_
  refine wp_split (fun _ => .refl) fun isOpen => ?_
  rw [wp_bind, wp_answer]
  refine ⟨.refl, fun time => ?_⟩
  rw [wp_bind, wp_answer]
  refine ⟨.refl, fun clock => ?_⟩
  rw [wp_bind, wp_call]
  refine ⟨.refl, fun inserted possible => ?_⟩
  have called := logs.called state .sql inserted.ok
  refine wp_split (fun _ => .single called) fun succeeded => ?_
  rw [wp_bind, wp_current, wp_bind, updateEventDb, wp_bind, wp_current]
  cases opened : state.ws.eventDb with
  | none =>
      rw [opened] at isOpen
      exact absurd rfl isOpen
  | some file =>
      have accepted := possible (by simpa using succeeded)
      rw [State.eventReady, opened] at accepted
      simp only [State.ws_log, opened]
      exact .tail (.single called) (logs.stamp
        (state.log (.called .sql inserted.ok)) file _ time.reading
        clock.reading opened accepted)

theorem eventDbOpen_within_of : eventDbOpen.Within step := by
  refine Within.bind Within.current fun state => ?_
  refine Within.bind (call_within (fun state => logs.called state _) _)
    fun opened => ?_
  refine Within.ite (fun _ => ?_) fun _ => ?_
  · exact Within.bind (eventDbClose_within_of logs) fun _ => Within.pure _
  refine Within.bind (Within.modify fun before =>
    logs.createLogs before state.ws.dateDir) fun _ => ?_
  refine Within.bind Within.current fun found => ?_
  refine Within.bind (Within.modify fun before => logs.openLogs before
    (found.disk.eventLogs state.ws.dateDir)) fun _ => ?_
  refine Within.bind (eventDbExec_within_of logs .createSegments)
    fun segments => ?_
  refine Within.ite (fun _ => Within.pure _) fun _ => ?_
  refine Within.bind (eventDbExec_within_of logs .createDetails)
    fun details => ?_
  exact Within.ite (fun _ => Within.pure _) fun _ =>
    eventDbExec_within_of logs .createIndex

end OpensLogs

theorem eventDbClose_within : eventDbClose.Within DbStep :=
  eventDbClose_within_of opensLogs_dbStep

theorem eventDbAddSegment_within : eventDbAddSegment.Within DbStep :=
  eventDbAddSegment_within_of opensLogs_dbStep

theorem eventDbOpen_within : eventDbOpen.Within DbStep :=
  eventDbOpen_within_of opensLogs_dbStep

/-! ## Opening a segment -/

theorem hlsCreate_within (config : Config) :
    (hlsCreate config).Within SegmentStep := by
  have call_segmentStep : ∀ possible,
      (call .alloc possible).Within SegmentStep := fun possible =>
    (call_dbStep .alloc possible).mono fun _ _ => SegmentStep.db
  refine Within.bind (call_segmentStep _) fun m3u => ?_
  refine Within.bind (Within.modify fun state =>
    SegmentStep.playlist state _) fun _ => ?_
  refine Within.bind (call_segmentStep _) fun hls => ?_
  exact Within.bind (Within.modify fun state =>
    SegmentStep.muxer state _) fun _ => Within.pure _

theorem openSegment_within (config : Config) :
    (openSegment config).Within SegmentStep := by
  have close : eventDbClose.Within SegmentStep :=
    eventDbClose_within.mono fun _ _ => SegmentStep.db
  refine Within.bind (eventDbOpen_within.mono fun _ _ => SegmentStep.db)
    fun db => ?_
  refine Within.ite (fun _ => Within.pure _) fun _ => ?_
  refine Within.bind (eventDbAddSegment_within.mono fun _ _ =>
    SegmentStep.db) fun id => ?_
  refine Within.bind (Within.modify fun state =>
    SegmentStep.identify state id) fun _ => ?_
  refine Within.ite (fun _ => ?_) fun _ => ?_
  · exact Within.bind close fun _ => Within.pure _
  refine Within.bind (Within.modify fun state =>
    SegmentStep.reset state config.fpsLow) fun _ => ?_
  refine Within.bind (hlsCreate_within config) fun hls => ?_
  refine Within.ite (fun _ => ?_) fun _ => Within.pure _
  exact Within.bind close fun _ => Within.pure _

/-! ## Changing days -/

theorem openToday_within (config : Config) :
    (openToday config).Within DayStep := by
  refine Within.bind (Within.modify DayStep.opening) fun _ => ?_
  refine Within.bind (openFolder_within.mono fun _ _ => DayStep.folder)
    fun folder => ?_
  refine Within.bind (Within.ite (fun _ => Within.pure _) fun _ =>
    (openSegment_within config).mono fun _ _ => DayStep.segment)
    fun result => ?_
  exact Within.bind (Within.modify fun state =>
    DayStep.opened state result) fun _ => Within.pure _

theorem metaDbEnsureDay_within : metaDbEnsureDay.Within DayStep :=
  Within.bind (Within.modify DayStep.ensureDay) fun _ =>
    insertDay_within.mono fun _ _ step => .segment (.db (.statement step))

theorem closeDay_within (config : Config) :
    (writerStop config).Within DayStep := by
  refine Within.bind ((hlsFlushAndDestroy_within config).mono fun _ _ =>
    DayStep.flush) fun _ => ?_
  refine Within.bind (eventDbUpdateTotalFrames_within.mono fun _ _ =>
    DayStep.total) fun _ => ?_
  exact eventDbClose_within.mono fun _ _ step => .segment (.db step)

theorem rolloverDay_within (config : Config) :
    (rolloverDay config).Within DayStep := by
  refine Within.bind ((hlsFlushAndDestroy_within config).mono fun _ _ =>
    DayStep.flush) fun _ => ?_
  refine Within.bind (eventDbUpdateTotalFrames_within.mono fun _ _ =>
    DayStep.total) fun _ => ?_
  refine Within.bind (eventDbClose_within.mono fun _ _ step =>
    .segment (.db step)) fun _ => ?_
  refine Within.bind (openToday_within config) fun result => ?_
  exact Within.bind (Within.ite (fun _ => metaDbEnsureDay_within) fun _ =>
    Within.pure _) fun _ => Within.pure _

theorem rolloverIfNewDay_within (config : Config) :
    (rolloverIfNewDay config).Within DayStep := by
  refine Within.bind todayString_within fun today => ?_
  refine Within.bind (Within.modify fun state =>
    DayStep.ingest state today.1 today.2) fun _ => ?_
  refine Within.bind Within.current fun state => ?_
  refine Within.ite (fun _ => ?_) fun _ => Within.pure _
  exact Within.bind (rolloverDay_within config) fun _ => Within.pure _

theorem writerBoot_within (config : Config) :
    (writerBoot config).Within DayStep := by
  refine Within.bind (openToday_within config) fun opened => ?_
  refine Within.ite (fun _ => Within.pure _) fun _ => ?_
  refine Within.bind (metaDbInit_within.mono fun _ _ step =>
    .segment (.db step)) fun ready => ?_
  refine Within.ite (fun _ => ?_) fun _ => ?_
  · refine Within.bind ((hlsFlushAndDestroy_within config).mono fun _ _ =>
      DayStep.flush) fun _ => ?_
    exact Within.bind (eventDbClose_within.mono fun _ _ step =>
      .segment (.db step)) fun _ => Within.pure _
  · exact Within.bind metaDbEnsureDay_within fun _ => Within.pure _

/-! ## A frame on its way to the muxer -/

theorem passesGate_within (frame : FqFrame) :
    (passesGate frame).Within FrameStep := by
  refine Within.bind (Within.modify fun state =>
    FrameStep.gate state frame.isKey) fun _ => ?_
  refine Within.bind Within.current fun state => ?_
  refine Within.ite (fun _ => Within.pure _) fun _ => ?_
  refine Within.ite (fun _ => ?_) fun _ => ?_
  · exact Within.bind (Within.modify fun before =>
      FrameStep.discarded before frame) fun _ => Within.pure _
  · exact Within.bind (Within.modify FrameStep.pass) fun _ => Within.pure _

/-- A division is recorded, whether it traps or not. -/
theorem divide_within
    {step : State → State → Prop}
    {divisor : Int}
    (recorded : ∀ state, step state (state.log (.divides divisor))) :
    (divide divisor).Within step :=
  Within.bind (Within.modify recorded) fun _ =>
    Within.ite (fun _ => Within.halt) fun _ => Within.pure _

theorem feedMuxer_within (config : Config) (frame : FqFrame) :
    (feedMuxer config frame).Within FrameStep := by
  refine Within.bind (divide_within fun state =>
    FrameStep.divides state 1000 (by decide)) fun _ => ?_
  refine Within.bind (Within.modify fun state =>
    FrameStep.timestamp state _) fun _ => ?_
  refine Within.bind (Within.modify fun state =>
    FrameStep.fed state frame) fun _ => ?_
  refine Within.bind ((hlsMediaInput_within _ _ _ _ _).mono fun _ _ =>
    FrameStep.hls) fun _ => ?_
  exact Within.modify FrameStep.count

/-! ## The accounting of a frame -/

theorem recordMotion_within (config : Config) :
    (recordMotion config).Within MarkStep := by
  refine Within.bind (Within.bind Within.answer fun _ => Within.pure _)
    fun now => ?_
  refine Within.bind Within.current fun state => ?_
  refine Within.ite (fun _ => ?_) fun _ => Within.pure _
  refine Within.bind (Within.modify MarkStep.countMotion) fun _ => ?_
  refine Within.bind (Within.modify MarkStep.mark) fun _ => ?_
  refine Within.bind ((eventDbAddMotion_within _ _).mono fun _ _ =>
    MarkStep.statement) fun _ => ?_
  refine Within.bind ((metaDbUpsertMotionCount_within _).mono fun _ _ =>
    MarkStep.statement) fun _ => ?_
  refine Within.bind (Within.modify MarkStep.counted) fun _ => ?_
  exact Within.modify fun before => MarkStep.lastMotion before now

theorem recordProgress_within (config : Config) :
    (recordProgress config).Within ProgressStep := by
  have update : eventDbUpdateTotalFrames.Within ProgressStep :=
    eventDbUpdateTotalFrames_within.mono fun _ _ => ProgressStep.total
  refine Within.bind Within.answer fun fps => ?_
  refine Within.bind (Within.modify fun before =>
    ProgressStep.lastFps before fps.currentFps) fun _ => ?_
  refine Within.bind (Within.modify fun before =>
    ProgressStep.judged before _) fun _ => ?_
  refine Within.ite (fun _ => ?_) fun _ => update
  refine Within.bind ((recordMotion_within config).mono fun _ _ =>
    ProgressStep.marks) fun _ => ?_
  refine Within.bind (Within.modify ProgressStep.motion) fun _ => ?_
  refine Within.bind (divide_within fun before =>
    ProgressStep.divides before _) fun _ => ?_
  refine Within.bind (divide_within fun before =>
    ProgressStep.divides before _) fun _ => ?_
  refine Within.bind Within.current fun state => ?_
  exact Within.ite (fun _ => update) fun _ => Within.pure _

/-! ## Retention -/

theorem call_retentionStep (kind : Call) (possible : State → Bool) :
    (call kind possible).Within RetentionStep :=
  call_within (fun state => RetentionStep.called state kind) possible

theorem removeRecursive_within (date : CString) :
    (removeRecursive date).Within RetentionStep := by
  refine Within.bind Within.answer fun progress => ?_
  refine Within.bind (Within.modify fun state =>
    RetentionStep.removePart state date progress.removal) fun _ => ?_
  refine Within.bind (call_retentionStep _ _) fun finished => ?_
  refine Within.ite (fun _ => Within.pure _) fun _ => ?_
  exact Within.bind (Within.modify fun state =>
    RetentionStep.removeDay state date) fun _ => Within.pure _

/-- A removal of a day whose row is pending. -/
theorem removePathTree_within
    {state : State} {date : CString}
    (pending : MetaRow.firstPending state.disk.metaRows = some date) :
    (removePathTree date).wp
      (fun _ => Relation.ReflTransGen RetentionStep state)
      (Relation.ReflTransGen RetentionStep state) state := by
  refine Within.continue
    (.single (RetentionStep.removing state date pending)) fun _ => ?_
  refine Within.bind (call_retentionStep _ _) fun found => ?_
  refine Within.bind Within.current fun looked => ?_
  refine Within.bind ?_ fun result => ?_
  · refine Within.ite (fun _ => Within.pure _) fun _ => ?_
    exact Within.ite (fun _ => Within.pure _) fun _ =>
      removeRecursive_within date
  · exact Within.bind (Within.modify fun before =>
      RetentionStep.removed before date result) fun _ => Within.pure _

theorem retentionProcessTasks_within (budget : Nat) :
    (retentionProcessTasks budget).Within RetentionStep := by
  induction budget with
  | zero => exact Within.pure _
  | succ budget inductionHypothesis =>
      rw [retentionProcessTasks]
      refine Within.bind (call_retentionStep _ _) fun selected => ?_
      refine Within.ite (fun _ => Within.pure _) fun _ => ?_
      refine Within.bindCurrent fun state => ?_
      cases pending : MetaRow.firstPending state.disk.metaRows with
      | none => exact .refl
      | some date =>
          by_cases unnamed : date = []
          · simp only [if_pos unnamed]
            exact .refl
          simp only [if_neg unnamed]
          refine Within.continue (removePathTree_within pending)
            fun result => ?_
          refine Within.ite (fun _ => Within.pure _) fun _ => ?_
          refine Within.bind (call_retentionStep _ _) fun deleted => ?_
          refine Within.ite (fun _ => Within.pure _) fun _ => ?_
          refine Within.bind (Within.modify fun before =>
            RetentionStep.delete before date) fun _ => ?_
          exact Within.bind (Within.modify fun before =>
            RetentionStep.rowDeleted before date) fun _ => inductionHypothesis

/-- Retention steps leave the day being recorded as it is. -/
theorem date_of_retentionPath
    {before after : State}
    (path : Relation.ReflTransGen RetentionStep before after) :
    after.ws.date = before.ws.date := by
  induction path with
  | refl => rfl
  | tail _ last earlier => cases last <;> exact earlier

/-- The oldest candidate is another day. -/
theorem oldestCandidate_ne
    {today date : CString} {rows : List MetaRow}
    (candidate : MetaRow.oldestCandidate today rows = some date) :
    date ≠ today := by
  have present := List.min?_mem candidate
  obtain ⟨row, selected, rfl⟩ := List.mem_map.mp present
  rw [List.mem_filter, Bool.and_eq_true] at selected
  simpa using selected.2.1

/-- Only another day is scheduled for deletion. -/
theorem retentionScheduleDelete_within
    {state : State} {date : CString}
    (notToday : date ≠ state.ws.date) :
    (retentionScheduleDelete date).wp
      (fun _ => Relation.ReflTransGen RetentionStep state)
      (Relation.ReflTransGen RetentionStep state) state := by
  refine wp_then (call_retentionStep _ _ state) fun updated reached path => ?_
  have sameDate := date_of_retentionPath path
  rw [wp_ite]
  split
  · exact path
  · exact path.tail
      (RetentionStep.schedule reached date (by rw [sameDate]; exact notToday))

theorem metaDbOldestRetentionCandidate_within (today : CString) :
    (metaDbOldestRetentionCandidate today).Within RetentionStep := by
  refine Within.bind Within.current fun state => ?_
  refine Within.ite (fun _ => Within.pure _) fun _ => ?_
  refine Within.bind (call_retentionStep _ _) fun selected => ?_
  refine Within.ite (fun _ => Within.pure _) fun _ => ?_
  exact Within.bind Within.current fun found => Within.pure _

/-- A retention candidate is another day. -/
theorem metaDbOldestRetentionCandidate_ne (today : CString) (state : State) :
    (metaDbOldestRetentionCandidate today).wp
      (fun candidate _ => ∀ date, candidate = some date → date ≠ today)
      (fun _ => True) state := by
  simp only [metaDbOldestRetentionCandidate, wp_bind, wp_current, wp_ite,
    wp_pure, wp_call, true_and]
  split
  · simp
  intro selected _
  split
  · simp
  · exact fun date candidate => oldestCandidate_ne candidate

/-- Cleaning up makes retention steps only. -/
theorem checkAndCleanup_within (config : Config) :
    (checkAndCleanup config).Within RetentionStep := by
  refine Within.bindCurrent fun start => ?_
  rw [wp_ite]
  split
  · exact .single (RetentionStep.notDue start)
  rw [wp_bind, wp_setWs, wp_bind, wp_log]
  have path := Relation.ReflTransGen.single (RetentionStep.reset start)
  refine wp_then ((retentionProcessTasks_within 1).after path)
    fun _ state path => ?_
  have statvfs : fsFreeMb.Within RetentionStep :=
    Within.bind (call_retentionStep _ _) fun _ => Within.pure _
  refine wp_then (statvfs.after path) fun freeMb state path => ?_
  rw [wp_ite]
  split
  · exact path
  have chosen := wp_and
    ((metaDbOldestRetentionCandidate_within start.ws.date).after path)
    (metaDbOldestRetentionCandidate_ne start.ws.date state)
  refine wp_then (wp_mono chosen (fun _ _ both => both)
    fun _ both => both.1) ?_
  rintro candidate state ⟨path, others⟩
  cases candidate with
  | none => exact path
  | some target =>
      refine wp_then (wp_mono
        (Within.modify (fun before =>
          RetentionStep.scheduling before target freeMb) state)
        (fun _ _ last => path.trans last) fun _ last => path.trans last)
        fun _ state path => ?_
      have notToday : target ≠ state.ws.date := by
        rw [date_of_retentionPath path]
        exact others target rfl
      refine wp_then (wp_mono (retentionScheduleDelete_within notToday)
        (fun _ _ later => path.trans later) fun _ later => path.trans later)
        fun queued state path => ?_
      rw [wp_ite]
      split
      · exact path
      · exact (retentionProcessTasks_within 1).after path

end Storage
end MotionSense
