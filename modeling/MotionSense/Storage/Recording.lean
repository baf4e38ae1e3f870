import MotionSense.Storage.KeptFiles

/-!
# Every frame is recorded exactly once and counted

In a life of the writer in which opening days, statements and writes of files
succeed, the logs of the segment folders account for every frame popped: in the
order of popping each frame was held back or fed in one folder, the files
published there hold the frames fed, its row counts them, and until the removal
of its day begins the files are on the card.
-/

namespace MotionSense

namespace State

/-! ## The folder being recorded -/

/-- The folders opened before are finished; the account of the current one has
its row, and with the older folders it accounts for the frames taken. -/
structure Records
    (taken : List FqFrame) (account : FolderAccount) (older : List FolderLog)
    (state : State) : Prop where
  finished : ∀ log ∈ older, log.Finished state.disk
  apart : ∀ log ∈ older,
    ¬ (log.eventDb = account.eventDb ∧ log.segmentId = account.segmentId)
  taken : older.reverse.flatMap FolderLog.frames ++
    (account.discarded ++ account.fed) = taken
  discarded : ∀ frame ∈ account.discarded, frame.isKey = false
  firstFed : ∀ frame ∈ account.fed.head?, frame.isKey = true
  opened : state.ws.eventDb = account.eventDb
  identified : state.ws.currentSegmentId = account.segmentId
  counted : state.ws.frameCount = account.fed.length
  row : (account.totalFrames state.disk).isSome = true

/-- The folder is open and its gate has opened with the first frame fed. -/
def RecordsAt (taken : List FqFrame) (state : State) : Prop :=
  state.Succeeds → ∃ account older, state.Records taken account older ∧
    state.HasMuxer account older (account.fed.filterMap FqFrame.payload) ∧
    (state.ws.seenKeyframe = true ↔ account.fed ≠ [])

/-- The frame at hand may be fed. -/
def Passes (taken : List FqFrame) (frame : FqFrame) (state : State) : Prop :=
  state.Succeeds → ∃ account older, state.Records taken account older ∧
    state.HasMuxer account older (account.fed.filterMap FqFrame.payload) ∧
    state.ws.seenKeyframe = true ∧ (account.fed = [] → frame.isKey = true)

/-- The muxer of the folder has been flushed: everything fed is published. -/
def Flushed (taken : List FqFrame) (state : State) : Prop :=
  state.Succeeds → ∃ log older,
    state.Records taken log.toFolderAccount older ∧
      state.logs = log :: older ∧
      (∃ count, log.index = (List.range count).map tsName) ∧
      (∀ name ∈ log.index, (log.files name).isSome = true) ∧
      log.media = log.fed.filterMap FqFrame.payload

/-- All folders are finished, and they account for the frames taken. -/
def Left (taken : List FqFrame) (state : State) : Prop :=
  state.Succeeds → (∀ log ∈ state.logs, log.Finished state.disk) ∧
    state.logs.reverse.flatMap FolderLog.frames = taken

/-- The fields of the writer that the muxer and its playlist are in. -/
def muxView (state : State) :
    Option HlsMedia × Option (List PlaylistEntry) × Nat :=
  (state.ws.hls, state.ws.m3u, state.ws.tsIdx)

theorem logs_discarded (state : State) (frame : FqFrame) :
    (state.log (.discarded frame)).logs = Moment.extendLog
      (fun log => { log with discarded := log.discarded ++ [frame] })
      state.logs := rfl

theorem logs_fed (state : State) (frame : FqFrame) :
    (state.log (.fed frame)).logs = Moment.extendLog
      (fun log => { log with fed := log.fed ++ [frame] }) state.logs := rfl

/-! ## Transport -/

section

variable {before after : State} {taken : List FqFrame}
  {account : FolderAccount} {older : List FolderLog}
  {given buffer : List FqFrame}

theorem Carries.muxes
    (carries : before.Carries after)
    (sameAccount : after.accountView = before.accountView) :
    before.Muxes after :=
  ⟨carries.succeeds, carries.rows, sameAccount⟩

/-- The row of an account is kept. -/
theorem isSome_totalFrames
    {earlier later : Disk} (keeps : earlier.KeepsRows later)
    (row : (account.totalFrames earlier).isSome = true) :
    (account.totalFrames later).isSome = true := by
  obtain ⟨total, found⟩ := Option.isSome_iff_exists.mp row
  simp only [FolderAccount.totalFrames, Option.bind_eq_some_iff,
    Option.map_eq_some_iff] at found
  obtain ⟨file, opened, row, listed, _⟩ := found
  rw [FolderAccount.totalFrames, opened, Option.bind_some,
    keeps file _ row listed]
  rfl

/-- Where the counters and the rows stay, the account stays. -/
theorem Records.of_muxes
    (records : before.Records taken account older)
    (muxes : before.Muxes after) :
    after.Records taken account older := by
  have views := muxes.account
  simp only [accountView, Prod.mk.injEq] at views
  obtain ⟨_, sameCount, sameDb, sameId⟩ := views
  exact
    { finished := fun log listed =>
        (records.finished log listed).of_keepsRows muxes.rows
      apart := records.apart
      taken := records.taken
      discarded := records.discarded
      firstFed := records.firstFed
      opened := sameDb.trans records.opened
      identified := sameId.trans records.identified
      counted := sameCount.trans records.counted
      row := isSome_totalFrames muxes.rows records.row }

theorem MuxesInto.of_same
    (muxes : before.MuxesInto account older given buffer)
    (logs : after.logs = before.logs)
    (m3u : after.ws.m3u = before.ws.m3u)
    (tsIdx : after.ws.tsIdx = before.ws.tsIdx) :
    after.MuxesInto account older given buffer := by
  obtain ⟨log, isFirst, accounted, playlist, index, files, media⟩ := muxes
  refine ⟨log, logs.trans isFirst, accounted, ?_, ?_, files, media⟩
  · rw [m3u, tsIdx]
    exact playlist
  · rw [tsIdx]
    exact index

theorem HasMuxer.of_same
    (muxes : before.HasMuxer account older given)
    (logs : after.logs = before.logs)
    (muxer : after.muxView = before.muxView) :
    after.HasMuxer account older given := by
  simp only [muxView, Prod.mk.injEq] at muxer
  obtain ⟨hls, opened, blank, muxes⟩ := muxes
  exact ⟨hls, muxer.1.trans opened, blank,
    muxes.of_same logs muxer.2.1 muxer.2.2⟩

/-- A step that leaves the logs, the muxer and the gate alone and keeps the
account keeps the folder. -/
theorem RecordsAt.of_records
    (records : before.RecordsAt taken)
    (succeeds : after.Succeeds → before.Succeeds)
    (logs : after.logs = before.logs)
    (muxer : after.muxView = before.muxView)
    (gate : after.ws.seenKeyframe = before.ws.seenKeyframe)
    (kept : ∀ account older, before.Records taken account older →
      after.Records taken account older) :
    after.RecordsAt taken := by
  intro worked
  obtain ⟨account, older, recorded, muxes, opens⟩ := records (succeeds worked)
  refine ⟨account, older, kept _ _ recorded, muxes.of_same logs muxer, ?_⟩
  rw [gate]
  exact opens

theorem RecordsAt.of_carries
    (records : before.RecordsAt taken)
    (carries : before.Carries after)
    (sameAccount : after.accountView = before.accountView)
    (muxer : after.muxView = before.muxView) :
    after.RecordsAt taken :=
  records.of_records carries.succeeds carries.logs muxer
    (congrArg Prod.fst sameAccount) fun _ _ recorded =>
      recorded.of_muxes (carries.muxes sameAccount)

theorem Left.of_carries
    (left : before.Left taken) (carries : before.Carries after) :
    after.Left taken := by
  intro worked
  obtain ⟨finished, accounted⟩ := left (carries.succeeds worked)
  rw [carries.logs]
  exact ⟨fun log listed => (finished log listed).of_keepsRows carries.rows,
    accounted⟩

end

/-! ## The steps -/

/-- Updating the total of the open folder touches no other row. -/
theorem records_update
    {state : State} {taken : List FqFrame} {account : FolderAccount}
    {older : List FolderLog}
    (records : state.Records taken account older)
    {file : Nat} (opened : state.ws.eventDb = some file) :
    (state.updateDisk fun disk => disk.updateEventDb file
      (EventDb.updateTotalFrames state.ws.currentSegmentId
        state.ws.frameCount)).Records taken account older ∧
    account.totalFrames (state.disk.updateEventDb file
      (EventDb.updateTotalFrames state.ws.currentSegmentId
        state.ws.frameCount)) = some (account.fed.length : Int) := by
  have sameFile : account.eventDb = some file :=
    records.opened.symm.trans opened
  -- The file is there, since the account has its row in it.
  obtain ⟨total, found⟩ := Option.isSome_iff_exists.mp records.row
  simp only [FolderAccount.totalFrames, Option.bind_eq_some_iff,
    Option.map_eq_some_iff] at found
  obtain ⟨_, sameOpened, row, listed, _⟩ := found
  obtain rfl : file = _ := Option.some.inj (sameFile.symm.trans sameOpened)
  have inside := Disk.lt_of_segmentRow listed
  have counted : account.totalFrames (state.disk.updateEventDb file
      (EventDb.updateTotalFrames state.ws.currentSegmentId
        state.ws.frameCount)) = some (account.fed.length : Int) := by
    rw [FolderAccount.totalFrames, sameFile, Option.bind_some,
      Disk.eventDb_updateEventDb, if_pos ⟨rfl, inside⟩,
      EventDb.segmentRow_updateTotalFrames listed, records.identified,
      if_pos rfl, records.counted]
    rfl
  refine ⟨{ records with finished := ?_, row := ?_ }, counted⟩
  · intro log isOlder
    have finished := records.finished log isOlder
    refine { finished with totalFrames := ?_ }
    have total := finished.totalFrames
    simp only [FolderAccount.totalFrames, Option.bind_eq_some_iff,
      Option.map_eq_some_iff] at total ⊢
    obtain ⟨other, otherFile, row, listed, total⟩ := total
    by_cases same : file = other
    · have different : state.ws.currentSegmentId ≠ log.segmentId := by
        intro sameId
        refine records.apart log isOlder ⟨?_, ?_⟩
        · rw [otherFile, ← same, sameFile]
        · rw [← sameId, records.identified]
      refine ⟨other, otherFile, row, ?_, total⟩
      rw [State.disk_updateDisk, Disk.eventDb_updateEventDb]
      split
      · rw [EventDb.segmentRow_updateTotalFrames listed, if_neg different]
      · exact listed
    · refine ⟨other, otherFile, row, ?_, total⟩
      rw [State.disk_updateDisk, Disk.eventDb_updateEventDb,
        if_neg fun both => same both.1]
      exact listed
  · rw [State.disk_updateDisk, counted]
    rfl

theorem succeeds_totalStep
    (before after : State) (step : TotalStep before after)
    (succeeds : after.Succeeds) : before.Succeeds := by
  cases step with
  | called kind succeeded => exact ((succeeds_log _ _).mp succeeds).2
  | update file opened => exact ((succeeds_log _ _).mp succeeds).2

theorem succeeds_frameStep
    (before after : State) (step : FrameStep before after)
    (succeeds : after.Succeeds) : before.Succeeds := by
  cases step with
  | hls step => exact (muxes_hlsStep _ _ step).succeeds succeeds
  | pass => exact succeeds
  | timestamp ptsMs => exact succeeds
  | count => exact succeeds
  | _ => exact ((succeeds_log _ _).mp succeeds).2

theorem recordsAt_totalStep
    {taken : List FqFrame}
    (before after : State) (step : TotalStep before after)
    (records : before.RecordsAt taken) : after.RecordsAt taken := by
  cases step with
  | called kind succeeded => exact records.of_carries (.log rfl) rfl rfl
  | update file opened =>
      have updated : RecordsAt taken (before.updateDisk fun disk =>
          disk.updateEventDb file (EventDb.updateTotalFrames
            before.ws.currentSegmentId before.ws.frameCount)) :=
        records.of_records id rfl rfl rfl fun account older recorded =>
          (records_update recorded opened).1
      exact updated.of_carries (.log rfl) rfl rfl

theorem recordsAt_statementStep
    {taken : List FqFrame}
    (before after : State) (step : StatementStep EventDb.Marks before after)
    (records : before.RecordsAt taken) : after.RecordsAt taken := by
  refine records.of_carries (carries_statementStep
    (fun _ marks _ _ _ => marks.keeps) _ _ step) ?_ ?_ <;>
    cases step <;> rfl

theorem recordsAt_progressStep
    {taken : List FqFrame}
    (before after : State) (step : ProgressStep before after)
    (records : before.RecordsAt taken) : after.RecordsAt taken := by
  cases step with
  | marks step =>
      cases step with
      | statement step => exact recordsAt_statementStep _ _ step records
      | countMotion => exact records.of_carries (.updateWs _ _) rfl rfl
      | mark => exact records.of_carries (.log rfl) rfl rfl
      | counted => exact records.of_carries (.log rfl) rfl rfl
      | lastMotion now => exact records.of_carries (.updateWs _ _) rfl rfl
  | total step => exact recordsAt_totalStep _ _ step records
  | lastFps fps => exact records.of_carries (.updateWs _ _) rfl rfl
  | judged | motion => exact records.of_carries (.log rfl) rfl rfl
  | divides divisor => exact records.of_carries (.log rfl) rfl rfl

theorem recordsAt_retentionStep
    {taken : List FqFrame}
    (before after : State) (step : RetentionStep before after)
    (records : before.RecordsAt taken) : after.RecordsAt taken := by
  refine records.of_carries (carries_retentionStep _ _ step) ?_ ?_ <;>
    cases step <;> rfl

end State

namespace Storage

open Program State

variable (config : Config) {taken : List FqFrame} {state : State}

/-! ## The functions -/

/-- A program whose steps keep an invariant keeps it. -/
theorem wp_of_closed
    {step : State → State → Prop}
    {program : Storage α}
    (within : program.Within step)
    {invariant : State → Prop}
    (closed : ∀ before after, step before after →
      invariant before → invariant after)
    (holds : invariant state) :
    program.wp (fun _ => invariant) (fun _ => True) state :=
  wp_mono (within.keeps closed state holds) (fun _ _ kept => kept)
    fun _ _ => trivial

/-- A program that forgets no failure does not undo one. -/
theorem wp_fails
    {step : State → State → Prop}
    {program : Storage α}
    (within : program.Within step)
    (remembers : ∀ before after, step before after →
      after.Succeeds → before.Succeeds)
    (failed : ¬ state.Succeeds) :
    program.wp (fun _ after => ¬ after.Succeeds) (fun _ => True) state := by
  have closed : ∀ before after, step before after →
      ¬ before.Succeeds → ¬ after.Succeeds :=
    fun before after step fails succeeds =>
      fails (remembers before after step succeeds)
  exact wp_of_closed within closed failed

/-- A failed call is not forgotten. -/
theorem not_succeeds_of_call
    {before : State} {kind : Call} {choice : Choice}
    (counts : [Call.openDb, .sql, .writeFile, .rename, .fsyncDir].contains
      kind = true)
    (failed : (!choice.ok) = true) :
    ¬ (before.log (.called kind choice.ok)).Succeeds := by
  intro succeeds
  have first := ((succeeds_log _ _).mp succeeds).1
  rw [Bool.not_eq_true'] at failed
  simp [Moment.succeeded, failed] at first
  simp [first] at counts

/-- Flushing the muxer publishes what was still in its buffer. -/
theorem hlsFlushAndDestroy_flushes (records : state.RecordsAt taken) :
    (hlsFlushAndDestroy config).wp (fun _ => Flushed taken) (fun _ => True)
      state := by
  by_cases worked : state.Succeeds
  swap
  · exact wp_mono (wp_fails (hlsFlushAndDestroy_within config)
      (fun _ _ step => (muxes_flushStep _ _ step).succeeds) worked)
      (fun _ _ fails succeeds => absurd succeeds fails) fun _ => id
  obtain ⟨account, older, recorded, muxes, _⟩ := records worked
  have present : state.ws.hls.isSome = true := by
    obtain ⟨hls, opened, _⟩ := muxes
    rw [opened]
    rfl
  rw [hlsFlushAndDestroy, wp_bind, wp_current, if_pos present]
  refine wp_via (fun _ => Flushed taken) ?_ fun _ reached flushed => ?_
  · rw [hlsFlush]
    refine wp_then (wp_mono (wp_and
      (hlsMediaInput_publishes config muxes none 0 0 false)
      (wp_of_steps Muxes.refl Muxes.trans
        (hlsMediaInput_within config none 0 0 false) muxes_hlsStep state))
      (fun _ _ both => both) fun _ _ => trivial) ?_
    rintro _ reached ⟨published, muxed⟩ succeeds
    obtain ⟨log, logs, accounted, muxing⟩ := (published succeeds).2 rfl
    refine ⟨log, older, ?_, logs, ⟨_, muxing.index⟩, muxing.files, ?_⟩
    · rw [accounted]
      exact (recorded.of_muxes muxed).of_muxes ⟨id, .of_eq rfl, rfl⟩
    · have media := muxing.media
      rw [List.append_nil] at media
      rw [media, ← accounted]
  · intro succeeds
    obtain ⟨log, older, recorded, published⟩ := flushed succeeds
    exact ⟨log, older, recorded.of_muxes ⟨id, .of_eq rfl, rfl⟩, published⟩

/-- Updating the total finishes a flushed folder. -/
theorem eventDbUpdateTotalFrames_leaves (flushed : state.Flushed taken) :
    eventDbUpdateTotalFrames.wp (fun _ => Left taken) (fun _ => True)
      state := by
  by_cases worked : state.Succeeds
  swap
  · exact wp_mono (wp_fails eventDbUpdateTotalFrames_within
      succeeds_totalStep worked)
      (fun _ _ fails succeeds => absurd succeeds fails) fun _ => id
  obtain ⟨log, older, recorded, logs, index, files, media⟩ := flushed worked
  -- The account has a row, so the database is open and the id is valid.
  obtain ⟨total, found⟩ := Option.isSome_iff_exists.mp recorded.row
  simp only [FolderAccount.totalFrames, Option.bind_eq_some_iff,
    Option.map_eq_some_iff] at found
  obtain ⟨file, logDb, row, listed, _⟩ := found
  have opened : state.ws.eventDb = some file := recorded.opened.trans logDb
  have valid : 0 < state.ws.currentSegmentId := by
    rw [recorded.identified]
    exact (EventDb.segmentRow_eq_some.mp listed).1
  rw [eventDbUpdateTotalFrames, wp_bind, wp_current]
  refine wp_split (fun refused => ?_) fun _ => ?_
  · simp [opened] at refused
    omega
  rw [wp_bind, wp_call]
  refine ⟨trivial, fun updated _ => ?_⟩
  refine wp_split (fun failed succeeds =>
    absurd succeeds (not_succeeds_of_call rfl failed)) fun _ => ?_
  rw [wp_bind, updateEventDb, wp_bind, wp_current]
  simp only [State.ws_log, opened]
  intro _
  have called : (state.log (.called .sql updated.ok)).Records taken
      log.toFolderAccount older :=
    recorded.of_muxes (Muxes.log _ _)
  obtain ⟨updates, counted⟩ := State.records_update called opened
  change (∀ each ∈ state.logs, _) ∧ state.logs.reverse.flatMap _ = taken
  rw [logs]
  refine ⟨List.forall_mem_cons.mpr ⟨?_, updates.finished⟩, ?_⟩
  · exact
      { discarded := recorded.discarded
        firstFed := recorded.firstFed
        index := index
        files := files
        media := media
        totalFrames := counted }
  · rw [List.reverse_cons, List.flatMap_append, ← recorded.taken]
    simp [FolderLog.frames]

/-- The row that a new segment gets has the id that is returned, and no other
account has that row. -/
theorem eventDbAddSegment_adds (left : state.Left taken) :
    eventDbAddSegment.wp
      (fun id after => after.Left taken ∧ (after.Succeeds → 0 ≤ id →
        ∃ file row, after.ws.eventDb = some file ∧
          (after.disk.eventDb file).segmentRow id = some row ∧
          ∀ log ∈ after.logs, ¬ (log.eventDb = some file ∧
            log.segmentId = id)))
      (fun _ => True) state := by
  rw [eventDbAddSegment, wp_bind, wp_current]
  refine wp_split (fun _ => ⟨left, fun _ valid => by omega⟩) fun _ => ?_
  simp only [wp_bind, wp_answer, true_and, wp_call]
  intro time clock inserted possible
  have called : (state.log (.called .sql inserted.ok)).Left taken :=
    left.of_carries (.log rfl)
  refine wp_split (fun _ => ⟨called, fun _ valid => by omega⟩) fun worked => ?_
  have accepts := possible (by simpa using worked)
  rw [updateEventDb]
  simp only [wp_bind, wp_current, State.ws_log, State.disk_log]
  cases opened : state.ws.eventDb with
  | none => simp [State.eventReady, opened] at accepts
  | some file =>
      simp only [wp_setDisk]
      simp only [State.eventReady, opened] at accepts
      have ready := EventDb.isSome_of_accepts accepts
      have inside := Disk.lt_of_segments ready
      refine ⟨called.of_carries (.trans (.updateDisk (.updateEventDb _ file
        fun db id row => EventDb.insertSegment_keeps _ _))
        (.log rfl)), ?_⟩
      intro succeeds _
      refine ⟨file, ⟨(zeroPadded 5 state.ws.interruptIdx).take 7,
        time.tm.startTime clock.usec, -1⟩, opened, ?_,
          fun log listed same => ?_⟩
      · rw [State.disk_log, State.disk_updateDisk,
          Disk.eventDb_updateEventDb, if_pos ⟨rfl, inside⟩]
        exact EventDb.segmentRow_insertSegment ready _ _
      · -- The row of a finished folder lies below the next id.
        have earlier := ((succeeds_log _ _).mp succeeds).2
        have total := ((called earlier).1 log listed).totalFrames
        simp only [FolderAccount.totalFrames, Option.bind_eq_some_iff,
          Option.map_eq_some_iff] at total
        obtain ⟨other, otherFile, row, found, _⟩ := total
        obtain rfl : file = other :=
          Option.some.inj (same.1.symm.trans otherFile)
        have below := EventDb.lt_nextSegmentId found
        rw [State.disk_log] at below
        omega

/-- A segment that was opened starts an empty account. -/
theorem openSegment_records (left : state.Left taken) :
    (openSegment config).wp
      (fun result after => (after.log (.opened result)).Succeeds →
        (after.log (.opened result)).RecordsAt taken)
      (fun _ => True) state := by
  have fails : ∀ {after : State},
      ¬ (after.log (.opened (-1))).Succeeds := by
    intro after succeeds
    have first := ((succeeds_log _ _).mp succeeds).1
    simp [Moment.succeeded] at first
  have closed : ∀ before after, DbStep before after →
      before.Left taken → after.Left taken := fun before after step left =>
    left.of_carries (carries_dbStep _ _ step)
  rw [openSegment]
  refine wp_then (wp_of_closed eventDbOpen_within closed left)
    fun db reached left => ?_
  refine wp_split (fun _ succeeds => absurd succeeds fails) fun _ => ?_
  refine wp_then (eventDbAddSegment_adds left) ?_
  rintro id reached ⟨left, added⟩
  rw [wp_bind, wp_setWs]
  refine wp_split (fun _ => ?_) fun valid => ?_
  · rw [wp_bind, eventDbClose, wp_setWs]
    exact fun succeeds => absurd succeeds fails
  rw [wp_bind, resetSegment, wp_setWs, hlsCreate]
  simp only [wp_bind, wp_call, wp_setWs, true_and]
  intro m3u _ hls _
  refine wp_split (fun _ => ?_) fun created => ?_
  · rw [wp_bind, eventDbClose, wp_setWs]
    exact fun succeeds => absurd succeeds fails
  intro succeeds _
  have both : hls.ok = true ∧ m3u.ok = true := by
    by_contra refused
    simp_all
  have allocated := ((succeeds_log _ _).mp succeeds).2
  have reachedSucceeds : reached.Succeeds :=
    ((succeeds_log _ _).mp ((succeeds_log _ _).mp allocated).2).2
  obtain ⟨finished, accounted⟩ := left reachedSucceeds
  obtain ⟨file, row, opened, listed, apart⟩ :=
    added reachedSucceeds (by omega)
  refine ⟨_, reached.logs, ?_, ⟨HlsMedia.create (config.hlsDurationS * 1000),
    ?_, fun _ => rfl, _, rfl, rfl, ?_⟩, ?_⟩
  · exact
      { finished := finished
        apart := fun log older same =>
          apart log older ⟨same.1.trans opened, same.2⟩
        taken := by
          rw [← accounted]
          simp [Moment.openLog]
        discarded := by simp [Moment.openLog]
        firstFed := by simp [Moment.openLog]
        opened := rfl
        identified := rfl
        counted := rfl
        row := by
          change (Option.bind reached.ws.eventDb _).isSome = true
          rw [opened, Option.bind_some, State.disk_log]
          change (((reached.disk.eventDb file).segmentRow id).map
            SegmentRow.totalFrames).isSome = true
          rw [listed]
          rfl }
  · simp [both.1]
  · refine ⟨⟨[], ?_, rfl⟩, rfl, ?_, rfl⟩
    · simp [both.2]
    · exact fun _ none => absurd none List.not_mem_nil
  · simp [Moment.openLog]

/-- Without a failure `open_today` opens a folder. -/
theorem openToday_records (left : state.Left taken) :
    (openToday config).wp
      (fun result after =>
        (after.Succeeds → result = 0) ∧ after.RecordsAt taken)
      (fun _ => True) state := by
  have closed : ∀ before after, FolderStep before after →
      before.Left taken → after.Left taken := fun before after step left =>
    left.of_carries (carries_folderStep _ _ step)
  have begun : (state.log .opening).Left taken := left.of_carries (.log rfl)
  have ends : ∀ (result : Int) (after : State),
      ((after.log (.opened result)).Succeeds →
        (after.log (.opened result)).RecordsAt taken) →
      ((after.log (.opened result)).Succeeds → result = 0) ∧
        (after.log (.opened result)).RecordsAt taken := by
    intro result after records
    refine ⟨fun succeeds => ?_, fun succeeds => records succeeds succeeds⟩
    have first := ((succeeds_log _ _).mp succeeds).1
    simpa [Moment.succeeded] using first
  rw [openToday, wp_bind, wp_log]
  refine wp_then (wp_of_closed openFolder_within closed begun)
    fun folder reached left => ?_
  refine wp_via (fun result after => (after.log (.opened result)).Succeeds →
    (after.log (.opened result)).RecordsAt taken)
    (wp_split (fun _ succeeds => ?_) fun _ =>
      openSegment_records config left)
    fun result after records => ends result after records
  have first := ((succeeds_log _ _).mp succeeds).1
  simp [Moment.succeeded] at first

theorem metaDbEnsureDay_records (records : state.RecordsAt taken) :
    metaDbEnsureDay.wp (fun _ => RecordsAt taken) (fun _ => True) state := by
  rw [metaDbEnsureDay, wp_bind, wp_log]
  have noted : (state.log .ensureDay).RecordsAt taken :=
    records.of_carries (.log rfl) rfl rfl
  exact wp_of_closed insertDay_within recordsAt_statementStep noted

/-- The end of a segment: flushed, counted and closed. -/
theorem leaveSegment_leaves
    (records : state.RecordsAt taken) {rest : Storage α}
    {post : α → State → Prop}
    (later : ∀ reached : State, reached.Left taken →
      rest.wp post (fun _ => True) reached) :
    (do hlsFlushAndDestroy config; eventDbUpdateTotalFrames; eventDbClose;
        rest : Storage α).wp post (fun _ => True) state := by
  refine wp_then (hlsFlushAndDestroy_flushes config records)
    fun _ reached flushed => ?_
  refine wp_then (eventDbUpdateTotalFrames_leaves flushed)
    fun _ reached left => ?_
  rw [wp_bind, eventDbClose, wp_setWs]
  exact later _ (left.of_carries (.updateWs _ _))

/-- A rollover leaves one folder and opens the next. -/
theorem rolloverDay_records (records : state.RecordsAt taken) :
    (rolloverDay config).wp (fun _ => RecordsAt taken) (fun _ => True)
      state := by
  rw [rolloverDay]
  refine leaveSegment_leaves config records fun reached left => ?_
  refine wp_then (openToday_records config left) ?_
  rintro result reached ⟨_, records⟩
  refine wp_via (fun _ => RecordsAt taken) (wp_split
    (fun _ => metaDbEnsureDay_records records) fun _ => records)
    fun _ _ records => records

/-- The gate holds a frame back or lets it pass. -/
theorem passesGate_records
    (frame : FqFrame) (records : state.RecordsAt taken) :
    (passesGate frame).wp
      (fun passes after =>
        if passes then after.Passes taken frame
        else after.RecordsAt (taken ++ [frame]))
      (fun _ => True) state := by
  have noted : (state.log (.gate frame.isKey)).RecordsAt taken :=
    records.of_carries (.log rfl) rfl rfl
  rw [passesGate, wp_bind, wp_log, wp_bind, wp_current]
  refine wp_split (fun seen => ?_) fun unseen => ?_
  · intro succeeds
    obtain ⟨account, older, recorded, muxes, opens⟩ := noted succeeds
    exact ⟨account, older, recorded, muxes, seen,
      fun blank => absurd blank (opens.mp seen)⟩
  refine wp_split (fun notKey => ?_) fun isKey => ?_
  · rw [wp_bind, wp_log]
    intro succeeds
    obtain ⟨account, older, recorded, ⟨hls, opened, blank, log, logs, accounted,
      muxing⟩, opens⟩ := noted ((succeeds_log _ _).mp succeeds).2
    have nothingFed : account.fed = [] := by
      by_contra some
      exact unseen (opens.mpr some)
    refine ⟨{ account with discarded := account.discarded ++ [frame] }, older,
      ?_, ⟨hls, opened, blank,
        { log with discarded := log.discarded ++ [frame] }, ?_, ?_,
        muxing.playlist, muxing.index, muxing.files, muxing.media⟩, opens⟩
    · refine { recorded with taken := ?_, discarded := ?_ }
      · rw [← recorded.taken, nothingFed]
        simp
      · intro each listed
        rcases List.mem_append.mp listed with earlier | last
        · exact recorded.discarded each earlier
        · obtain rfl := List.mem_singleton.mp last
          simpa using notKey
    · exact (logs_discarded _ frame).trans
        (congrArg (Moment.extendLog _) logs)
    · rw [← accounted]
  · rw [wp_bind, wp_setWs]
    intro succeeds
    obtain ⟨account, older, recorded, muxes, _⟩ := noted succeeds
    refine ⟨account, older, ?_, muxes.of_same rfl rfl, rfl,
      fun _ => by simpa using isKey⟩
    exact { recorded with }

/-- A frame that passes is fed and counted. -/
theorem feedMuxer_records
    (frame : FqFrame) (passes : state.Passes taken frame) :
    (feedMuxer config frame).wp (fun _ => RecordsAt (taken ++ [frame]))
      (fun _ => True) state := by
  by_cases worked : state.Succeeds
  swap
  · exact wp_mono (wp_fails (feedMuxer_within config frame)
      succeeds_frameStep worked)
      (fun _ _ fails succeeds => absurd succeeds fails) fun _ => id
  obtain ⟨account, older, recorded, ⟨hls, opened, blank, log, logs, accounted,
    muxing⟩, seen, isKey⟩ := passes worked
  rw [feedMuxer, wp_bind, wp_divide_of_ne (by decide)]
  simp only [wp_bind, wp_setWs, wp_log]
  have muxes : (((state.log (.divides 1000)).updateWs fun ws =>
      { ws with ptsMs := frame.ptsUs.tdiv 1000 }).log (.fed frame)).HasMuxer
        { account with fed := account.fed ++ [frame] } older
        (account.fed.filterMap FqFrame.payload) := by
    refine ⟨hls, opened, blank, { log with fed := log.fed ++ [frame] }, ?_, ?_,
      muxing.playlist, muxing.index, muxing.files, muxing.media⟩
    · exact (logs_fed _ frame).trans (congrArg (Moment.extendLog _) logs)
    · rw [← accounted]
  refine wp_mono (wp_and
    (hlsMediaInput_publishes config muxes frame.payload _ _ frame.isKey)
    (wp_of_steps Muxes.refl Muxes.trans (hlsMediaInput_within config
      frame.payload _ _ frame.isKey) muxes_hlsStep _)) ?_ fun _ _ => trivial
  rintro _ reached ⟨published, muxed⟩ succeeds
  have views := muxed.account
  simp only [accountView, Prod.mk.injEq] at views
  obtain ⟨sameGate, sameCount, sameDb, sameId⟩ := views
  refine ⟨{ account with fed := account.fed ++ [frame] }, older, ?_, ?_, ?_⟩
  · exact
      { finished := fun log listed =>
          (recorded.finished log listed).of_keepsRows muxed.rows
        apart := recorded.apart
        taken := by
          rw [← recorded.taken]
          simp
        discarded := recorded.discarded
        firstFed := by
          intro first isFirst
          cases fed : account.fed with
          | nil =>
              rw [fed] at isFirst
              obtain rfl : frame = first := by simpa using isFirst
              exact isKey fed
          | cons earliest others =>
              rw [fed] at isFirst
              exact recorded.firstFed first (by rw [fed]; exact isFirst)
        opened := sameDb.trans recorded.opened
        identified := sameId.trans recorded.identified
        counted := by
          change reached.ws.frameCount + 1 = _
          rw [sameCount, List.length_append]
          exact congrArg (· + 1) recorded.counted
        row := isSome_totalFrames muxed.rows recorded.row }
  · have given : (account.fed ++ [frame]).filterMap FqFrame.payload =
        account.fed.filterMap FqFrame.payload ++ frame.payload.toList := by
      rw [List.filterMap_append]
      cases payload : frame.payload <;> simp [payload]
    rw [given]
    exact (published succeeds).1.of_same rfl rfl
  · refine iff_of_true ?_ (by simp)
    change reached.ws.seenKeyframe = true
    rw [sameGate]
    exact seen

/-- A frame is taken into the record. -/
theorem ingestFrame_records
    (frame : FqFrame) (records : state.RecordsAt taken) :
    (ingestFrame config frame).wp (fun _ => RecordsAt (taken ++ [frame]))
      (fun _ => True) state := by
  rw [ingestFrame]
  refine wp_via (fun _ => RecordsAt taken) ?_ fun _ reached records => ?_
  · rw [rolloverIfNewDay]
    refine wp_then (wp_of_closed todayString_within recordsAt_retentionStep
      records) fun today reached records => ?_
    have noted : (reached.log (.ingest today.1 today.2)).RecordsAt taken :=
      records.of_carries (.log rfl) rfl rfl
    rw [wp_bind, wp_log, wp_bind, wp_current]
    refine wp_split (fun _ => ?_) fun _ => noted
    exact wp_then (rolloverDay_records config noted) fun _ _ kept => kept
  refine wp_then (passesGate_records frame records)
    fun passes reached gate => ?_
  refine wp_split (fun passed => ?_) fun held => ?_
  · rw [if_pos passed] at gate
    refine wp_then (feedMuxer_records config frame gate)
      fun _ reached records => ?_
    refine wp_then (wp_of_closed (recordProgress_within config)
      recordsAt_progressStep records) fun _ reached records => ?_
    exact wp_of_closed (checkAndCleanup_within config)
      recordsAt_retentionStep records
  · rw [if_neg held] at gate
    exact gate

/-- Every frame of a list is taken in turn. -/
theorem ingestFrames_record
    (frames : List FqFrame) (records : state.RecordsAt taken) :
    (forEach (ingestFrame config) frames).wp
      (fun _ => RecordsAt (taken ++ frames)) (fun _ => True) state := by
  induction frames generalizing state taken with
  | nil =>
      rw [List.append_nil]
      exact records
  | cons frame frames inductionHypothesis =>
      rw [forEach]
      refine wp_then (ingestFrame_records config frame records)
        fun _ reached records => ?_
      have later := inductionHypothesis records
      rw [List.append_assoc, List.singleton_append] at later
      exact later

/-- Without a failure `meta_db_init` succeeds. -/
theorem metaDbInit_records (records : state.RecordsAt taken) :
    metaDbInit.wp
      (fun result after => (after.Succeeds → result = 0) ∧
        after.RecordsAt taken)
      (fun _ => True) state := by
  rw [metaDbInit]
  simp only [wp_bind, wp_call, wp_setWs, true_and]
  intro opened _
  have first : ((state.log (.called .openDb opened.ok)).updateWs fun ws =>
      { ws with metaDb := opened.ok }).RecordsAt taken :=
    records.of_carries (.trans (.log rfl) (.updateWs _ _)) rfl rfl
  refine wp_split (fun failed => ?_) fun _ => ?_
  · exact ⟨fun succeeds =>
      absurd succeeds (not_succeeds_of_call rfl failed), first⟩
  rw [wp_bind, wp_call]
  refine ⟨trivial, fun created _ => wp_split (fun failed => ?_) fun _ => ?_⟩
  · exact ⟨fun succeeds =>
      absurd succeeds (not_succeeds_of_call rfl failed),
      first.of_carries (.log rfl) rfl rfl⟩
  · rw [wp_bind, wp_setDisk]
    exact ⟨fun _ => rfl, first.of_carries
      (.trans (.log rfl) (.updateDisk (.of_eq rfl))) rfl rfl⟩

/-- Booting without a failure opens a folder, nothing having been taken. -/
theorem writerBoot_records (disk : Disk) :
    (writerBoot config).wp
      (fun succeeded after => (after.Succeeds → succeeded = true) ∧
        after.RecordsAt [])
      (fun _ => True) (State.restart { disk }) := by
  have started : (State.restart { disk }).Left [] := fun _ =>
    ⟨by simp [State.restart, State.logs, Moment.folderLogs], rfl⟩
  rw [writerBoot]
  refine wp_then (openToday_records config started) ?_
  rintro opened reached ⟨works, records⟩
  refine wp_split (fun failed => ?_) fun _ => ?_
  · exact ⟨fun succeeds => absurd (works succeeds) failed, records⟩
  refine wp_then (metaDbInit_records records) ?_
  rintro ready reached ⟨works, records⟩
  refine wp_split (fun failed => ?_) fun _ => ?_
  · have fails : ¬ reached.Succeeds := fun succeeds =>
      absurd (works succeeds) failed
    refine wp_then (wp_fails (hlsFlushAndDestroy_within config)
      (fun _ _ step => (muxes_flushStep _ _ step).succeeds) fails)
      fun _ reached fails => ?_
    rw [wp_bind, eventDbClose, wp_setWs]
    exact ⟨fun succeeds => absurd succeeds fails,
      fun succeeds => absurd succeeds fails⟩
  · exact wp_then (metaDbEnsureDay_records records) fun _ _ records =>
      ⟨fun _ => rfl, records⟩

/-- Stopping leaves the last folder. -/
theorem writerStop_leaves (records : state.RecordsAt taken) :
    (writerStop config).wp (fun _ => Left taken) (fun _ => True) state := by
  rw [writerStop]
  refine wp_then (hlsFlushAndDestroy_flushes config records)
    fun _ reached flushed => ?_
  refine wp_then (eventDbUpdateTotalFrames_leaves flushed)
    fun _ reached left => ?_
  exact left.of_carries (.updateWs _ _)

end Storage

namespace FolderLog

/-- The folder's playlist is the published one, where it had none or one was
published. -/
theorem index_folder
    {log : FolderLog} (own : log.found indexName = none ∨ log.index ≠ []) :
    log.folder.index = log.index := by
  have same : log.folder indexName = log.files indexName := by
    cases published : log.files indexName with
    | some data => simp [folder, published]
    | none =>
        rcases own with missing | named
        · simp [folder, published, missing]
        · exact absurd (by simp [index, Folder.index, published]) named
  rw [index, Folder.index, Folder.index, same]

/-- Published files are the ones in the folder. -/
theorem media_folder
    {log : FolderLog} (own : log.found indexName = none ∨ log.index ≠ [])
    (files : ∀ name ∈ log.index, (log.files name).isSome = true) :
    log.folder.media = log.media := by
  rw [Folder.media, index_folder own]
  refine List.flatMap_congr fun name listed => ?_
  obtain ⟨data, published⟩ := Option.isSome_iff_exists.mp (files name listed)
  simp [Folder.frames, folder, published]

/-- A finished folder is complete where the card keeps it. -/
theorem Finished.complete
    {disk : Disk} {trace : List Moment} {log : FolderLog}
    (finished : log.Finished disk)
    (kept : log.Spared trace →
      disk.folder log.dir.date log.dir.name = some log.folder) :
    log.Complete disk trace := by
  refine { finished with
    onCard := fun spared => ⟨log.folder, kept spared, fun own => ?_⟩ }
  have named : log.found indexName = none ∨ log.index ≠ [] := by
    apply own.imp_right
    intro fed none
    have unnamed : log.files.index = [] := none
    rw [← finished.media, FolderLog.media] at fed
    unfold Folder.media at fed
    rw [unnamed] at fed
    exact fed rfl
  rw [index_folder named, media_folder named finished.files]
  exact ⟨finished.index, finished.media⟩

end FolderLog

/-- In a life of the writer ended by `fq_close` in which opening days,
statements and writes of files succeed, the folders account for the frames
popped, in order and each once, and every folder is complete.  Where the frames
carry data, as those of the queue do, the files of a folder hold exactly what was
fed to it, those published and, until the removal of its day begins, those on the
card. -/
theorem writer_records_every_frame
    (config : Config) (disk : Disk) (frames : List FqFrame)
    {script rest : List Choice} {after : State}
    (ran : ((writer config).life frames).run (State.restart { disk }) script =
      .done () after rest)
    (succeeds : after.Succeeds) :
    after.logs.reverse.flatMap FolderLog.frames = frames ∧
      ∀ log ∈ after.logs, log.Complete after.disk after.trace ∧
        ((∀ frame ∈ frames, frame.payload = some frame) →
          log.media = log.fed ∧
            (log.Spared after.trace → log.fed ≠ [] → ∃ folder,
              after.disk.folder log.dir.date log.dir.name = some folder ∧
                folder.media = log.fed)) := by
  have left : ((writer config).life frames).wp
      (fun _ after => after.Left frames) (fun _ => True)
      (State.restart { disk }) := by
    rw [Daemon.life]
    refine Program.wp_then (Storage.writerBoot_records config disk) ?_
    rintro succeeded reached ⟨works, records⟩
    refine Program.wp_split (fun _ => ?_) fun failed succeeds =>
      absurd (works succeeds) failed
    refine Program.wp_then (Storage.ingestFrames_record config frames records)
      fun _ reached records => ?_
    rw [List.nil_append] at records
    exact Storage.writerStop_leaves config records
  have met := (Program.wp_iff_run _ _ _ _).mp left script
  have reached := @Daemon.Reach.life _ _ _ (writer config) State.Unused { disk }
    (.initial rfl) frames script
  change (writer config).Reach State.Unused .off
    (((writer config).life frames).run (State.restart { disk }) script).state
    at reached
  rw [ran] at met reached
  obtain ⟨finished, accounted⟩ := met succeeds
  refine ⟨accounted, fun log listed => ?_⟩
  have complete : log.Complete after.disk after.trace :=
    (finished log listed).complete (writer_keeps_files config reached listed)
  refine ⟨complete, fun carry => ?_⟩
  have whole : log.fed.filterMap FqFrame.payload = log.fed := by
    rw [List.filterMap_congr (g := some) fun frame fed => carry frame ?_,
      List.filterMap_some]
    rw [← accounted]
    exact List.mem_flatMap.mpr ⟨log, List.mem_reverse.mpr listed,
      List.mem_append_right _ fed⟩
  refine ⟨complete.media.trans whole, fun spared some => ?_⟩
  obtain ⟨folder, found, holds⟩ := complete.onCard spared
  refine ⟨folder, found, ?_⟩
  rw [whole] at holds
  exact (holds (.inr some)).2

/-- Two days with a frame held back on each, the second entered by a
rollover. -/
theorem writer_records_every_frame_two_days :
    let frame : Bool → Int → FqFrame := fun isKey ptsUs =>
      ⟨some ⟨0, [1]⟩, 1, isKey, ptsUs⟩
    let frames : List FqFrame :=
      [frame false 0, frame true 40000, frame true 80000,
        frame false 120000, frame true 160000, frame false 200000]
    let firstDay : Choice := {}
    let secondDay : Choice := { tm := { mday := 2, yday := 1 } }
    let outcome := ((writer {}).life frames).run (State.restart {})
      (List.replicate 35 firstDay ++ List.replicate 60 secondDay)
    outcome.Meets
      (fun _ after =>
        after.logs.reverse.flatMap FolderLog.frames = frames ∧
          ∀ log ∈ after.logs, log.Spared after.trace ∧
            log.Complete after.disk after.trace ∧
            ∃ folder,
              after.disk.folder log.dir.date log.dir.name = some folder ∧
                folder.media = log.fed)
      (fun _ => False) := by
  intro frame frames firstDay secondDay outcome
  have finished : outcome.Meets
      (fun _ after => after.Succeeds ∧ after.logs.length = 2 ∧
        (∀ log ∈ after.logs, log.Spared after.trace) ∧
        ∀ log ∈ after.logs, log.fed ≠ [])
      (fun _ => False) := by
    decide +kernel
  have carry : ∀ frame ∈ frames, frame.payload = some frame := by decide
  cases ran : outcome with
  | done _ after rest =>
      rw [ran] at finished
      obtain ⟨succeeds, _, spared, fed⟩ := finished
      obtain ⟨accounted, complete⟩ :=
        writer_records_every_frame {} {} frames ran succeeds
      refine ⟨accounted, fun log listed => ⟨spared log listed,
        (complete log listed).1, ?_⟩⟩
      exact ((complete log listed).2 carry).2 (spared log listed)
        (fed log listed)
  | halted after =>
      rw [ran] at finished
      exact finished

end MotionSense
