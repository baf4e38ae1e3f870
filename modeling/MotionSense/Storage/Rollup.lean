import MotionSense.Storage.Tally

/-!
# The calendar's motion count

`motion_count` is written from a counter that `open_today` resets, while the rows of
`EventDetails` add up over all segments of a day.  The two agree as long as all
marks of a day are left behind one opening of it, and nothing is cut off between
the two databases.
-/

namespace MotionSense

/-! ## The condition -/

/-- A mark goes into both databases of its day, and the first one behind an
`open_today` finds no other. -/
structure MarksDay (moment : Moment) : Prop where
  metaDb : moment.ws.metaDb = true
  segment : 0 ≤ moment.ws.currentSegmentId
  opened : moment.ws.eventDb.isSome = true
  day : moment.disk.eventLogs moment.ws.date = moment.ws.eventDb
  first : moment.ws.motionCount = 1 →
    moment.disk.dayMarks moment.ws.date = []

instance (moment : Moment) : Decidable (MarksDay moment) :=
  decidable_of_iff
    (moment.ws.metaDb = true ∧ 0 ≤ moment.ws.currentSegmentId ∧
      moment.ws.eventDb.isSome = true ∧
      moment.disk.eventLogs moment.ws.date = moment.ws.eventDb ∧
      (moment.ws.motionCount = 1 →
        moment.disk.dayMarks moment.ws.date = []))
    ⟨fun all => ⟨all.1, all.2.1, all.2.2.1, all.2.2.2.1, all.2.2.2.2⟩,
      fun all => ⟨all.metaDb, all.segment, all.opened, all.day, all.first⟩⟩

/-- The writer was cut off between a mark and its count. -/
def cutOffAtMark (record : List Moment) : Bool :=
  match record.map Moment.event with
  | .called .sql true :: .mark :: _ => true
  | _ => false

/-- `remove_path_tree` returns an error. -/
def Event.removalFailed : Event → Bool
  | .removed _ result => result ≠ 0
  | _ => false

/-- What the count of motion rests on at one moment: the statements succeed, a mark
goes into both databases of its day, and neither a start nor a removal that has
failed finds them apart. -/
structure CountsAt (moment : Moment) (older : List Moment) : Prop where
  statement : moment.event ≠ .called .sql false
  mark : moment.event = .mark → MarksDay moment
  start : moment.event = .started →
    cutOffAtMark older = false ∧ moment.disk.KeepsLogs
  removal : moment.event.removalFailed = true → moment.disk.KeepsLogs

instance (moment : Moment) (older : List Moment) :
    Decidable (CountsAt moment older) :=
  decidable_of_iff
    (moment.event ≠ .called .sql false ∧
      (moment.event = .mark → MarksDay moment) ∧
      (moment.event = .started →
        cutOffAtMark older = false ∧ moment.disk.KeepsLogs) ∧
      (moment.event.removalFailed = true → moment.disk.KeepsLogs))
    ⟨fun all => ⟨all.1, all.2.1, all.2.2.1, all.2.2.2⟩,
      fun all => ⟨all.statement, all.mark, all.start, all.removal⟩⟩

/-- It does so at every moment. -/
def CountsAlong : List Moment → Prop
  | [] => True
  | moment :: older => CountsAt moment older ∧ CountsAlong older

instance decidableCountsAlong :
    (record : List Moment) → Decidable (CountsAlong record)
  | [] => inferInstanceAs (Decidable True)
  | moment :: older =>
      have := decidableCountsAlong older
      inferInstanceAs (Decidable (CountsAt moment older ∧ CountsAlong older))

namespace State

/-! ## Between two frames -/

/-- The card is tallied. -/
def Tallies (state : State) : Prop :=
  CountsAlong state.trace → state.disk.Tallied

/-- Once the open day has a mark, the writer's counter is the number of its
marks. -/
def Tied (state : State) : Prop :=
  CountsAlong state.trace → state.ws.motionCount ≠ 0 →
    ∀ file, state.ws.eventDb = some file →
      state.ws.motionCount = ((state.disk.eventDb file).marks.length : Int)

/-- The counts are right, and the next one will be. -/
structure Rolls (state : State) : Prop where
  tallies : state.Tallies
  tied : state.Tied

/-- Wherever the writer is cut off, the counts are right if the condition on the
next start is met. -/
def CanRoll (state : State) : Prop :=
  CountsAlong state.trace → state.disk.FilesApart ∧
    (cutOffAtMark state.trace = false → state.disk.KeepsLogs →
      state.disk.Tallied)

/-- The marks, the counts and the open day stay as they are. -/
structure Quiet (before after : State) : Prop where
  grows : Adds (fun _ => true) before after
  marks : before.disk.SameMarks after.disk
  counts : ∀ date,
    after.disk.motionCount date = before.disk.motionCount date
  eventDb : after.ws.eventDb = before.ws.eventDb
  motionCount : after.ws.motionCount = before.ws.motionCount

section

variable {before after : State}

/-- What held of the record held of it before. -/
theorem Adds.countsAlong
    {kind : Event → Bool} (adds : Adds kind before after)
    (along : CountsAlong after.trace) : CountsAlong before.trace := by
  rcases adds with same | ⟨event, _, grown⟩
  · rwa [same] at along
  · rw [grown] at along
    exact along.2

theorem Tallies.canRoll (tallies : before.Tallies) : before.CanRoll :=
  fun along => ⟨(tallies along).apart, fun _ _ => tallies along⟩

theorem Tallies.quiet
    (tallies : before.Tallies) (quiet : before.Quiet after) :
    after.Tallies := fun along =>
  (tallies (quiet.grows.countsAlong along)).keep quiet.marks quiet.counts

theorem Rolls.quiet
    (rolls : before.Rolls) (quiet : before.Quiet after) : after.Rolls := by
  refine ⟨rolls.tallies.quiet quiet, fun along counted file opened => ?_⟩
  rw [quiet.motionCount] at counted ⊢
  rw [quiet.eventDb] at opened
  rw [quiet.marks.marks]
  exact rolls.tied (quiet.grows.countsAlong along) counted file opened

/-- No day is open. -/
theorem Tallies.rolls
    (tallies : before.Tallies) (closed : before.ws.eventDb = none) :
    before.Rolls :=
  ⟨tallies, fun _ _ file opened => by rw [closed] at opened; cases opened⟩

theorem Tallies.log (tallies : before.Tallies) (event : Event) :
    (before.log event).Tallies := fun along => tallies along.2

/-- A statement that fails breaks the condition. -/
theorem not_countsAlong_of_failed
    {choice : Choice} (failed : (!choice.ok) = true) :
    ¬CountsAlong (before.log (.called .sql choice.ok)).trace := by
  rintro ⟨here, -⟩
  have statement := here.statement
  rw [Bool.not_eq_true'] at failed
  rw [failed] at statement
  exact statement rfl

/-- Nothing is promised once the condition is broken. -/
theorem rolls_of_broken (broken : ¬CountsAlong before.trace) :
    before.Rolls :=
  ⟨fun along => absurd along broken, fun along => absurd along broken⟩

/-! ## The steps -/

/-- Only the record grows. -/
theorem Quiet.log (state : State) (event : Event) :
    state.Quiet (state.log event) :=
  ⟨.log rfl, .of_days rfl rfl, fun _ => rfl, rfl, rfl⟩

theorem Quiet.updateWs
    {state : State} {update : WriterState → WriterState}
    (eventDb : (update state.ws).eventDb = state.ws.eventDb)
    (motionCount : (update state.ws).motionCount = state.ws.motionCount) :
    state.Quiet (state.updateWs update) :=
  ⟨.inl rfl, .of_days rfl rfl, fun _ => rfl, eventDb, motionCount⟩

theorem Quiet.updateDisk
    {state : State} {update : Disk → Disk}
    (marks : state.disk.SameMarks (update state.disk))
    (counts : ∀ date, (update state.disk).motionCount date =
      state.disk.motionCount date) :
    state.Quiet (state.updateDisk update) :=
  ⟨.inl rfl, marks, counts, rfl, rfl⟩

/-- A change of the card together with its record. -/
theorem Quiet.logged
    (quiet : before.Quiet after) (same : after.trace = before.trace)
    (event : Event) : before.Quiet (after.log event) where
  grows := .inr ⟨event, rfl, by rw [trace_log, same]; rfl⟩
  marks := quiet.marks
  counts := quiet.counts
  eventDb := quiet.eventDb
  motionCount := quiet.motionCount

theorem quiet_putFile
    (state : State) (dir : SegmentDir) (name : CString) (data : FileData) :
    state.Quiet (state.updateDisk fun disk => disk.putFile dir name data) :=
  .updateDisk (Disk.sameMarks_putFile _ dir name data)
    (Disk.motionCount_of_meta (by
      unfold Disk.putFile
      split
      · rfl
      · split <;> rfl))

theorem quiet_hlsStep (step : HlsStep before after) : before.Quiet after := by
  cases step with
  | called | cut | cutFailed | appended => exact .log _ _
  | lastDts dts => exact ⟨.inl rfl, .of_days rfl rfl, fun _ => rfl, rfl, rfl⟩
  | nextName | addEntry | changeMuxer => exact .updateWs rfl rfl
  | replaced dir name data outlet =>
      exact (quiet_putFile before dir name data).logged rfl _
  | cutDone => exact (Quiet.updateWs rfl rfl).logged rfl _

theorem quiet_flushStep (step : FlushStep before after) :
    before.Quiet after := by
  cases step with
  | hls step => exact quiet_hlsStep step
  | dropMuxer | dropPlaylist => exact .updateWs rfl rfl

theorem quiet_totalStep (step : TotalStep before after) :
    before.Quiet after := by
  cases step with
  | called => exact .log _ _
  | update file opened =>
      refine (Quiet.updateDisk (Disk.sameMarks_updateEventDb _ file ?_)
        fun _ => rfl).logged rfl _
      exact fun _ => rfl

theorem quiet_frameStep (step : FrameStep before after) :
    before.Quiet after := by
  cases step with
  | hls step => exact quiet_hlsStep step
  | gate | discarded | divides | fed => exact .log _ _
  | pass | timestamp | count => exact .updateWs rfl rfl

theorem quiet_folderStep (step : FolderStep before after) :
    before.Quiet after := by
  cases step with
  | called | placed => exact .log _ _
  | enter | place => exact .updateWs rfl rfl
  | mkdir dir parent new =>
      refine (Quiet.updateDisk (Disk.sameMarks_mkdir new)
        (Disk.motionCount_of_meta ?_)).logged rfl _
      cases dir with
      | dcim | day => rfl
      | segment dir =>
          unfold Disk.mkdir
          simp only
          split <;> rfl

end

end State

namespace Storage

open Program State

/-! ## Programs that change no count -/

theorem call_quiet (kind : Call) (possible : State → Bool) :
    (call kind possible).Within Quiet :=
  call_within (fun state _ => Quiet.log state _) possible

/-- What holds between two frames is kept. -/
theorem rolls_of_quiet
    {program : Storage α} (quiet : program.Within Quiet)
    {state : State} (rolls : state.Rolls) :
    program.wp (fun _ => Rolls) CanRoll state :=
  wp_mono (quiet.keeps (fun _ _ step rolls => rolls.quiet step) state rolls)
    (fun _ _ rolls => rolls) fun _ rolls => rolls.tallies.canRoll

theorem hlsFlushAndDestroy_quiet (config : Config) :
    (hlsFlushAndDestroy config).Within Quiet :=
  (hlsFlushAndDestroy_within config).mono fun _ _ => quiet_flushStep

theorem eventDbUpdateTotalFrames_quiet :
    eventDbUpdateTotalFrames.Within Quiet :=
  eventDbUpdateTotalFrames_within.mono fun _ _ => quiet_totalStep

theorem openFolder_quiet : openFolder.Within Quiet :=
  openFolder_within.mono fun _ _ => quiet_folderStep

theorem passesGate_quiet (frame : FqFrame) :
    (passesGate frame).Within Quiet :=
  (passesGate_within frame).mono fun _ _ => quiet_frameStep

theorem feedMuxer_quiet (config : Config) (frame : FqFrame) :
    (feedMuxer config frame).Within Quiet :=
  (feedMuxer_within config frame).mono fun _ _ => quiet_frameStep

/-- A statement on `VideoMetadata` that leaves the counts alone. -/
theorem updateMeta_quiet
    {update : List MetaRow → List MetaRow}
    (same : ∀ date rows, MetaRow.countOf date (update rows) =
      MetaRow.countOf date rows) :
    (setDisk fun disk => disk.updateMeta update).Within Quiet :=
  Within.modify fun _ => Quiet.updateDisk (Disk.sameMarks_updateMeta update)
    fun _ => Disk.motionCount_updateMeta same

theorem metaDbEnsureDay_quiet : metaDbEnsureDay.Within Quiet := by
  refine Within.bind (Within.modify fun state => Quiet.log state _) fun _ => ?_
  refine Within.bind Within.current fun state => ?_
  refine Within.ite (fun _ => Within.pure _) fun _ => ?_
  refine Within.bind (call_quiet _ _) fun inserted => ?_
  refine Within.ite (fun _ => Within.pure _) fun _ => ?_
  refine Within.bind (updateMeta_quiet fun date =>
    MetaRow.countOf_insert state.ws.date date) fun _ => ?_
  exact Within.modify fun state => Quiet.log state _

theorem metaDbInit_quiet : metaDbInit.Within Quiet := by
  refine Within.bind (call_quiet _ _) fun opened => ?_
  refine Within.bind (Within.modify fun state => ?_) fun _ => ?_
  · exact Quiet.updateWs rfl rfl
  refine Within.ite (fun _ => Within.pure _) fun _ => ?_
  refine Within.bind (call_quiet _ _) fun created => ?_
  refine Within.ite (fun _ => Within.pure _) fun _ => ?_
  refine Within.bind (Within.modify fun state => ?_) fun _ => Within.pure _
  exact Quiet.updateDisk (.of_days rfl rfl) fun _ => rfl

theorem retentionScheduleDelete_quiet (date : CString) :
    (retentionScheduleDelete date).Within Quiet := by
  refine Within.bind (call_quiet _ _) fun updated => ?_
  refine Within.ite (fun _ => Within.pure _) fun _ => ?_
  refine Within.bind Within.current fun state => ?_
  exact Within.bind (updateMeta_quiet fun other =>
    MetaRow.countOf_schedule date other) fun _ => Within.pure _

theorem fsFreeMb_quiet : fsFreeMb.Within Quiet :=
  Within.bind (call_quiet _ _) fun _ => Within.pure _

theorem metaDbOldestRetentionCandidate_quiet (today : CString) :
    (metaDbOldestRetentionCandidate today).Within Quiet := by
  refine Within.bind Within.current fun state => ?_
  refine Within.ite (fun _ => Within.pure _) fun _ => ?_
  refine Within.bind (call_quiet _ _) fun selected => ?_
  refine Within.ite (fun _ => Within.pure _) fun _ => ?_
  exact Within.bind Within.current fun _ => Within.pure _

/-! ## Opening a day -/

/-- The card stays tallied, whatever becomes of the open day. -/
def KeepsTally (before after : State) : Prop :=
  before.Tallies → after.Tallies

theorem call_keepsTally (kind : Call) (possible : State → Bool) :
    (call kind possible).Within KeepsTally :=
  (call_quiet kind possible).mono fun _ _ step tallies => tallies.quiet step

theorem setWs_keepsTally (update : WriterState → WriterState) :
    (setWs update).Within KeepsTally :=
  Within.modify fun _ tallies => tallies

/-- Opening a database and entering a segment leave no marks. -/
theorem opensLogs_keepsTally : OpensLogs KeepsTally where
  called := fun _ _ _ tallies => tallies.log _
  openLogs := fun _ _ tallies => tallies
  createLogs := fun _ date tallies along => (tallies along).openEventLogs date
  write := by
    intro state file update opens tallies
    refine tallies.quiet (.updateDisk
      (Disk.sameMarks_updateEventDb _ file ?_) fun _ => rfl)
    cases opens <;> exact fun _ => rfl
  stamp := by
    intro state file folder time clock opened accepted tallies
    refine State.Tallies.log (tallies.quiet (.updateDisk
      (Disk.sameMarks_updateEventDb _ file ?_) fun _ => rfl)) _
    exact fun _ => rfl

theorem hlsCreate_keepsTally (config : Config) :
    (hlsCreate config).Within KeepsTally := by
  refine Within.bind (call_keepsTally _ _) fun m3u => ?_
  refine Within.bind (setWs_keepsTally _) fun _ => ?_
  refine Within.bind (call_keepsTally _ _) fun hls => ?_
  exact Within.bind (setWs_keepsTally _) fun _ => Within.pure _

theorem openSegment_keepsTally (config : Config) :
    (openSegment config).Within KeepsTally := by
  refine Within.bind (eventDbOpen_within_of opensLogs_keepsTally) fun db => ?_
  refine Within.ite (fun _ => Within.pure _) fun _ => ?_
  refine Within.bind (eventDbAddSegment_within_of opensLogs_keepsTally)
    fun id => ?_
  refine Within.bind (setWs_keepsTally _) fun _ => ?_
  refine Within.ite (fun _ => ?_) fun _ => ?_
  · exact Within.bind (setWs_keepsTally _) fun _ => Within.pure _
  refine Within.bind (setWs_keepsTally _) fun _ => ?_
  refine Within.bind (hlsCreate_keepsTally config) fun hls => ?_
  refine Within.ite (fun _ => ?_) fun _ => Within.pure _
  exact Within.bind (setWs_keepsTally _) fun _ => Within.pure _

/-- A segment that was opened has no marks yet. -/
theorem openSegment_resets (config : Config) (state : State) :
    (openSegment config).wp
      (fun result after => result = 0 → after.ws.motionCount = 0)
      (fun _ => True) state := by
  have kept : ∀ before after : State, SegmentStep before after →
      before.ws.motionCount = 0 → after.ws.motionCount = 0 := by
    intro before after step zero
    cases step with
    | db step => cases step with
      | statement step => cases step <;> exact zero
      | _ => exact zero
    | reset => rfl
    | _ => exact zero
  have failed : ∀ {after : State}, (-1 : Int) = 0 →
      after.ws.motionCount = 0 := fun zero => by cases zero
  rw [openSegment]
  refine wp_then (wp_true _ _) fun db state _ => ?_
  refine wp_split (fun _ => failed) fun _ => ?_
  refine wp_then (wp_true _ _) fun id state _ => ?_
  rw [wp_bind, wp_setWs]
  refine wp_split (fun _ => failed) fun _ => ?_
  rw [wp_bind, resetSegment, wp_setWs]
  refine wp_then (wp_mono ((hlsCreate_within config).keeps kept _ rfl)
    (fun _ _ zero => zero) fun _ _ => trivial) fun hls state zero => ?_
  exact wp_split (fun _ => failed) fun _ _ => zero

/-- A segment that could not be opened is closed, and one that could has no
marks. -/
theorem openSegment_rolls
    (config : Config) {state : State} (tallies : state.Tallies) :
    (openSegment config).wp (fun _ => Rolls) CanRoll state := by
  have ends := wp_and ((openSegment_keepsTally config).keeps
    (fun _ _ step => step) state tallies)
    (wp_and (openSegment_closes config state) (openSegment_resets config state))
  refine wp_mono ends ?_ fun _ both => both.1.canRoll
  rintro result after ⟨tallies, closes, resets⟩
  by_cases opened : result = 0
  · exact ⟨tallies, fun _ counted => absurd (resets opened) counted⟩
  · exact tallies.rolls (closes opened)

theorem openToday_rolls
    (config : Config) {state : State}
    (tallies : state.Tallies) (closed : state.ws.eventDb = none) :
    (openToday config).wp (fun _ => Rolls) CanRoll state := by
  rw [openToday, wp_bind, wp_log]
  have begun : (state.log .opening).Rolls :=
    (tallies.log .opening).rolls closed
  refine wp_then (rolls_of_quiet openFolder_quiet begun)
    fun folder state rolls => ?_
  refine wp_via (fun _ => Rolls) ?_ fun result state rolls => ?_
  · exact wp_split (fun _ => rolls) fun _ =>
      openSegment_rolls config rolls.tallies
  · exact rolls.quiet (.log _ _)

/-- A day is left and the next one opened. -/
theorem rolloverDay_rolls
    (config : Config) {state : State} (rolls : state.Rolls) :
    (rolloverDay config).wp (fun _ => Rolls) CanRoll state := by
  rw [rolloverDay]
  refine wp_then (rolls_of_quiet (hlsFlushAndDestroy_quiet config) rolls)
    fun _ state rolls => ?_
  refine wp_then (rolls_of_quiet eventDbUpdateTotalFrames_quiet rolls)
    fun _ state rolls => ?_
  rw [wp_bind, eventDbClose, wp_setWs]
  have left : State.Tallies
      (state.updateWs fun ws => { ws with eventDb := none }) := rolls.tallies
  refine wp_then (openToday_rolls config left rfl) fun result state rolls => ?_
  refine wp_via (fun _ => Rolls) (wp_split (fun _ => ?_) fun _ => rolls)
    fun _ _ rolls => rolls
  exact rolls_of_quiet metaDbEnsureDay_quiet rolls

theorem rolloverIfNewDay_rolls
    (config : Config) {state : State} (rolls : state.Rolls) :
    (rolloverIfNewDay config).wp (fun _ => Rolls) CanRoll state := by
  rw [rolloverIfNewDay, wp_bind, todayString, wp_bind, wp_answer]
  refine ⟨rolls.tallies.canRoll, fun today => ?_⟩
  rw [wp_pure, wp_bind, wp_log, wp_bind, wp_current]
  have noted := rolls.quiet (.log state (.ingest today.tm.date today.tm.yday))
  refine wp_split (fun _ => ?_) fun _ => noted
  exact wp_then (rolloverDay_rolls config noted) fun _ _ rolls => rolls

/-! ## A mark and its count -/

/-- A mark is about to be inserted. -/
def Marking (state : State) : Prop :=
  CountsAlong state.trace → state.disk.Tallied ∧
    state.ws.metaDb = true ∧ 0 ≤ state.ws.currentSegmentId ∧
    (∃ file, state.ws.eventDb = some file ∧
      state.disk.eventLogs state.ws.date = some file) ∧
    state.ws.motionCount =
      ((state.disk.dayMarks state.ws.date).length : Int) + 1

/-- A mark has been inserted, and its count is still to come. -/
def Counting (state : State) : Prop :=
  CountsAlong state.trace → cutOffAtMark state.trace = true ∧
    state.ws.metaDb = true ∧
    (∃ file, state.ws.eventDb = some file ∧
      state.disk.eventLogs state.ws.date = some file) ∧
    state.disk.Marked state.ws.date state.ws.motionCount

/-- The first mark behind an `open_today` finds no other, and each further one
finds as many as were counted. -/
theorem marking_of_rolls
    {state : State} (rolls : state.Rolls) :
    Marking ((state.updateWs fun ws =>
      { ws with motionCount := ws.motionCount + 1 }).log .mark) := by
  rintro ⟨here, along⟩
  have marksDay := here.mark rfl
  obtain ⟨file, opened⟩ := Option.isSome_iff_exists.mp marksDay.opened
  have day : state.disk.eventLogs state.ws.date = some file :=
    marksDay.day.trans opened
  refine ⟨rolls.tallies along, marksDay.metaDb, marksDay.segment,
    ⟨file, opened, day⟩, ?_⟩
  have marks : state.disk.dayMarks state.ws.date =
      (state.disk.eventDb file).marks := by
    rw [Disk.dayMarks, day]
  change state.ws.motionCount + 1 =
    ((state.disk.dayMarks state.ws.date).length : Int) + 1
  by_cases first : state.ws.motionCount = 0
  · have none : state.disk.dayMarks state.ws.date = [] :=
      marksDay.first (by
        change state.ws.motionCount + 1 = 1
        rw [first]
        rfl)
    rw [first, none]
    rfl
  · rw [marks, rolls.tied along first file opened]

/-- The mark goes into the database of the day. -/
theorem eventDbAddMotion_counting
    {state : State} (marking : Marking state) (mark : ∃ older,
      state.trace.map Moment.event = .mark :: older) (frame : Int) :
    (eventDbAddMotion state.ws.currentSegmentId frame).wp
      (fun _ after => Counting after ∧
        after.ws.motionCount = state.ws.motionCount) CanRoll state := by
  rw [eventDbAddMotion, wp_bind, wp_current]
  refine wp_split (fun refused => ⟨fun along => ?_, rfl⟩) fun _ => ?_
  · obtain ⟨-, -, segment, ⟨file, opened, -⟩, -⟩ := marking along
    rw [opened] at refused
    simp at refused
    omega
  rw [wp_bind, wp_call]
  refine ⟨fun along => ⟨(marking along).1.apart, fun _ _ => (marking along).1⟩,
    fun inserted possible => ?_⟩
  refine wp_split (fun failed => ⟨fun along => ?_, rfl⟩) fun worked => ?_
  · exact absurd along (not_countsAlong_of_failed failed)
  have ok : inserted.ok = true := by simpa using worked
  have ready := possible ok
  rw [updateEventDb, wp_bind, wp_current]
  cases opened : (state.log (.called .sql inserted.ok)).ws.eventDb with
  | none =>
      refine ⟨fun along => ?_, rfl⟩
      obtain ⟨-, -, -, ⟨file, there, -⟩, -⟩ := marking along.2
      rw [State.ws_log] at opened
      rw [opened] at there
      cases there
  | some file =>
      rw [State.ws_log] at opened
      simp only [State.eventReady, opened] at ready
      refine ⟨fun along => ?_, rfl⟩
      obtain ⟨tallied, metaDb, -, ⟨its, there, day⟩, count⟩ :=
        marking along.2
      obtain rfl : file = its := Option.some.inj (opened.symm.trans there)
      refine ⟨?_, metaDb, ⟨file, opened, day⟩, ?_⟩
      · obtain ⟨older, first⟩ := mark
        change cutOffAtMark (⟨.called .sql inserted.ok, _, _⟩ :: _) = true
        rw [cutOffAtMark, List.map_cons, first, ok]
      · change Disk.Marked _ state.ws.date state.ws.motionCount
        rw [count]
        exact tallied.insertDetail day ready _ _

/-- The count is written. -/
theorem metaDbUpsertMotionCount_rolls
    {state : State} (counting : Counting state) :
    (metaDbUpsertMotionCount state.ws.motionCount).wp (fun _ => Rolls) CanRoll
      state := by
  rw [metaDbUpsertMotionCount, wp_bind, wp_current]
  refine wp_split (fun refused => rolls_of_broken fun along => ?_) fun _ => ?_
  · rw [(counting along).2.1] at refused
    cases refused
  rw [wp_bind, wp_call]
  refine ⟨fun along => ?_, fun upserted possible => ?_⟩
  · obtain ⟨cutOff, -, -, marked⟩ := counting along
    refine ⟨marked.apart, fun whole => ?_⟩
    rw [cutOff] at whole
    cases whole
  refine wp_split (fun failed => rolls_of_broken
    (not_countsAlong_of_failed failed)) fun worked => ?_
  have ready := possible (by simpa using worked)
  rw [wp_bind, wp_setDisk, wp_log]
  have present := (Bool.and_eq_true_iff.mp ready).2
  refine ⟨fun along => ?_, fun along _ file opened => ?_⟩
  · exact (counting along.2.2).2.2.2.upsert present
  · obtain ⟨-, -, ⟨its, there, day⟩, marked⟩ := counting along.2.2
    obtain rfl : file = its := Option.some.inj (opened.symm.trans there)
    have count := marked.marks
    rw [Disk.dayMarks, day] at count
    exact count

theorem recordMotion_rolls
    (config : Config) {state : State} (rolls : state.Rolls) :
    (recordMotion config).wp (fun _ => Rolls) CanRoll state := by
  rw [recordMotion, wp_bind, nowMs, wp_bind, wp_answer]
  refine ⟨rolls.tallies.canRoll, fun now => ?_⟩
  rw [wp_pure, wp_bind, wp_current]
  refine wp_split (fun _ => ?_) fun _ => rolls
  rw [wp_bind, wp_setWs, wp_bind, wp_log]
  refine wp_then (eventDbAddMotion_counting (marking_of_rolls rolls)
    ⟨_, rfl⟩ state.ws.frameCount) ?_
  rintro _ marked ⟨counting, count⟩
  change marked.ws.motionCount = state.ws.motionCount + 1 at count
  rw [← count]
  refine wp_then (metaDbUpsertMotionCount_rolls counting)
    fun _ state rolls => ?_
  rw [wp_bind, wp_log, wp_setWs]
  exact (rolls.quiet (.log _ _)).quiet (.updateWs rfl rfl)

theorem recordProgress_rolls
    (config : Config) {state : State} (rolls : state.Rolls) :
    (recordProgress config).wp (fun _ => Rolls) CanRoll state := by
  have update : ∀ {reached : State}, reached.Rolls →
      eventDbUpdateTotalFrames.wp (fun _ => Rolls) CanRoll reached :=
    rolls_of_quiet eventDbUpdateTotalFrames_quiet
  rw [recordProgress, wp_bind, wp_answer]
  refine ⟨rolls.tallies.canRoll, fun fps => ?_⟩
  rw [wp_bind, wp_setWs, wp_bind, wp_log]
  have updated : State.Rolls (state.updateWs fun ws =>
      { ws with lastFps := fps.currentFps }) := rolls.quiet (.updateWs rfl rfl)
  have noted := updated.quiet
    (.log _ (.judged (fps.currentFps = config.fpsHigh)))
  refine wp_split (fun _ => ?_) fun _ => update noted
  refine wp_then (recordMotion_rolls config noted) fun _ state rolls => ?_
  rw [wp_bind, wp_log, wp_bind]
  have moved := rolls.quiet (.log state .motion)
  have divided := moved.quiet (.log _ (.divides config.fpsLow))
  refine wp_divide divided.tallies.canRoll fun _ => ?_
  have again := divided.quiet (.log _
    (.divides (config.fpsHigh.tdiv config.fpsLow)))
  rw [wp_bind]
  refine wp_divide again.tallies.canRoll fun _ => ?_
  rw [wp_bind, wp_current]
  exact wp_split (fun _ => update again) fun _ => again

/-! ## Cleaning up -/

/-- All days but one are counted right while that one is removed. -/
structure Removes (date : CString) (state : State) : Prop where
  but : CountsAlong state.trace → state.disk.TalliedBut date
  tied : state.Tied

namespace Removes

variable {date : CString} {state : State}

theorem canRoll (removes : Removes date state) : state.CanRoll :=
  fun along => ⟨(removes.but along).apart,
    fun _ keeps => (removes.but along).tallied keeps⟩

theorem of_rolls (rolls : state.Rolls) (date : CString) :
    Removes date state :=
  ⟨fun along => (rolls.tallies along).but date, rolls.tied⟩

theorem log (removes : Removes date state) (event : Event) :
    Removes date (state.log event) :=
  ⟨fun along => removes.but along.2, fun along => removes.tied along.2⟩

theorem updateDisk
    (removes : Removes date state) {update : Disk → Disk}
    (but : state.disk.TalliedBut date →
      (update state.disk).TalliedBut date)
    (files : (update state.disk).eventDbs = state.disk.eventDbs) :
    Removes date (state.updateDisk update) := by
  refine ⟨fun along => but (removes.but along),
    fun along counted file opened => ?_⟩
  rw [State.disk_updateDisk, Disk.eventDb, files]
  exact removes.tied along counted file opened

theorem removePart (removes : Removes date state) (removal : Removal) :
    Removes date (state.updateDisk fun disk =>
      disk.removePart date removal) := by
  refine removes.updateDisk (fun but => but.removePart removal) ?_
  unfold Disk.removePart
  split <;> rfl

theorem removeDay (removes : Removes date state) :
    Removes date (state.updateDisk fun disk => disk.removeDay date) :=
  removes.updateDisk (fun but => but.removeDay) rfl

/-- A removal that fails leaves the counts right, if it leaves their
databases. -/
theorem failed
    (removes : Removes date state) {result : Int} (failed : result ≠ 0) :
    (state.log (.removed date result)).Rolls :=
  ⟨fun along => (removes.but along.2).tallied
      (along.1.removal (decide_eq_true failed)),
    fun along => removes.tied along.2⟩

/-- The row of a removed day is deleted. -/
theorem delete
    (removes : Removes date state)
    (gone : state.disk.eventLogs date = none) :
    (state.updateDisk fun disk =>
      disk.updateMeta (MetaRow.delete date)).Rolls :=
  ⟨fun along => (removes.but along).delete gone, removes.tied⟩

end Removes

theorem removeRecursive_removes
    {date : CString} {state : State} (removes : Removes date state) :
    (removeRecursive date).wp
      (fun result after => Removes date after ∧
        (result = 0 → after.disk.eventLogs date = none))
      CanRoll state := by
  rw [removeRecursive, wp_bind, wp_answer]
  refine ⟨removes.canRoll, fun progress => ?_⟩
  rw [wp_bind, wp_setDisk, wp_bind, wp_call]
  have part := removes.removePart progress.removal
  refine ⟨part.canRoll, fun finished _ => ?_⟩
  have called := part.log (.called .remove finished.ok)
  refine wp_split (fun _ => ⟨called, fun zero => by cases zero⟩) fun _ => ?_
  rw [wp_bind, wp_setDisk]
  exact ⟨called.removeDay, fun _ => Disk.eventLogs_removeDay _ date⟩

/-- A removal that succeeds leaves the day's row to be deleted. -/
theorem removePathTree_removes
    (date : CString) {state : State} (rolls : state.Rolls) :
    (removePathTree date).wp
      (fun result after => Removes date after ∧
        (result ≠ 0 → after.Rolls) ∧
        (result = 0 → after.disk.eventLogs date = none))
      CanRoll state := by
  rw [removePathTree, wp_bind, wp_log, wp_bind, wp_call]
  have begun := (Removes.of_rolls rolls date).log (.removing date)
  refine ⟨begun.canRoll, fun found _ => ?_⟩
  have called := begun.log (.called .lstat found.ok)
  rw [wp_bind, wp_current]
  refine wp_via (fun result after => Removes date after ∧
    (result = 0 → after.disk.eventLogs date = none)) ?_ ?_
  · refine wp_split (fun _ => ⟨called, fun zero => by cases zero⟩) fun _ => ?_
    refine wp_split (fun missing => ⟨called, fun _ => ?_⟩) fun _ =>
      removeRecursive_removes called
    rw [Disk.eventLogs, Option.isNone_iff_eq_none.mp missing]
    rfl
  · rintro result reached ⟨removes, gone⟩
    rw [wp_bind, wp_log]
    exact ⟨removes.log _, removes.failed, gone⟩

theorem retentionProcessTasks_rolls
    (budget : Nat) {state : State} (rolls : state.Rolls) :
    (retentionProcessTasks budget).wp (fun _ => Rolls) CanRoll state := by
  induction budget generalizing state with
  | zero => exact rolls
  | succ budget inductionHypothesis =>
      rw [retentionProcessTasks, wp_bind, wp_call]
      refine ⟨rolls.tallies.canRoll, fun selected _ => ?_⟩
      have called := rolls.quiet (.log state (.called .sql selected.ok))
      refine wp_split (fun _ => called) fun _ => ?_
      rw [wp_bind, wp_current]
      cases MetaRow.firstPending
          (state.log (.called .sql selected.ok)).disk.metaRows with
      | none => exact called
      | some date =>
          refine wp_split (fun _ => called) fun _ => ?_
          refine wp_then (removePathTree_removes date called) ?_
          rintro result reached ⟨removes, failed, gone⟩
          refine wp_split failed fun success => ?_
          have gone := gone (not_not.mp success)
          rw [wp_bind, wp_call]
          refine ⟨removes.canRoll, fun deleted _ => ?_⟩
          refine wp_split (fun failed => rolls_of_broken
            (not_countsAlong_of_failed failed)) fun _ => ?_
          rw [wp_bind, wp_setDisk, wp_bind, wp_log]
          have removed := (removes.log (.called .sql deleted.ok)).delete gone
          exact inductionHypothesis (removed.quiet (.log _ _))

theorem checkAndCleanup_rolls
    (config : Config) {state : State} (rolls : state.Rolls) :
    (checkAndCleanup config).wp (fun _ => Rolls) CanRoll state := by
  rw [checkAndCleanup, wp_bind, wp_current]
  refine wp_split (fun _ => rolls.quiet (.log _ _)) fun _ => ?_
  rw [wp_bind, wp_setWs, wp_bind, wp_log]
  have reset : State.Rolls (state.updateWs fun ws =>
      { ws with tsSinceCleanup := 0 }) := rolls.quiet (.updateWs rfl rfl)
  refine wp_then (retentionProcessTasks_rolls 1 (reset.quiet (.log _ _)))
    fun _ state rolls => ?_
  refine wp_then (rolls_of_quiet fsFreeMb_quiet rolls) fun freeMb state rolls => ?_
  refine wp_split (fun _ => rolls) fun _ => ?_
  refine wp_then (rolls_of_quiet (metaDbOldestRetentionCandidate_quiet _) rolls)
    fun candidate state rolls => ?_
  cases candidate with
  | none => exact rolls
  | some target =>
      rw [wp_bind, wp_log]
      refine wp_then (rolls_of_quiet (retentionScheduleDelete_quiet target)
        (rolls.quiet (.log _ _))) fun queued state rolls => ?_
      exact wp_split (fun _ => rolls) fun _ =>
        retentionProcessTasks_rolls 1 rolls

/-! ## The thread -/

theorem ingestFrame_rolls
    (config : Config) (frame : FqFrame) {state : State}
    (rolls : state.Rolls) :
    (ingestFrame config frame).wp (fun _ => Rolls) CanRoll state := by
  rw [ingestFrame]
  refine wp_then (rolloverIfNewDay_rolls config rolls) fun _ state rolls => ?_
  refine wp_then (rolls_of_quiet (passesGate_quiet frame) rolls)
    fun passes state rolls => ?_
  refine wp_split (fun _ => ?_) fun _ => rolls
  refine wp_then (rolls_of_quiet (feedMuxer_quiet config frame) rolls)
    fun _ state rolls => ?_
  refine wp_then (recordProgress_rolls config rolls) fun _ state rolls => ?_
  exact checkAndCleanup_rolls config rolls

/-- The counts are right when the writer starts. -/
theorem restart_tallies {state : State} (canRoll : state.CanRoll) :
    state.restart.Tallies := fun along =>
  have start := along.1.start rfl
  (canRoll along.2).2 start.1 start.2

theorem writerBoot_rolls
    (config : Config) {state : State} (canRoll : state.CanRoll) :
    (writerBoot config).wp
      (fun succeeded after => if succeeded then after.Rolls else after.CanRoll)
      CanRoll state.restart := by
  rw [writerBoot]
  refine wp_then (openToday_rolls config (restart_tallies canRoll) rfl)
    fun opened state rolls => ?_
  refine wp_split (fun _ => rolls.tallies.canRoll) fun _ => ?_
  refine wp_then (rolls_of_quiet metaDbInit_quiet rolls)
    fun ready state rolls => ?_
  refine wp_split (fun _ => ?_) fun _ => ?_
  · refine wp_then (rolls_of_quiet (hlsFlushAndDestroy_quiet config) rolls)
      fun _ state rolls => ?_
    rw [wp_bind, eventDbClose, wp_setWs]
    exact rolls.tallies.canRoll
  · exact wp_then (rolls_of_quiet metaDbEnsureDay_quiet rolls)
      fun _ _ rolls => rolls

theorem writerStop_rolls
    (config : Config) {state : State} (rolls : state.Rolls) :
    (writerStop config).wp (fun _ => CanRoll) CanRoll state := by
  rw [writerStop]
  refine wp_then (rolls_of_quiet (hlsFlushAndDestroy_quiet config) rolls)
    fun _ state rolls => ?_
  refine wp_then (rolls_of_quiet eventDbUpdateTotalFrames_quiet rolls)
    fun _ state rolls => ?_
  rw [eventDbClose, wp_setWs]
  exact rolls.tallies.canRoll

end Storage

/-- No writer has run yet, and the counts on the card are right. -/
structure State.Uncounted (state : State) : Prop where
  unused : state.trace = []
  tallied : state.disk.Tallied

/-- A blank card is one. -/
theorem State.Uncounted.blank : State.Uncounted {} :=
  ⟨rfl, ⟨fun _ _ opened => (by cases opened), fun _ _ _ opened => (by
    cases opened)⟩, fun _ => rfl⟩

/-- In every history in which all statements succeed, each mark goes into both
databases of a day that was marked behind this opening only, and no start and no
failed removal finds the two databases apart, the calendar's count of every day is
the number of its marks after every frame. -/
theorem motion_count_rolls_up
    (config : Config) {state : State}
    (reached : (writer config).Reach State.Uncounted .ready state)
    (along : CountsAlong state.trace) : state.disk.RolledUp := by
  have starts : ∀ first : State, first.Uncounted → first.CanRoll :=
    fun _ uncounted => State.Tallies.canRoll fun _ => uncounted.tallied
  have held : Daemon.Phase.ready.holds State.CanRoll State.Rolls state :=
    Daemon.Reach.invariant starts
      (fun _ canRoll => Storage.writerBoot_rolls config canRoll)
      (fun frame _ rolls => Storage.ingestFrame_rolls config frame rolls)
      (fun _ rolls => Storage.writerStop_rolls config rolls) reached
  exact (held.tallies along).rolledUp

/-- A keyframe with motion on the same day in two processes: two marks, of which
the calendar counts one. -/
theorem restart_forgets_marks :
    let moves : List Choice :=
      List.replicate 40 { currentFps := 30, nowMs := 1000 }
    let keyframe : FqFrame := ⟨some ⟨0, [1]⟩, 1, true, 0⟩
    let first := (((writer {}).life [keyframe]).run (State.restart {})
      moves).state
    let booted := ((writer {}).boot.run first.restart moves).state
    let second := (((writer {}).serve keyframe).run booted moves).state
    (writer {}).Reach State.Uncounted .ready second ∧
      (∀ moment ∈ second.trace, moment.event ≠ .called .sql false) ∧
      second.disk.motionCount "2024-01-01".toList = 1 ∧
      (second.disk.dayMarks "2024-01-01".toList).length = 2 ∧
      ¬second.disk.RolledUp := by
  intro moves keyframe first booted second
  have lived : (writer {}).Reach State.Uncounted .off first :=
    Daemon.Reach.life (.initial .blank) [keyframe] moves
  have ready : (writer {}).Reach State.Uncounted .ready booted :=
    Daemon.Reach.booted lived (by decide +kernel)
  have reached : (writer {}).Reach State.Uncounted .ready second :=
    Daemon.Reach.served ready (by decide +kernel)
  have count : second.disk.motionCount "2024-01-01".toList = 1 := by
    decide +kernel
  have marks : (second.disk.dayMarks "2024-01-01".toList).length = 2 := by
    decide +kernel
  refine ⟨reached, by decide +kernel, count, marks, fun rolledUp => ?_⟩
  have same := rolledUp "2024-01-01".toList
  rw [Disk.RolledUpAt, count, marks] at same
  cases same

/-- Two marks behind one opening of the day are both counted. -/
theorem motion_count_rolls_up_two_marks :
    let moves : Int → List Choice := fun nowMs =>
      List.replicate 40 { currentFps := 30, nowMs }
    let keyframe : FqFrame := ⟨some ⟨0, [1]⟩, 1, true, 0⟩
    let booted := ((writer {}).boot.run (State.restart {}) (moves 0)).state
    let first := (((writer {}).serve keyframe).run booted (moves 1000)).state
    let second := (((writer {}).serve keyframe).run first (moves 2000)).state
    second.disk.motionCount "2024-01-01".toList = 2 ∧
      second.disk.RolledUp := by
  intro moves keyframe booted first second
  refine ⟨by decide +kernel, motion_count_rolls_up {} ?_ (by decide +kernel)⟩
  have ready : (writer {}).Reach State.Uncounted .ready booted :=
    Daemon.Reach.booted (.initial .blank) (by decide +kernel)
  have marked : (writer {}).Reach State.Uncounted .ready first :=
    Daemon.Reach.served ready (by decide +kernel)
  exact Daemon.Reach.served marked (by decide +kernel)

end MotionSense
