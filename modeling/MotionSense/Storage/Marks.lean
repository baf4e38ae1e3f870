import MotionSense.Storage.OpenDay
import MotionSense.Storage.Published
import MotionSense.Storage.Rounds

/-!
# Motion marks and the length of their segments

A mark is inserted with the frame it is on, `total_frames` of its segment is
written about once a second.  So a mark lies within the total as soon as the
total was written behind it, and a reader that comes earlier finds a smaller
one.
-/

namespace MotionSense

/-- The motion marks that a database holds. -/
def EventDb.marks (db : EventDb) : List EventRow :=
  db.eventDetails.getD []

/-- Every mark is on a frame, counted from one, of a segment of its
database. -/
def Disk.MarksPlaced (disk : Disk) : Prop :=
  ∀ file, ∀ mark ∈ (disk.eventDb file).marks, 1 ≤ mark.motionFrame ∧
    ∃ row, (disk.eventDb file).segmentRow mark.videoId = some row

/-- `total_frames` of a mark's segment was written when the mark was there. -/
def Refreshed (file : Nat) (mark : EventRow) (record : List Moment) : Prop :=
  ∃ moment ∈ record, moment.event = .refreshed ∧
    moment.ws.eventDb = some file ∧
    moment.ws.currentSegmentId = mark.videoId ∧
    mark ∈ (moment.disk.eventDb file).marks

instance (file : Nat) (mark : EventRow) (record : List Moment) :
    Decidable (Refreshed file mark record) :=
  inferInstanceAs (Decidable (∃ moment ∈ record, moment.event = .refreshed ∧
    moment.ws.eventDb = some file ∧
    moment.ws.currentSegmentId = mark.videoId ∧
    mark ∈ (moment.disk.eventDb file).marks))

/-- What a reader of the card can rely on. -/
structure Disk.Counts (disk : Disk) (record : List Moment) : Prop where
  placed : disk.MarksPlaced
  covered : ∀ file mark, Refreshed file mark record →
    mark ∈ (disk.eventDb file).marks ∧
      ∃ row, (disk.eventDb file).segmentRow mark.videoId = some row ∧
        mark.motionFrame ≤ row.totalFrames

/-- Every moment of the record found the card so. -/
def CountedAlong (record : List Moment) : Prop :=
  ∀ moment older, moment :: older <:+ record →
    moment.disk.Counts (moment :: older)

/-! ## Changes that leave the marks alone -/

/-- No mark is new or lost, and no row of a segment changed or lost. -/
structure Disk.KeepsMarks (before after : Disk) : Prop where
  rows : before.KeepsRows after
  marks : ∀ file, (after.eventDb file).marks = (before.eventDb file).marks

/-- Events other than the writing of a total. -/
def Event.ofOther : Event → Bool
  | .refreshed => false
  | _ => true

theorem refreshed_cons_iff
    (moment : Moment) (file : Nat) (mark : EventRow) (older : List Moment) :
    Refreshed file mark (moment :: older) ↔
      (moment.event = .refreshed ∧ moment.ws.eventDb = some file ∧
        moment.ws.currentSegmentId = mark.videoId ∧
        mark ∈ (moment.disk.eventDb file).marks) ∨
      Refreshed file mark older :=
  List.exists_mem_cons_iff _ _ _

theorem refreshed_cons
    {moment : Moment} (other : moment.event.ofOther = true)
    (file : Nat) (mark : EventRow) (older : List Moment) :
    Refreshed file mark (moment :: older) ↔ Refreshed file mark older := by
  rw [refreshed_cons_iff]
  refine or_iff_right fun here => ?_
  rw [here.1] at other
  exact absurd other Bool.false_ne_true

theorem countedAlong_cons (moment : Moment) (older : List Moment) :
    CountedAlong (moment :: older) ↔
      moment.disk.Counts (moment :: older) ∧ CountedAlong older := by
  constructor
  · exact fun along => ⟨along moment older (List.suffix_refl _),
      fun earlier first suffix => along earlier first
        (suffix.trans (List.suffix_cons moment older))⟩
  · rintro ⟨here, along⟩ earlier first suffix
    rcases List.suffix_cons_iff.mp suffix with same | later
    · cases same
      exact here
    · exact along earlier first later

namespace Disk

theorem KeepsMarks.of_eq
    {before after : Disk} (same : after.eventDbs = before.eventDbs) :
    before.KeepsMarks after :=
  ⟨.of_eq same, fun file => by rw [eventDb, same, eventDb]⟩

/-- A statement that changes no mark and no row. -/
theorem KeepsMarks.updateEventDb
    (disk : Disk) (file : Nat) {update : EventDb → EventDb}
    (rows : ∀ (db : EventDb) id row, db.segmentRow id = some row →
      (update db).segmentRow id = some row)
    (marks : ∀ db, (update db).marks = db.marks) :
    disk.KeepsMarks (disk.updateEventDb file update) := by
  refine ⟨.updateEventDb disk file rows, fun other => ?_⟩
  rw [eventDb_updateEventDb]
  split
  · exact marks _
  · rfl

/-- A new database has no marks. -/
theorem KeepsMarks.openEventLogs (disk : Disk) (date : CString) :
    disk.KeepsMarks (disk.openEventLogs date) := by
  refine ⟨.openEventLogs disk date, fun file => ?_⟩
  rw [eventDb_openEventLogs]

/-- The writing of a total changes one row. -/
theorem segmentRow_updateTotalFrames
    {disk : Disk} {other : Nat} {id : Int} {row : SegmentRow}
    (found : (disk.eventDb other).segmentRow id = some row)
    (file : Nat) (counted totalFrames : Int) :
    ((disk.updateEventDb file (EventDb.updateTotalFrames counted
        totalFrames)).eventDb other).segmentRow id =
      some (if file = other ∧ counted = id then { row with totalFrames }
        else row) := by
  rw [eventDb_updateEventDb]
  by_cases same : file = other
  · subst same
    rw [if_pos ⟨rfl, lt_of_segmentRow found⟩,
      EventDb.segmentRow_updateTotalFrames found]
    simp only [true_and]
  · rw [if_neg fun both => same both.1, if_neg fun both => same both.1]
    exact found

theorem marks_updateTotalFrames
    (disk : Disk) (file : Nat) (counted totalFrames : Int) (other : Nat) :
    ((disk.updateEventDb file (EventDb.updateTotalFrames counted
        totalFrames)).eventDb other).marks = (disk.eventDb other).marks := by
  rw [eventDb_updateEventDb]
  split <;> rfl

theorem Counts.keep
    {before after : Disk} {record : List Moment}
    (counts : before.Counts record) (same : before.KeepsMarks after) :
    after.Counts record := by
  refine ⟨fun file mark there => ?_, fun file mark refreshed => ?_⟩
  · rw [same.marks] at there
    obtain ⟨positive, row, found⟩ := counts.placed file mark there
    exact ⟨positive, row, same.rows _ _ _ found⟩
  · obtain ⟨there, row, found, within⟩ := counts.covered file mark refreshed
    rw [same.marks]
    exact ⟨there, row, same.rows _ _ _ found, within⟩

/-- The total of a segment is written: it covers all its marks. -/
theorem Counts.refresh
    {disk : Disk} {record : List Moment} (counts : disk.Counts record)
    {ws : WriterState} {file : Nat} (opened : ws.eventDb = some file)
    (identified : ∃ row, (disk.eventDb file).segmentRow ws.currentSegmentId =
      some row)
    (bounded : ∀ mark ∈ (disk.eventDb file).marks,
      mark.videoId = ws.currentSegmentId → mark.motionFrame ≤ ws.frameCount) :
    let after := disk.updateEventDb file
      (EventDb.updateTotalFrames ws.currentSegmentId ws.frameCount)
    after.Counts (⟨.refreshed, ws, after⟩ :: record) := by
  intro after
  have marks : ∀ other, (after.eventDb other).marks =
      (disk.eventDb other).marks := disk.marks_updateTotalFrames file _ _
  have covers : ∀ other mark row, mark ∈ (disk.eventDb other).marks →
      (disk.eventDb other).segmentRow mark.videoId = some row →
      (mark.motionFrame ≤ row.totalFrames ∨
        file = other ∧ ws.currentSegmentId = mark.videoId) →
      ∃ row, (after.eventDb other).segmentRow mark.videoId = some row ∧
        mark.motionFrame ≤ row.totalFrames := by
    intro other mark row there found within
    refine ⟨_, segmentRow_updateTotalFrames found file _ _, ?_⟩
    split
    · rename_i its
      obtain ⟨rfl, its⟩ := its
      exact bounded mark there its.symm
    · rename_i others
      exact within.resolve_right others
  refine ⟨fun other mark there => ?_, fun other mark refreshed => ?_⟩
  · rw [marks] at there
    obtain ⟨positive, row, found⟩ := counts.placed other mark there
    exact ⟨positive, _, segmentRow_updateTotalFrames found file _ _⟩
  · rcases (refreshed_cons_iff _ _ _ _).mp refreshed with here | earlier
    · obtain ⟨_, sameDb, its, there⟩ := here
      obtain rfl := Option.some.inj (opened.symm.trans sameDb)
      obtain ⟨row, found⟩ := identified
      refine ⟨there, covers file mark row ?_ (its ▸ found) (.inr ⟨rfl, its⟩)⟩
      rw [← marks]
      exact there
    · obtain ⟨there, row, found, within⟩ := counts.covered other mark earlier
      rw [marks]
      exact ⟨there, covers other mark row there found (.inl within)⟩

end Disk

namespace State

/-- Now and at every moment so far the card could be relied on. -/
structure Counted (state : State) : Prop where
  now : state.disk.Counts state.trace
  along : CountedAlong state.trace

/-- The current segment has its row, and its marks are on frames that have been
counted. -/
structure CountsSegment (state : State) : Prop where
  counted : state.Counted
  identified : ∀ file, state.ws.eventDb = some file →
    ∃ row, (state.disk.eventDb file).segmentRow state.ws.currentSegmentId =
      some row
  bounded : ∀ file, state.ws.eventDb = some file →
    ∀ mark ∈ (state.disk.eventDb file).marks,
      mark.videoId = state.ws.currentSegmentId →
        mark.motionFrame ≤ state.ws.frameCount

/-- The marks and the totals are left alone. -/
structure KeepsTotals (before after : State) : Prop where
  disk : before.disk.KeepsMarks after.disk
  adds : Adds Event.ofOther before after

/-- The current segment is the same or none. -/
def SameSegment (before after : State) : Prop :=
  after.ws.eventDb = none ∨
    after.ws.eventDb = before.ws.eventDb ∧
      after.ws.currentSegmentId = before.ws.currentSegmentId ∧
      before.ws.frameCount ≤ after.ws.frameCount

theorem KeepsTotals.log
    {state : State} {event : Event} (other : event.ofOther = true) :
    state.KeepsTotals (state.log event) :=
  ⟨.of_eq rfl, .log other⟩

theorem KeepsTotals.of_eventDbs
    {before after : State} (quiet : after.trace = before.trace)
    (same : after.disk.eventDbs = before.disk.eventDbs) :
    before.KeepsTotals after :=
  ⟨.of_eq same, .inl quiet⟩

theorem Counted.step
    {before after : State} (counted : before.Counted)
    (keeps : before.KeepsTotals after) : after.Counted := by
  have kept := counted.now.keep keeps.disk
  rcases keeps.adds with same | ⟨event, other, grown⟩
  · refine ⟨?_, ?_⟩
    · rw [same]
      exact kept
    · rw [same]
      exact counted.along
  · have now : after.disk.Counts after.trace := by
      refine ⟨kept.placed, fun file mark refreshed => ?_⟩
      rw [grown] at refreshed
      exact kept.covered file mark
        ((@refreshed_cons ⟨event, after.ws, after.disk⟩ other _ _ _).mp
          refreshed)
    refine ⟨now, ?_⟩
    rw [grown] at now ⊢
    exact (countedAlong_cons _ _).mpr ⟨now, counted.along⟩

theorem CountsSegment.step
    {before after : State} (counts : before.CountsSegment)
    (keeps : before.KeepsTotals after) (same : before.SameSegment after) :
    after.CountsSegment := by
  refine ⟨counts.counted.step keeps, ?_, ?_⟩
  · rcases same with closed | ⟨sameDb, sameId, _⟩
    · intro file opened
      exact nomatch closed.symm.trans opened
    · intro file opened
      obtain ⟨row, found⟩ := counts.identified file (sameDb ▸ opened)
      rw [sameId]
      exact ⟨row, keeps.disk.rows _ _ _ found⟩
  · rcases same with closed | ⟨sameDb, sameId, more⟩
    · intro file opened
      exact nomatch closed.symm.trans opened
    · intro file opened mark there its
      rw [keeps.disk.marks] at there
      have before := counts.bounded file (sameDb ▸ opened) mark there
        (its.trans sameId)
      omega

theorem SameSegment.of_eq
    {before after : State}
    (database : after.ws.eventDb = before.ws.eventDb)
    (segment : after.ws.currentSegmentId = before.ws.currentSegmentId)
    (frames : after.ws.frameCount = before.ws.frameCount) :
    before.SameSegment after :=
  .inr ⟨database, segment, frames.ge⟩

theorem CountsSegment.log
    {state : State} (counts : state.CountsSegment) {event : Event}
    (other : event.ofOther = true) : (state.log event).CountsSegment :=
  counts.step (.log other) (.of_eq rfl rfl rfl)

/-- A change of other fields of the writer. -/
theorem CountsSegment.updateWs
    {state : State} (counts : state.CountsSegment)
    {update : WriterState → WriterState}
    (database : (update state.ws).eventDb = state.ws.eventDb)
    (segment : (update state.ws).currentSegmentId = state.ws.currentSegmentId)
    (frames : (update state.ws).frameCount = state.ws.frameCount) :
    (state.updateWs update).CountsSegment :=
  counts.step (.of_eventDbs rfl rfl) (.of_eq database segment frames)

/-! ## What the steps do to the marks -/

theorem keepsTotals_hlsStep
    (before after : State) (step : HlsStep before after) :
    before.KeepsTotals after ∧ before.SameSegment after := by
  cases step with
  | replaced dir name data outlet =>
      exact ⟨⟨.of_eq (eventDbs_putFile _ _ _ _), .log rfl⟩, .of_eq rfl rfl rfl⟩
  | lastDts dts => exact ⟨.of_eventDbs rfl rfl, .of_eq rfl rfl rfl⟩
  | called | cut | cutFailed | appended =>
      exact ⟨.log rfl, .of_eq rfl rfl rfl⟩
  | cutDone => exact ⟨⟨.of_eq rfl, .log rfl⟩, .of_eq rfl rfl rfl⟩
  | nextName | addEntry | changeMuxer =>
      exact ⟨.of_eventDbs rfl rfl, .of_eq rfl rfl rfl⟩

/-- Statements on `VideoMetadata`. -/
theorem keepsTotals_statementStep
    {writes : (EventDb → EventDb) → Prop}
    (keeps : ∀ update, writes update →
      (∀ (db : EventDb) id row, db.segmentRow id = some row →
        (update db).segmentRow id = some row) ∧
      ∀ db : EventDb, (update db).marks = db.marks)
    (before after : State) (step : StatementStep writes before after) :
    before.KeepsTotals after ∧ before.SameSegment after := by
  cases step with
  | called kind succeeded => exact ⟨.log rfl, .of_eq rfl rfl rfl⟩
  | insert date ready =>
      exact ⟨⟨.of_eq rfl, .log rfl⟩, .of_eq rfl rfl rfl⟩
  | upsert date count ready =>
      exact ⟨⟨.of_eq rfl, .log rfl⟩, .of_eq rfl rfl rfl⟩
  | write file update written =>
      exact ⟨⟨.updateEventDb _ _ (keeps update written).1
        (keeps update written).2, .inl rfl⟩, .of_eq rfl rfl rfl⟩

theorem keepsTotals_dbStep
    (before after : State) (step : DbStep before after) :
    before.KeepsTotals after := by
  cases step with
  | statement step =>
      refine (keepsTotals_statementStep (fun update opens =>
        ⟨fun _ _ _ => opens.keeps, fun db => ?_⟩) _ _ step).1
      cases opens <;> rfl
  | openMeta opened => exact .of_eventDbs rfl rfl
  | createMeta => exact .of_eventDbs rfl rfl
  | createLogs date => exact ⟨.openEventLogs _ date, .inl rfl⟩
  | openLogs file => exact .of_eventDbs rfl rfl
  | stamp file folder time clock opened accepted =>
      exact ⟨.updateEventDb _ _ (fun _ _ _ => EventDb.insertSegment_keeps _ _)
        fun _ => rfl, .inr ⟨_, rfl, rfl⟩⟩

/-- Opening a day brings no mark and loses no row. -/
theorem keepsTotals_folderStep
    (before after : State) (step : FolderStep before after) :
    before.KeepsTotals after := by
  cases step with
  | called kind succeeded => exact .log rfl
  | enter date yday => exact .of_eventDbs rfl rfl
  | mkdir dir parent new => exact ⟨.of_eq (eventDbs_mkdir _ _), .log rfl⟩
  | place index dir => exact .of_eventDbs rfl rfl
  | placed => exact .log rfl

theorem keepsTotals_cleanupStep
    {config : Config}
    (before after : State) (step : CleanupStep config before after) :
    before.KeepsTotals after ∧ before.SameSegment after := by
  cases step with
  | removal step =>
      cases step with
      | called | removing | removed =>
          exact ⟨.log rfl, .of_eq rfl rfl rfl⟩
      | removePart date removal under =>
          exact ⟨.of_eventDbs rfl (eventDbs_removePart _ _ _),
            .of_eq rfl rfl rfl⟩
      | removeDay date under =>
          exact ⟨.of_eventDbs rfl rfl, .of_eq rfl rfl rfl⟩
      | delete date idle gone =>
          exact ⟨⟨.of_eq rfl, .log rfl⟩, .of_eq rfl rfl rfl⟩
  | notDue early => exact ⟨.log rfl, .of_eq rfl rfl rfl⟩
  | reset => exact ⟨⟨.of_eq rfl, .log rfl⟩, .of_eq rfl rfl rfl⟩
  | scheduling date freeMb low oldest =>
      exact ⟨.log rfl, .of_eq rfl rfl rfl⟩
  | schedule date announced =>
      exact ⟨.of_eventDbs rfl rfl, .of_eq rfl rfl rfl⟩

/-- The total of the current segment is written: it covers all its marks. -/
theorem countsSegment_totalStep
    (before after : State) (step : TotalStep before after)
    (counts : before.CountsSegment) : after.CountsSegment := by
  cases step with
  | called kind succeeded =>
      exact counts.log rfl
  | update file opened =>
      have now := counts.counted.now.refresh opened
        (counts.identified file opened) (counts.bounded file opened)
      refine ⟨⟨now, (countedAlong_cons _ _).mpr
        ⟨now, counts.counted.along⟩⟩, fun other its => ?_,
        fun other its mark there => ?_⟩
      · obtain ⟨row, found⟩ := counts.identified other its
        exact ⟨_, Disk.segmentRow_updateTotalFrames found file _ _⟩
      · apply counts.bounded other its mark
        rw [← Disk.marks_updateTotalFrames]
        exact there

theorem countsSegment_turnStep
    (before after : State) (step : TurnStep before after)
    (counts : before.CountsSegment) : after.CountsSegment := by
  cases step with
  | flush step =>
      cases step with
      | hls step =>
          obtain ⟨keeps, same⟩ := keepsTotals_hlsStep _ _ step
          exact counts.step keeps same
      | dropMuxer | dropPlaylist =>
          exact counts.step (.of_eventDbs rfl rfl) (.of_eq rfl rfl rfl)
  | total step => exact countsSegment_totalStep _ _ step counts
  | statement step =>
      obtain ⟨keeps, same⟩ :=
        keepsTotals_statementStep (fun _ => False.elim) _ _ step
      exact counts.step keeps same
  | close => exact counts.step (.of_eventDbs rfl rfl) (.inl rfl)
  | openMeta | createMeta =>
      exact counts.step (.of_eventDbs rfl rfl) (.of_eq rfl rfl rfl)
  | ensureDay | ingest => exact counts.log rfl

theorem countsSegment_frameStep
    (before after : State) (step : FrameStep before after)
    (counts : before.CountsSegment) : after.CountsSegment := by
  cases step with
  | hls step =>
      obtain ⟨keeps, same⟩ := keepsTotals_hlsStep _ _ step
      exact counts.step keeps same
  | gate | discarded | divides | fed =>
      exact counts.log rfl
  | pass | timestamp =>
      exact counts.step (.of_eventDbs rfl rfl) (.of_eq rfl rfl rfl)
  | count =>
      exact counts.step (.of_eventDbs rfl rfl)
        (.inr ⟨rfl, rfl, Nat.le_succ _⟩)

/-! ## Leaving a mark -/

theorem mem_marks_insertDetail
    {disk : Disk} {file other : Nat} {videoId motionFrame : Int}
    {mark : EventRow}
    (there : mark ∈ ((disk.updateEventDb file
      (EventDb.insertDetail videoId motionFrame)).eventDb other).marks) :
    mark ∈ (disk.eventDb other).marks ∨
      other = file ∧ mark = ⟨videoId, motionFrame⟩ := by
  rw [Disk.eventDb_updateEventDb] at there
  split at there
  · rename_i its
    cases present : (disk.eventDb other).eventDetails with
    | none =>
        rw [EventDb.marks, EventDb.insertDetail, present] at there
        exact absurd there List.not_mem_nil
    | some rows =>
        rw [EventDb.marks, EventDb.insertDetail, present, Option.map_some,
          Option.getD_some, List.mem_append] at there
        rcases there with old | new
        · rw [EventDb.marks, present]
          exact .inl old
        · exact .inr ⟨its.1.symm, List.mem_singleton.mp new⟩
  · exact .inl there

theorem mem_marks_of_mem
    {disk : Disk} {other : Nat} {mark : EventRow}
    (there : mark ∈ (disk.eventDb other).marks)
    (file : Nat) (videoId motionFrame : Int) :
    mark ∈ ((disk.updateEventDb file
      (EventDb.insertDetail videoId motionFrame)).eventDb other).marks := by
  rw [Disk.eventDb_updateEventDb]
  split
  · cases present : (disk.eventDb other).eventDetails with
    | none =>
        rw [EventDb.marks, present] at there
        exact absurd there List.not_mem_nil
    | some rows =>
        rw [EventDb.marks, present] at there
        rw [EventDb.marks, EventDb.insertDetail, present]
        exact List.mem_append_left _ there
  · exact there

theorem segmentRow_insertDetail
    (disk : Disk) (file other : Nat) (videoId motionFrame id : Int) :
    ((disk.updateEventDb file (EventDb.insertDetail videoId
      motionFrame)).eventDb other).segmentRow id =
        (disk.eventDb other).segmentRow id := by
  rw [Disk.eventDb_updateEventDb]
  split <;> rfl

/-- A mark is left on the frame that was counted last. -/
theorem CountsSegment.mark
    {state : State} (counts : state.CountsSegment)
    (positive : 0 < state.ws.frameCount)
    {file : Nat} (opened : state.ws.eventDb = some file) :
    (state.updateDisk fun disk => disk.updateEventDb file
      (EventDb.insertDetail state.ws.currentSegmentId
        state.ws.frameCount)).CountsSegment := by
  obtain ⟨row, found⟩ := counts.identified file opened
  have now : (state.disk.updateEventDb file (EventDb.insertDetail
      state.ws.currentSegmentId state.ws.frameCount)).Counts state.trace := by
    refine ⟨fun other mark there => ?_, fun other mark refreshed => ?_⟩
    · rw [segmentRow_insertDetail]
      rcases mem_marks_insertDetail there with old | ⟨rfl, rfl⟩
      · exact counts.counted.now.placed other mark old
      · exact ⟨Int.natCast_pos.mpr positive, row, found⟩
    · obtain ⟨there, its, listed, within⟩ :=
        counts.counted.now.covered other mark refreshed
      refine ⟨mem_marks_of_mem there _ _ _, its, ?_, within⟩
      rw [segmentRow_insertDetail]
      exact listed
  refine ⟨⟨now, counts.counted.along⟩, fun other its => ?_,
    fun other its mark there same => ?_⟩
  · rw [State.disk_updateDisk, segmentRow_insertDetail]
    exact counts.identified other its
  · rcases mem_marks_insertDetail there with old | ⟨_, rfl⟩
    · exact counts.bounded other its mark old same
    · exact le_rfl

end State

namespace Storage

open Program State

/-- A program whose steps leave the marks alone. -/
theorem counted_of_steps
    {step : State → State → Prop}
    {program : Storage α}
    (within : program.Within step)
    (keeps : ∀ before after, step before after → before.KeepsTotals after)
    {state : State} (counted : state.Counted) :
    program.wp (fun _ => Counted) Counted state :=
  within.keeps (fun before after last counted =>
    counted.step (keeps before after last)) state counted

/-- A new segment has a row, and no marks yet. -/
theorem eventDbAddSegment_counts
    {state : State} (counted : state.Counted) :
    eventDbAddSegment.wp
      (fun id after => after.Counted ∧ (0 ≤ id →
        ∀ file, after.ws.eventDb = some file →
          (∃ row, (after.disk.eventDb file).segmentRow id = some row) ∧
          ∀ mark ∈ (after.disk.eventDb file).marks, mark.videoId ≠ id))
      Counted state := by
  rw [eventDbAddSegment, wp_bind, wp_current]
  apply wp_split
  · exact fun _ => ⟨counted, fun valid => absurd valid (by decide)⟩
  intro _
  rw [wp_bind, wp_answer]
  refine ⟨counted, fun time => ?_⟩
  rw [wp_bind, wp_answer]
  refine ⟨counted, fun clock => ?_⟩
  rw [wp_bind, wp_call]
  refine ⟨counted, fun inserted possible => ?_⟩
  have called : (state.log (.called .sql inserted.ok)).Counted :=
    counted.step (.log rfl)
  apply wp_split
  · exact fun _ => ⟨called, fun valid => absurd valid (by decide)⟩
  intro succeeded
  have accepts := possible (by simpa using succeeded)
  rw [wp_bind, wp_current, wp_bind, updateEventDb, wp_bind, wp_current]
  cases found : (state.log (.called .sql inserted.ok)).ws.eventDb with
  | none =>
      exact ⟨called.step (.log rfl), fun valid => absurd valid (by decide)⟩
  | some file =>
      have opened : state.ws.eventDb = some file := found
      simp only [State.eventReady, opened] at accepts
      have ready := EventDb.isSome_of_accepts accepts
      have inside := Disk.lt_of_segments ready
      let folder := (zeroPadded 5 state.ws.interruptIdx).take 7
      let startTime := time.tm.startTime clock.usec
      have keeps : state.disk.KeepsMarks (state.disk.updateEventDb file
          (EventDb.insertSegment folder startTime)) :=
        .updateEventDb state.disk file
          (fun _ _ _ => EventDb.insertSegment_keeps _ _) fun _ => rfl
      have added : (state.log (.called .sql inserted.ok)).KeepsTotals
          ((state.log (.called .sql inserted.ok)).updateDisk fun disk =>
            disk.updateEventDb file
              (EventDb.insertSegment folder startTime)) := ⟨keeps, .inl rfl⟩
      refine ⟨(called.step added).step (.log rfl), fun _ other same => ?_⟩
      obtain rfl := Option.some.inj (opened.symm.trans same)
      constructor
      · refine ⟨⟨folder, startTime, -1⟩, ?_⟩
        change ((state.disk.updateEventDb file (EventDb.insertSegment folder
          startTime)).eventDb file).segmentRow _ = _
        rw [Disk.eventDb_updateEventDb, if_pos ⟨rfl, inside⟩]
        exact EventDb.segmentRow_insertSegment ready folder startTime
      · intro mark there
        change mark ∈ ((state.disk.updateEventDb file (EventDb.insertSegment
          folder startTime)).eventDb file).marks at there
        rw [keeps.marks] at there
        obtain ⟨_, row, listed⟩ := counted.now.placed file mark there
        exact (EventDb.lt_nextSegmentId listed).ne

theorem hlsCreate_counts
    (config : Config) {state : State} (counts : state.CountsSegment) :
    (hlsCreate config).wp (fun _ => CountsSegment) Counted state := by
  rw [hlsCreate, wp_bind, wp_call]
  refine ⟨counts.counted, fun m3u _ => ?_⟩
  have allocated : State.CountsSegment
      ((state.log (.called .alloc m3u.ok)).updateWs fun ws =>
        { ws with m3u := if m3u.ok then some [] else none }) :=
    (counts.log rfl).updateWs rfl rfl rfl
  rw [wp_bind, wp_setWs, wp_bind, wp_call]
  refine ⟨allocated.counted, fun hls _ => ?_⟩
  exact (allocated.log rfl).updateWs rfl rfl rfl

/-- No segment is open. -/
theorem countsSegment_of_closed
    {state : State} (counted : state.Counted)
    (closed : state.ws.eventDb = none) : state.CountsSegment :=
  ⟨counted, fun _ opened => absurd (closed.symm.trans opened) nofun,
    fun _ opened => absurd (closed.symm.trans opened) nofun⟩

theorem openSegment_counts
    (config : Config) {state : State} (counted : state.Counted) :
    (openSegment config).wp (fun _ => CountsSegment) Counted state := by
  rw [openSegment]
  refine wp_then (wp_mono (wp_and (counted_of_steps eventDbOpen_within
    keepsTotals_dbStep counted) (eventDbOpen_closes state))
    (fun _ _ both => both) fun _ both => both.1) ?_
  rintro db state ⟨counted, closes⟩
  apply wp_split
  · exact fun failed => countsSegment_of_closed counted (closes failed)
  intro _
  refine wp_then (eventDbAddSegment_counts counted) ?_
  rintro id state ⟨counted, fresh⟩
  rw [wp_bind, wp_setWs]
  have closed : (state.updateWs fun ws =>
      { ws with currentSegmentId := id, eventDb := none }).CountsSegment :=
    countsSegment_of_closed (counted.step (.of_eventDbs rfl rfl)) rfl
  apply wp_split
  · exact fun _ => closed
  intro valid
  rw [wp_bind, resetSegment, wp_setWs]
  have begun : State.CountsSegment
      ((state.updateWs fun ws => { ws with currentSegmentId := id }).updateWs
        fun ws =>
          { ws with
            frameCount := 0
            motionCount := 0
            lastFps := config.fpsLow
            ptsMs := 0
            seenKeyframe := false }) := by
    refine ⟨counted.step (.of_eventDbs rfl rfl), fun file opened => ?_,
      fun file opened mark there its => ?_⟩
    · exact (fresh (not_lt.mp valid) file opened).1
    · exact absurd its ((fresh (not_lt.mp valid) file opened).2 mark there)
  refine wp_then (hlsCreate_counts config begun) fun hls state counts => ?_
  apply wp_split
  · exact fun _ => counts.step (.of_eventDbs rfl rfl) (.inl rfl)
  · exact fun _ => counts

theorem openToday_counts
    (config : Config) {state : State} (counts : state.CountsSegment)
    (closed : state.ws.eventDb = none) :
    (openToday config).wp (fun _ => CountsSegment) Counted state := by
  have kept : ∀ before after : State, FolderStep before after →
      after.ws.eventDb = before.ws.eventDb := by
    intro before after step
    cases step <;> rfl
  have begun : (state.log .opening).Counted := counts.counted.step (.log rfl)
  rw [openToday, wp_bind, wp_log]
  refine wp_then (wp_mono (wp_and (counted_of_steps openFolder_within
    keepsTotals_folderStep begun) (openFolder_within.preserves kept _))
    (fun _ _ both => both) fun _ both => both.1) ?_
  rintro folder state ⟨counted, same⟩
  apply wp_via (fun _ => CountsSegment)
  · apply wp_split
    · exact fun _ => countsSegment_of_closed counted (same.trans closed)
    · exact fun _ => openSegment_counts config counted
  · exact fun result state counts =>
      counts.log rfl

/-- The mark goes to the current segment, on the frame that was counted last. -/
theorem eventDbAddMotion_counts
    {state : State} (counts : state.CountsSegment)
    (positive : 0 < state.ws.frameCount) :
    (eventDbAddMotion state.ws.currentSegmentId state.ws.frameCount).wp
      (fun _ => CountsSegment) Counted state := by
  rw [eventDbAddMotion, wp_bind, wp_current]
  apply wp_split
  · exact fun _ => counts
  intro _
  rw [wp_bind, wp_call]
  refine ⟨counts.counted, fun inserted _ => ?_⟩
  have called : (state.log (.called .sql inserted.ok)).CountsSegment :=
    counts.log rfl
  apply wp_split
  · exact fun _ => called
  intro _
  rw [updateEventDb, wp_bind, wp_current]
  cases opened : (state.log (.called .sql inserted.ok)).ws.eventDb with
  | none => exact called
  | some file => exact called.mark positive opened

theorem metaDbUpsertMotionCount_counts
    (count : Int) {state : State} (counts : state.CountsSegment) :
    (metaDbUpsertMotionCount count).wp (fun _ => CountsSegment) Counted
      state := by
  have within := @metaDbUpsertMotionCount_within (fun _ => False) count
  refine wp_mono (within.keeps (fun before after step counts => ?_) state
    counts) (fun _ _ counts => counts) fun _ counts => counts.counted
  obtain ⟨keeps, same⟩ :=
    keepsTotals_statementStep (fun _ => False.elim) before after step
  exact counts.step keeps same

theorem recordMotion_counts
    (config : Config) {state : State} (counts : state.CountsSegment)
    (positive : 0 < state.ws.frameCount) :
    (recordMotion config).wp (fun _ => CountsSegment) Counted state := by
  rw [recordMotion, wp_bind, nowMs, wp_bind, wp_answer]
  refine ⟨counts.counted, fun now => ?_⟩
  rw [wp_pure, wp_bind, wp_current]
  apply wp_split
  swap
  · exact fun _ => counts
  intro _
  rw [wp_bind, wp_setWs, wp_bind, wp_log]
  have marked : State.CountsSegment ((state.updateWs fun ws =>
      { ws with motionCount := ws.motionCount + 1 }).log .mark) :=
    CountsSegment.log (counts.updateWs rfl rfl rfl) rfl
  refine wp_then (eventDbAddMotion_counts marked positive)
    fun _ state counts => ?_
  refine wp_then (metaDbUpsertMotionCount_counts _ counts)
    fun _ state counts => ?_
  rw [wp_bind, wp_log, wp_setWs]
  exact (counts.log rfl).updateWs rfl rfl rfl

theorem recordProgress_counts
    (config : Config) {state : State} (counts : state.CountsSegment)
    (positive : 0 < state.ws.frameCount) :
    (recordProgress config).wp (fun _ => CountsSegment) Counted state := by
  have update : ∀ {reached : State}, reached.CountsSegment →
      eventDbUpdateTotalFrames.wp (fun _ => CountsSegment) Counted reached :=
    fun counts => wp_mono (eventDbUpdateTotalFrames_within.keeps
      countsSegment_totalStep _ counts) (fun _ _ counts => counts)
      fun _ counts => counts.counted
  have divides : ∀ {reached : State} (divisor : Int), reached.CountsSegment →
      (reached.log (.divides divisor)).CountsSegment := fun _ counts =>
    counts.log rfl
  rw [recordProgress, wp_bind, wp_answer]
  refine ⟨counts.counted, fun fps => ?_⟩
  rw [wp_bind, wp_setWs, wp_bind, wp_log]
  have updated : (state.updateWs fun ws =>
      { ws with lastFps := fps.currentFps }).CountsSegment :=
    counts.updateWs rfl rfl rfl
  have noted := @State.CountsSegment.log _ updated
    (.judged (fps.currentFps = config.fpsHigh)) rfl
  apply wp_split
  swap
  · exact fun _ => update noted
  intro _
  refine wp_then (recordMotion_counts config noted positive)
    fun _ state counts => ?_
  rw [wp_bind, wp_log, wp_bind]
  have moved : (state.log .motion).CountsSegment :=
    counts.log rfl
  apply wp_divide (divides _ moved).counted
  intro _
  rw [wp_bind]
  apply wp_divide (divides _ (divides _ moved)).counted
  intro _
  rw [wp_bind, wp_current]
  apply wp_split
  · exact fun _ => update (divides _ (divides _ moved))
  · exact fun _ => divides _ (divides _ moved)

end Storage

/-- No writer has run yet, and the card is one that writers leave: every mark on
it is on a frame of a segment. -/
structure State.Marked (state : State) : Prop where
  unused : state.trace = []
  placed : state.disk.MarksPlaced

/-- A blank card is one. -/
theorem State.Marked.blank : State.Marked {} :=
  ⟨rfl, fun _ _ there => absurd there List.not_mem_nil⟩

/-- In every history the card can be relied on at every moment. -/
theorem writer_counts
    (config : Config) {phase : Daemon.Phase} {state : State}
    (reached : (writer config).Reach State.Marked phase state) :
    state.Counted := by
  have maintains : Maintains config State.Marked State.Counted
      State.CountsSegment := by
    refine ⟨fun _ counts => counts.counted, ?_, ?_, ?_,
      fun before after step _ => State.countsSegment_turnStep before after step,
      fun before after step _ =>
        State.countsSegment_frameStep before after step, ?_, ?_⟩
    · intro first marked
      refine ⟨⟨marked.placed, fun file mark refreshed => ?_⟩, ?_⟩
      · rw [marked.unused] at refreshed
        obtain ⟨moment, member, _⟩ := refreshed
        exact absurd member List.not_mem_nil
      · rw [marked.unused]
        exact fun moment older suffix =>
          absurd (List.suffix_nil.mp suffix) (List.cons_ne_nil _ _)
    · intro last counted
      have blank : (⟨{}, -1, last.disk, last.trace⟩ : State).Counted :=
        ⟨counted.now, counted.along⟩
      exact Storage.countsSegment_of_closed (blank.step (.log rfl)) rfl
    · exact fun state counts _ closed _ =>
        Storage.openToday_counts config counts closed
    · exact fun state counts _ positive =>
        Storage.recordProgress_counts config counts positive
    · intro state counts idle
      refine Program.wp_mono (Storage.keeps_cleanup config
        (fun before after step counts => ?_) counts idle)
        (fun _ _ both => both.1) fun _ counts => counts.counted
      obtain ⟨keeps, same⟩ := State.keepsTotals_cleanupStep before after step
      exact counts.step keeps same
  exact maintains.everywhere reached

end MotionSense
