import MotionSense.Storage.Steps

/-!
# What was recorded into each segment folder

From the record of a run one can read off, for every folder that `open_today`
has opened, the frames that were held back at the keyframe gate, the frames fed
to the muxer, the files that were in the folder and those published since.
-/

namespace MotionSense

/-! ## Reading a folder -/

/-- The names in a folder's playlist. -/
def Folder.index (folder : Folder) : List CString :=
  match folder indexName with
  | some (.playlist entries) => entries.map PlaylistEntry.name
  | _ => []

/-- The frames in a `.ts` file. -/
def Folder.frames (folder : Folder) (name : CString) : List FqFrame :=
  match folder name with
  | some (.media frames) => frames
  | _ => []

/-- A folder's `.ts` files one after the other in index order. -/
def Folder.media (folder : Folder) : List FqFrame :=
  folder.index.flatMap folder.frames

/-- How often the removal of a day has begun. -/
def removalsOf (date : CString) (trace : List Moment) : Nat :=
  trace.countP fun moment => moment.event = .removing date

/-! ## Logs -/

/-- Which frames reached a segment folder, and the row that counts them. -/
structure FolderAccount where
  dir : SegmentDir := {}
  /-- The `EventLogs.db` of the folder's day. -/
  eventDb : Option Nat := none
  segmentId : Int := 0
  /-- How often the removal of the folder's day had begun before. -/
  removals : Nat := 0
  /-- What was in the folder when it was opened. -/
  found : Folder := fun _ => none
  /-- Frames held back at the gate. -/
  discarded : List FqFrame := []
  /-- Frames fed to the folder's muxer. -/
  fed : List FqFrame := []

/-- The account of a folder with the files published in it. -/
structure FolderLog extends FolderAccount where
  files : Folder := fun _ => none

namespace FolderLog

/-- Every frame that was popped while the folder was open. -/
def frames (log : FolderLog) : List FqFrame :=
  log.discarded ++ log.fed

/-- The names in the playlist that was published last. -/
def index (log : FolderLog) : List CString :=
  log.files.index

/-- The published `.ts` files one after the other in index order. -/
def media (log : FolderLog) : List FqFrame :=
  log.files.media

/-- What was found in the folder, with the published files in place. -/
def folder (log : FolderLog) : Folder := fun name =>
  (log.files name).or (log.found name)

/-- Publish a file. -/
def publish (log : FolderLog) (name : CString) (data : FileData) : FolderLog :=
  { log with files := Function.update log.files name (some data) }

/-- No removal of the folder's day has begun since it was opened. -/
def Spared (log : FolderLog) (trace : List Moment) : Prop :=
  removalsOf log.dir.date trace = log.removals

instance (log : FolderLog) (trace : List Moment) :
    Decidable (log.Spared trace) :=
  inferInstanceAs (Decidable (_ = _))

end FolderLog

/-- The row of `VideoSegments` with an id. -/
def EventDb.segmentRow (db : EventDb) (id : Int) : Option SegmentRow :=
  if 0 < id then db.videoSegments.bind fun rows => rows[id.toNat - 1]? else none

theorem EventDb.segmentRow_eq_some
    {db : EventDb} {id : Int} {row : SegmentRow} :
    db.segmentRow id = some row ↔
      0 < id ∧ ∃ rows, db.videoSegments = some rows ∧
        rows[id.toNat - 1]? = some row := by
  rw [segmentRow]
  split
  · simp [*, Option.bind_eq_some_iff]
  · simp [*]

/-- `total_frames` of a folder's row. -/
def FolderAccount.totalFrames (account : FolderAccount) (disk : Disk) :
    Option Int :=
  account.eventDb.bind fun file =>
    ((disk.eventDb file).segmentRow account.segmentId).map
      SegmentRow.totalFrames

namespace Moment

/-- Change the log of the folder opened last. -/
def extendLog (update : FolderLog → FolderLog) :
    List FolderLog → List FolderLog
  | [] => []
  | log :: older => update log :: older

/-- The log of a folder that is opened at a moment. -/
def openLog (moment : Moment) (earlier : List Moment) : FolderLog where
  dir := moment.ws.segmentDir
  eventDb := moment.ws.eventDb
  segmentId := moment.ws.currentSegmentId
  removals := removalsOf moment.ws.segmentDir.date earlier
  found := (moment.disk.folder moment.ws.segmentDir.date
    moment.ws.segmentDir.name).getD fun _ => none

/-- The logs of all folders opened so far, the last one first. -/
def folderLogs : List Moment → List FolderLog
  | [] => []
  | moment :: earlier =>
      match moment.event with
      | .opened result =>
          if result = 0 then moment.openLog earlier :: folderLogs earlier
          else folderLogs earlier
      | .discarded frame =>
          extendLog
            (fun log => { log with discarded := log.discarded ++ [frame] })
            (folderLogs earlier)
      | .fed frame =>
          extendLog (fun log => { log with fed := log.fed ++ [frame] })
            (folderLogs earlier)
      | .renamed name data =>
          extendLog (fun log => log.publish name data) (folderLogs earlier)
      | _ => folderLogs earlier

/-- The event is no failure of opening a day, of a statement or of a write of a
file. -/
def succeeded (moment : Moment) : Bool :=
  match moment.event with
  | .opened result => result = 0
  | .called kind ok =>
      ok || !([.openDb, .sql, .writeFile, .rename, .fsyncDir].contains kind)
  | _ => true

end Moment

namespace State

/-- The logs of the folders opened so far. -/
def logs (state : State) : List FolderLog :=
  Moment.folderLogs state.trace

/-- Opening days, statements and writes of files have all succeeded. -/
def Succeeds (state : State) : Prop :=
  ∀ moment ∈ state.trace, moment.succeeded = true

instance (state : State) : Decidable state.Succeeds :=
  inferInstanceAs (Decidable (∀ moment ∈ state.trace,
    moment.succeeded = true))

theorem succeeds_log (state : State) (event : Event) :
    (state.log event).Succeeds ↔
      Moment.succeeded ⟨event, state.ws, state.disk⟩ = true ∧
        state.Succeeds :=
  List.forall_mem_cons

end State

/-- The folder is finished: what was held back came before its first keyframe,
the published playlist names published files in order, they hold exactly the
frames fed to it, and its row counts them. -/
structure FolderLog.Finished (disk : Disk) (log : FolderLog) : Prop where
  discarded : ∀ frame ∈ log.discarded, frame.isKey = false
  firstFed : ∀ frame ∈ log.fed.head?, frame.isKey = true
  index : ∃ count, log.index = (List.range count).map tsName
  files : ∀ name ∈ log.index, (log.files name).isSome = true
  media : log.media = log.fed.filterMap FqFrame.payload
  totalFrames : log.totalFrames disk = some (log.fed.length : Int)

/-- The folder is finished, and until the removal of its day begins the card has
it: the playlist there names files in order, and those hold exactly the frames fed
to it.  A playlist found in the folder stays as long as none is published. -/
structure FolderLog.Complete
    (disk : Disk) (trace : List Moment) (log : FolderLog) : Prop
    extends log.Finished disk where
  onCard : log.Spared trace → ∃ folder,
    disk.folder log.dir.date log.dir.name = some folder ∧
      (log.found indexName = none ∨ log.fed.filterMap FqFrame.payload ≠ [] →
        (∃ count, folder.index = (List.range count).map tsName) ∧
          folder.media = log.fed.filterMap FqFrame.payload)

/-! ## Rows of `VideoSegments` -/

namespace EventDb

theorem isSome_of_accepts
    {db : EventDb} {folder : CString} (accepted : db.accepts folder = true) :
    db.videoSegments.isSome = true := by
  unfold accepts at accepted
  split at accepted
  · cases accepted
  · rename_i rows present
    rw [present]
    rfl

/-- A row that is there has an id below the next one. -/
theorem lt_nextSegmentId
    {db : EventDb} {id : Int} {row : SegmentRow}
    (found : db.segmentRow id = some row) :
    id < db.nextSegmentId := by
  obtain ⟨positive, rows, present, listed⟩ := segmentRow_eq_some.mp found
  have bound := (List.getElem?_eq_some_iff.mp listed).1
  rw [nextSegmentId, present, Option.getD_some]
  omega

/-- No statement that opens a database touches a row that is there. -/
theorem Opens.keeps
    {update : EventDb → EventDb} (opens : Opens update)
    {db : EventDb} {id : Int} {row : SegmentRow}
    (found : db.segmentRow id = some row) :
    (update db).segmentRow id = some row := by
  cases opens with
  | createSegments =>
      obtain ⟨positive, rows, present, listed⟩ := segmentRow_eq_some.mp found
      exact segmentRow_eq_some.mpr ⟨positive, rows, by
        simp [EventDb.createSegments, present], listed⟩
  | createDetails => exact found
  | createIndex => exact found

/-- Nor does the one that adds a segment. -/
theorem insertSegment_keeps
    (folder startTime : CString)
    {db : EventDb} {id : Int} {row : SegmentRow}
    (found : db.segmentRow id = some row) :
    (db.insertSegment folder startTime).segmentRow id = some row := by
  obtain ⟨positive, rows, present, listed⟩ := segmentRow_eq_some.mp found
  refine segmentRow_eq_some.mpr ⟨positive, rows ++ [⟨folder, startTime, -1⟩],
    by simp [insertSegment, present], ?_⟩
  rw [List.getElem?_append_left (List.getElem?_eq_some_iff.mp listed).1]
  exact listed

/-- Nor does one that leaves a mark. -/
theorem Marks.keeps
    {update : EventDb → EventDb} (marks : Marks update)
    {db : EventDb} {id : Int} {row : SegmentRow}
    (found : db.segmentRow id = some row) :
    (update db).segmentRow id = some row := by
  cases marks
  exact found

/-- A new row has the next id. -/
theorem segmentRow_insertSegment
    {db : EventDb} (ready : db.videoSegments.isSome = true)
    (folder startTime : CString) :
    (db.insertSegment folder startTime).segmentRow db.nextSegmentId =
      some ⟨folder, startTime, -1⟩ := by
  obtain ⟨rows, present⟩ := Option.isSome_iff_exists.mp ready
  refine segmentRow_eq_some.mpr ⟨?_, rows ++ [⟨folder, startTime, -1⟩], by
    simp [insertSegment, present], ?_⟩
  · rw [nextSegmentId]
    omega
  · simp [nextSegmentId, present]

/-- Updating the total changes the row with the id and no other. -/
theorem segmentRow_updateTotalFrames
    {db : EventDb} {id : Int} {row : SegmentRow}
    (found : db.segmentRow id = some row) (counted totalFrames : Int) :
    (db.updateTotalFrames counted totalFrames).segmentRow id =
      some (if counted = id then { row with totalFrames } else row) := by
  obtain ⟨positive, rows, present, listed⟩ := segmentRow_eq_some.mp found
  by_cases countedPositive : 0 < counted
  · have updated : (db.updateTotalFrames counted totalFrames).videoSegments =
        some (rows.modify (counted.toNat - 1)
          fun row => { row with totalFrames }) := by
      simp only [updateTotalFrames, present, Option.map_some,
        if_pos countedPositive]
    refine segmentRow_eq_some.mpr ⟨positive, _, updated, ?_⟩
    rw [List.getElem?_modify, listed, Option.map_eq_map, Option.map_some]
    by_cases same : counted = id
    · simp [same]
    · have different : counted.toNat - 1 ≠ id.toNat - 1 := by omega
      simp [same, different]
  · have different : counted ≠ id := by omega
    refine segmentRow_eq_some.mpr ⟨positive, rows, by
      simp [updateTotalFrames, present, countedPositive], ?_⟩
    rw [if_neg different]
    exact listed

end EventDb

namespace Disk

/-- Every row of `VideoSegments` that was there is there as it was. -/
def KeepsRows (before after : Disk) : Prop :=
  ∀ file id row, (before.eventDb file).segmentRow id = some row →
    (after.eventDb file).segmentRow id = some row

theorem KeepsRows.of_eq
    {before after : Disk} (same : after.eventDbs = before.eventDbs) :
    before.KeepsRows after := by
  intro file id row found
  rw [eventDb, same]
  exact found

theorem KeepsRows.trans
    {first second third : Disk}
    (earlier : first.KeepsRows second) (later : second.KeepsRows third) :
    first.KeepsRows third :=
  fun file id row found => later file id row (earlier file id row found)

/-- Another file is not touched by a change. -/
theorem eventDb_updateEventDb
    (disk : Disk) (file other : Nat) (update : EventDb → EventDb) :
    (disk.updateEventDb file update).eventDb other =
      if file = other ∧ other < disk.eventDbs.length then
        update (disk.eventDb other)
      else disk.eventDb other := by
  simp only [eventDb, updateEventDb, List.getD_eq_getElem?_getD,
    List.getElem?_modify]
  by_cases bound : other < disk.eventDbs.length
  · by_cases same : file = other <;>
      simp [bound, same]
  · simp [bound]

/-- A database with a table is a file that there is. -/
theorem lt_of_segments
    {disk : Disk} {file : Nat}
    (present : (disk.eventDb file).videoSegments.isSome = true) :
    file < disk.eventDbs.length := by
  by_contra outside
  rw [eventDb, List.getD_eq_default _ _ (Nat.le_of_not_lt outside)] at present
  cases present

/-- A database that takes a row has its table. -/
theorem lt_of_accepts
    {disk : Disk} {file : Nat} {folder : CString}
    (accepted : (disk.eventDb file).accepts folder = true) :
    file < disk.eventDbs.length :=
  lt_of_segments (EventDb.isSome_of_accepts accepted)

/-- A row is in a database that there is. -/
theorem lt_of_segmentRow
    {disk : Disk} {file : Nat} {id : Int} {row : SegmentRow}
    (found : (disk.eventDb file).segmentRow id = some row) :
    file < disk.eventDbs.length := by
  obtain ⟨_, rows, present, _⟩ := EventDb.segmentRow_eq_some.mp found
  exact lt_of_segments (by rw [present]; rfl)

theorem KeepsRows.updateEventDb
    (disk : Disk) (file : Nat) {update : EventDb → EventDb}
    (keeps : ∀ (db : EventDb) id row, db.segmentRow id = some row →
      (update db).segmentRow id = some row) :
    disk.KeepsRows (disk.updateEventDb file update) := by
  intro other id row found
  rw [eventDb_updateEventDb]
  split
  · exact keeps _ id row found
  · exact found

/-- A database file is created empty behind the others. -/
theorem eventDb_openEventLogs
    (disk : Disk) (date : CString) (file : Nat) :
    (disk.openEventLogs date).eventDb file = disk.eventDb file := by
  rw [Disk.openEventLogs]
  split
  · rfl
  split
  · rfl
  change (disk.eventDbs ++ [({} : EventDb)]).getD file {} = _
  rw [eventDb]
  rcases Nat.lt_or_ge file disk.eventDbs.length with inside | outside
  · rw [List.getD_append _ _ _ _ inside]
  · rw [List.getD_append_right _ _ _ _ outside,
      List.getD_eq_default _ _ outside]
    cases file - disk.eventDbs.length with
    | zero => rfl
    | succ place => rfl

theorem KeepsRows.openEventLogs (disk : Disk) (date : CString) :
    disk.KeepsRows (disk.openEventLogs date) := by
  intro file id row found
  rw [eventDb_openEventLogs]
  exact found

end Disk

/-- A finished folder stays finished as long as its row is kept. -/
theorem FolderLog.Finished.of_keepsRows
    {before after : Disk} {log : FolderLog}
    (finished : log.Finished before) (keeps : before.KeepsRows after) :
    log.Finished after := by
  refine { finished with totalFrames := ?_ }
  have counted := finished.totalFrames
  simp only [FolderAccount.totalFrames, Option.bind_eq_some_iff,
    Option.map_eq_some_iff] at counted ⊢
  obtain ⟨file, opened, row, found, total⟩ := counted
  exact ⟨file, opened, row, keeps file _ row found, total⟩

end MotionSense
