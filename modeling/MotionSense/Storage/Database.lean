import MotionSense.Storage.Files

/-!
# The two databases of the writer

`storage_db.c`: `VideoMetadata.db`, with one row for each recorded day, and the
`EventLogs.db` of the day, with one row for each segment and each motion mark;
and the retention steps that work on `VideoMetadata`.  A statement takes effect
as a whole or not at all.
-/

namespace MotionSense

/-! ## Statements on `VideoMetadata` -/

namespace MetaRow

/-- `INSERT OR IGNORE`. -/
def insertOrIgnore (row : MetaRow) (rows : List MetaRow) : List MetaRow :=
  if rows.any fun other => other.date = row.date then rows else rows ++ [row]

/-- `INSERT … ON CONFLICT(date) DO UPDATE SET motion_count`. -/
def upsertMotionCount (date : CString) (count : Int) (rows : List MetaRow) :
    List MetaRow :=
  if rows.any fun row => row.date = date then
    rows.map fun row =>
      if row.date = date then { row with motionCount := count } else row
  else rows ++ [{ date, motionCount := count }]

/-- `SELECT date … WHERE date != ? AND state = ? ORDER BY date LIMIT 1`. -/
def oldestCandidate (today : CString) (rows : List MetaRow) :
    Option CString :=
  ((rows.filter fun row =>
    row.date ≠ today && row.state = .active).map MetaRow.date).min?

/-- `UPDATE … SET state=? WHERE date=? AND state=?`. -/
def schedule (date : CString) (rows : List MetaRow) : List MetaRow :=
  rows.map fun row =>
    if row.date = date ∧ row.state = .active then
      { row with state := .pending }
    else row

/-- The number of rows that the same statement changes. -/
def scheduled (date : CString) (rows : List MetaRow) : Nat :=
  (rows.filter fun row => row.date = date && row.state = .active).length

/-- `SELECT date … WHERE state=? LIMIT 1`, in rowid order. -/
def firstPending (rows : List MetaRow) : Option CString :=
  (rows.find? fun row => row.state = .pending).map MetaRow.date

/-- `DELETE … WHERE date=?`. -/
def delete (date : CString) (rows : List MetaRow) : List MetaRow :=
  rows.filter fun row => row.date ≠ date

end MetaRow

/-- Change the rows of `VideoMetadata`. -/
def Disk.updateMeta
    (disk : Disk) (update : List MetaRow → List MetaRow) : Disk :=
  { disk with videoMetadata := disk.videoMetadata.map update }

/-- The row of a day is in state `VM_STATE_PENDING`. -/
def Disk.isPending (disk : Disk) (date : CString) : Bool :=
  disk.metaRows.any fun row => row.date = date && row.state = .pending

/-- A day has a row in `VideoMetadata`. -/
def Disk.hasRow (disk : Disk) (date : CString) : Prop :=
  ∃ row ∈ disk.metaRows, row.date = date

instance (disk : Disk) (date : CString) : Decidable (disk.hasRow date) :=
  inferInstanceAs (Decidable (∃ row ∈ disk.metaRows, row.date = date))

/-- A statement on `VideoMetadata` can be prepared. -/
def State.metaReady (state : State) : Bool :=
  state.ws.metaDb && state.disk.videoMetadata.isSome

namespace Storage

/-- `meta_db_init`. -/
def metaDbInit : Storage Int := do
  let opened ← call .openDb fun state => state.disk.dcim
  setWs fun ws => { ws with metaDb := opened.ok }
  if !opened.ok then return -1
  let created ← call .sql fun _ => true
  if !created.ok then return -1
  setDisk fun disk =>
    { disk with videoMetadata := some disk.metaRows }
  return 0

/-- The statement of `meta_db_ensure_day`. -/
def insertDay : Storage Unit := do
  let state ← Program.current
  if !state.ws.metaDb then return ()
  let inserted ← call .sql State.metaReady
  if !inserted.ok then return ()
  setDisk fun disk => disk.updateMeta
    (MetaRow.insertOrIgnore { date := state.ws.date, motionCount := 0 })
  log (.listed state.ws.date)

/-- `meta_db_ensure_day`. -/
def metaDbEnsureDay : Storage Unit := do
  log .ensureDay
  insertDay

/-- `meta_db_upsert_motion_count`. -/
def metaDbUpsertMotionCount (count : Int) : Storage Unit := do
  let state ← Program.current
  if !state.ws.metaDb then return ()
  let upserted ← call .sql State.metaReady
  if !upserted.ok then return ()
  setDisk fun disk =>
    disk.updateMeta (MetaRow.upsertMotionCount state.ws.date count)
  log (.listed state.ws.date)

/-- `meta_db_oldest_retention_candidate`, with its result in place of the
out-parameter. -/
def metaDbOldestRetentionCandidate (today : CString) :
    Storage (Option CString) := do
  let state ← Program.current
  if !state.ws.metaDb then return none
  let selected ← call .sql State.metaReady
  if !selected.ok then return none
  let state ← Program.current
  return MetaRow.oldestCandidate today state.disk.metaRows

/-! ## Statements on `EventLogs.db` -/

end Storage

/-- A statement on a table of the open `EventLogs.db` can be prepared. -/
def State.eventReady (state : State) (table : EventDb → Bool) : Bool :=
  match state.ws.eventDb with
  | none => false
  | some file => table (state.disk.eventDb file)

/-- Open the database file of a day, creating it when it is missing. -/
def Disk.openEventLogs (disk : Disk) (date : CString) : Disk :=
  match disk.day date with
  | none => disk
  | some day =>
      match day.eventLogs with
      | some _ => disk
      | none =>
          { disk.setDay date
              { day with eventLogs := some disk.eventDbs.length } with
            eventDbs := disk.eventDbs ++ [{}] }

namespace EventDb

/-- `CREATE TABLE IF NOT EXISTS VideoSegments`. -/
def createSegments (db : EventDb) : EventDb :=
  { db with videoSegments := some (db.videoSegments.getD []) }

/-- `CREATE TABLE IF NOT EXISTS EventDetails`. -/
def createDetails (db : EventDb) : EventDb :=
  { db with eventDetails := some (db.eventDetails.getD []) }

/-- The id that the next row of `VideoSegments` gets. -/
def nextSegmentId (db : EventDb) : Int :=
  ((db.videoSegments.getD []).length : Int) + 1

/-- A folder can be inserted, its name being unique. -/
def accepts (folder : CString) (db : EventDb) : Bool :=
  match db.videoSegments with
  | none => false
  | some rows => !rows.any fun row => row.folder = folder

/-- `INSERT INTO VideoSegments`. -/
def insertSegment (folder startTime : CString) (db : EventDb) : EventDb :=
  { db with
    videoSegments := db.videoSegments.map fun rows =>
      rows ++ [{ folder, startTime }] }

/-- `INSERT INTO EventDetails`. -/
def insertDetail (videoId motionFrame : Int) (db : EventDb) : EventDb :=
  { db with
    eventDetails := db.eventDetails.map fun rows =>
      rows ++ [{ videoId, motionFrame }] }

/-- `UPDATE VideoSegments SET total_frames=? WHERE id=?`. -/
def updateTotalFrames (id totalFrames : Int) (db : EventDb) : EventDb :=
  { db with
    videoSegments := db.videoSegments.map fun rows =>
      if 0 < id then
        rows.modify (id.toNat - 1) fun row => { row with totalFrames }
      else rows }

end EventDb

namespace Storage

/-- Change the open `EventLogs.db`. -/
def updateEventDb (update : EventDb → EventDb) : Storage Unit := do
  let state ← Program.current
  match state.ws.eventDb with
  | none => return ()
  | some file => setDisk fun disk => disk.updateEventDb file update

/-- `event_db_close`. -/
def eventDbClose : Storage Unit :=
  setWs fun ws => { ws with eventDb := none }

/-- `db_exec` of one of the statements of `event_db_open`, which closes the
database when it fails. -/
def eventDbExec (update : EventDb → EventDb) : Storage Int := do
  let executed ← call .sql fun state => state.ws.eventDb.isSome
  if !executed.ok then
    eventDbClose
    return -1
  updateEventDb update
  return 0

/-- `event_db_open`.  The index it creates last is left out, its outcome is
not. -/
def eventDbOpen : Storage Int := do
  let state ← Program.current
  let date := state.ws.dateDir
  let opened ← call .openDb fun state => (state.disk.day date).isSome
  if !opened.ok then
    eventDbClose
    return -1
  setDisk fun disk => disk.openEventLogs date
  let state ← Program.current
  setWs fun ws => { ws with eventDb := state.disk.eventLogs date }
  let segments ← eventDbExec EventDb.createSegments
  if segments ≠ 0 then return -1
  let details ← eventDbExec EventDb.createDetails
  if details ≠ 0 then return -1
  eventDbExec id

/-- `event_db_add_segment`. -/
def eventDbAddSegment : Storage Int := do
  let state ← Program.current
  if state.ws.eventDb.isNone then return -1
  let folder := (zeroPadded 5 state.ws.interruptIdx).take 7
  let time ← Program.answer
  let clock ← Program.answer
  let inserted ← call .sql fun state =>
    state.eventReady (EventDb.accepts folder)
  if !inserted.ok then return -1
  let state ← Program.current
  updateEventDb (EventDb.insertSegment folder (time.tm.startTime clock.usec))
  log (.stamped time.reading clock.reading)
  match state.ws.eventDb with
  | none => return -1
  | some file => return (state.disk.eventDb file).nextSegmentId

/-- `event_db_add_motion`. -/
def eventDbAddMotion (videoId motionFrame : Int) : Storage Unit := do
  let state ← Program.current
  if state.ws.eventDb.isNone || videoId < 0 then return ()
  let inserted ← call .sql fun state =>
    state.eventReady fun db => db.eventDetails.isSome
  if !inserted.ok then return ()
  updateEventDb (EventDb.insertDetail videoId motionFrame)

/-- `event_db_update_total_frames`. -/
def eventDbUpdateTotalFrames : Storage Unit := do
  let state ← Program.current
  if state.ws.eventDb.isNone || state.ws.currentSegmentId < 0 then return ()
  let updated ← call .sql fun state =>
    state.eventReady fun db => db.videoSegments.isSome
  if !updated.ok then return ()
  updateEventDb (EventDb.updateTotalFrames state.ws.currentSegmentId
    state.ws.frameCount)
  log .refreshed

/-! ## Retention -/

/-- `retention_schedule_delete`. -/
def retentionScheduleDelete (date : CString) : Storage Int := do
  let updated ← call .sql State.metaReady
  if !updated.ok then return -1
  let state ← Program.current
  setDisk fun disk => disk.updateMeta (MetaRow.schedule date)
  return if 0 < MetaRow.scheduled date state.disk.metaRows then 1 else 0

/-- `retention_process_tasks`. -/
def retentionProcessTasks : Nat → Storage Unit
  | 0 => return ()
  | budget + 1 => do
      let selected ← call .sql State.metaReady
      if !selected.ok then return ()
      let state ← Program.current
      match MetaRow.firstPending state.disk.metaRows with
      | none => return ()
      | some date =>
          if date = [] then return ()
          let result ← removePathTree date
          if result ≠ 0 then return ()
          let deleted ← call .sql State.metaReady
          if !deleted.ok then return ()
          setDisk fun disk => disk.updateMeta (MetaRow.delete date)
          log (.rowDeleted date)
          retentionProcessTasks budget

end Storage
end MotionSense
