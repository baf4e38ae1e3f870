import MotionSense.Agent.Layout

/-!
# What the agent answers about recordings

`database.go`, `metadata.go` and `eventlogs.go` of package `database`, and the
two handlers of `api.go` that use them.  A request looks at the card several
times while the writer goes on, and each look finds the card of its own moment:
a query is one read transaction.  Texts that differ only in how Go marshals an
empty slice are not told apart.
-/

namespace MotionSense

namespace Agent

/-- What a look finds: the card at that moment, and whether the call that looks
gets through. -/
structure Glance where
  disk : Disk
  ok : Bool := true

/-- `database.Storage` with what was found so far, newest first. -/
structure AgentState where
  /-- `s.db` is not `nil`. -/
  connected : Bool := false
  seen : List Glance := []

/-- Programs that answer a request. -/
abbrev Request := Program Glance AgentState

/-- Look at the card. -/
def look : Request Glance := do
  let glance ← Program.answer
  Program.modify fun agent => { agent with seen := glance :: agent.seen }
  return glance

@[simp] theorem wp_look
    (post : Glance → AgentState → Prop) (stopped : AgentState → Prop)
    (agent : AgentState) :
    look.wp post stopped agent ↔
      stopped agent ∧ ∀ glance,
        post glance { agent with seen := glance :: agent.seen } := Iff.rfl

/-! ## VideoMetadata -/

/-- `DayMetadata`. -/
structure DayMetadata where
  date : CString
  motionCount : Int
  state : Int
  deriving DecidableEq

/-- The value of a `VM_STATE_*` constant. -/
def vmStateCode : VmState → Int
  | .active => 0
  | .pending => 1

/-- `rows.Scan` of a row of `VideoMetadata`. -/
def DayMetadata.scan (row : MetaRow) : DayMetadata :=
  ⟨row.date, row.motionCount, vmStateCode row.state⟩

/-- `ORDER BY date DESC`. -/
abbrev DayMetadata.newestFirst (first second : DayMetadata) : Prop :=
  second.date ≤ first.date

/-- `conn`.  With `mode=ro`, `Ping` fails on a missing file. -/
def conn : Request Bool := do
  let agent ← Program.current
  if agent.connected then return true
  let ping ← look
  if !ping.ok then return false
  Program.modify fun agent => { agent with connected := true }
  return true

/-- `absent`: `Stat` reports that the database does not exist, so it has no
table either. -/
def absent : Request Bool := do
  let stat ← look
  return !stat.ok && stat.disk.videoMetadata.isNone

/-- `ListDays`. -/
def listDays : Request (Option (List DayMetadata)) := do
  let connected ← conn
  if !connected then
    let missing ← absent
    if missing then return some []
    return none
  let query ← look
  if !query.ok then return none
  match query.disk.videoMetadata with
  | none => return none
  | some rows =>
      return some ((rows.map DayMetadata.scan).insertionSort
        DayMetadata.newestFirst)

/-! ## EventLogs -/

/-- The errors of `openDay` and the queries behind it. -/
inductive DayError
  | invalidPath
  /-- `ErrNoRecordings`. -/
  | noRecordings
  | failed
  deriving DecidableEq

/-- `Segment`. -/
structure Segment where
  id : Int
  folder : CString
  startTime : CString
  totalFrames : Int
  deriving DecidableEq

/-- `EventDetail`, less its own id. -/
structure EventDetail where
  videoId : Int
  motionFrame : Int
  deriving DecidableEq

/-- `openDay`.  Every error of `Stat` counts as a missing file, and the database
is opened by the first query. -/
def openDay (date : CString) : Request (Except DayError CString) := do
  match eventLogsDbPath date with
  | none => return .error .invalidPath
  | some day =>
      let stat ← look
      if !stat.ok || (stat.disk.eventLogs day).isNone then
        return .error .noRecordings
      return .ok day

/-- A table of a day's database. -/
def dayTable (disk : Disk) (day : CString) (table : EventDb → Option (List α)) :
    Option (List α) :=
  (disk.eventLogs day).bind fun file => table (disk.eventDb file)

/-- A query on one table of a day's `EventLogs.db`. -/
def queryDay (day : CString) (table : EventDb → Option (List α)) :
    Request (Except DayError (List α)) := do
  let query ← look
  if !query.ok then return .error .failed
  match dayTable query.disk day table with
  | none => return .error .failed
  | some rows => return .ok rows

/-- `rows.Scan` of the rows of `VideoSegments`, the first of which has the
id. -/
def Segment.scan : Int → List SegmentRow → List Segment
  | _, [] => []
  | id, row :: rows =>
      ⟨id, row.folder, row.startTime, row.totalFrames⟩ :: scan (id + 1) rows

/-- `SegmentsForDay`. -/
def segmentsForDay (date : CString) :
    Request (Except DayError (List Segment)) := do
  let opened ← openDay date
  match opened with
  | .error error => return .error error
  | .ok day =>
      let rows ← queryDay day EventDb.videoSegments
      return rows.map fun rows => (Segment.scan 1 rows).insertionSort
        fun first second => first.startTime ≤ second.startTime

/-- `EventsOfDay`. -/
def eventsOfDay (date : CString) :
    Request (Except DayError (List EventDetail)) := do
  let opened ← openDay date
  match opened with
  | .error error => return .error error
  | .ok day =>
      let rows ← queryDay day EventDb.eventDetails
      return rows.map fun rows =>
        (rows.map fun row => ⟨row.videoId, row.motionFrame⟩).insertionSort
          fun first second => first.videoId ≤ second.videoId

/-! ## Handlers -/

/-- An answer over HTTP. -/
inductive Response (α : Type)
  | error (message : String) (code : Nat)
  | okay (body : α)

/-- The answer is no error, and its body has a property. -/
def Response.Shows (body : α → Prop) : Response α → Prop
  | .error _ _ => False
  | .okay shown => body shown

instance (body : α → Prop) [DecidablePred body] :
    (response : Response α) → Decidable (response.Shows body)
  | .error _ _ => inferInstanceAs (Decidable False)
  | .okay shown => inferInstanceAs (Decidable (body shown))

/-- `SegmentResponse`.  The duration is in the milliseconds of the playlist
entries, and `LastWrite` is never set. -/
structure SegmentResponse where
  segment : CString
  startTime : CString
  totalFrames : Int
  playlistUrl : CString
  motionFrames : List Int
  durationMs : Int
  deriving DecidableEq

/-- `DayRecordingResponse`. -/
structure DayRecordingResponse where
  date : CString
  segments : List SegmentResponse
  deriving DecidableEq

/-- `playlistDuration`. -/
def playlistDuration (date segment : CString) : Request Int := do
  match mediaFilePath date segment indexName with
  | none => return 0
  | some (dir, file) =>
      let opened ← look
      if !opened.ok then return 0
      match (opened.disk.folder dir.date dir.name).bind
          fun folder => folder file with
      | some (.playlist entries) =>
          return (entries.map PlaylistEntry.duration).sum
      | _ => return 0

/-- An element of `response.Segments`. -/
def segmentResponse
    (date : CString) (events : List EventDetail) (segment : Segment) :
    Request SegmentResponse := do
  let durationMs ← playlistDuration date segment.folder
  return {
    segment := segment.folder
    startTime := segment.startTime
    totalFrames := segment.totalFrames
    playlistUrl := "/media/".toList ++ date ++ '/' :: segment.folder ++
      "/index.m3u8".toList
    motionFrames := (events.filter fun event =>
      event.videoId = segment.id).map EventDetail.motionFrame
    durationMs }

/-- The loop that fills `response.Segments`. -/
def segmentResponses (date : CString) (events : List EventDetail) :
    List Segment → Request (List SegmentResponse)
  | [] => return []
  | segment :: segments => do
      let first ← segmentResponse date events segment
      let rest ← segmentResponses date events segments
      return first :: rest

/-- An empty day for a day that never recorded. -/
def noRecordingsAsEmpty (found : Except DayError (List α)) :
    Except DayError (List α) :=
  match found with
  | .error .noRecordings => .ok []
  | _ => found

/-- `recordingDayHandler`. -/
def recordingDayHandler (date : CString) :
    Request (Response DayRecordingResponse) := do
  if !validDate date then return .error "Invalid date" 400
  let segments ← segmentsForDay date
  match noRecordingsAsEmpty segments with
  | .error _ => return .error "Get Segments failed" 500
  | .ok segments =>
      let events ← eventsOfDay date
      match noRecordingsAsEmpty events with
      | .error _ => return .error "Get Events failed" 500
      | .ok events =>
          let responses ← segmentResponses date events segments
          return .okay { date, segments := responses }

/-- `recordingsCalendarHandler`. -/
def recordingsCalendarHandler : Request (Response (List DayMetadata)) := do
  let days ← listDays
  match days with
  | none => return .error "failed to list recording days" 500
  | some days => return .okay days

end Agent
end MotionSense
