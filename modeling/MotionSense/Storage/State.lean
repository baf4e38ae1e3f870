import MotionSense.Foundations.Daemon
import MotionSense.Storage.Disk

/-!
# The writer thread and its environment

`writer_state_t` of `storage_internal.h`, the muxer it owns, the answers that
calls get from the kernel, from SQLite and from the other threads, and a record
of what the writer has done.  The record is there for the statements about runs;
no function of the writer reads it.
-/

namespace MotionSense

/-- The fields of `ms_config_t` that the writer and the capture thread read. -/
structure Config where
  fpsLow : Int := 1
  fpsHigh : Int := 30
  motionDebounceMs : Int := 1000
  hlsDurationS : Int := 0
  diskFreeMinMb : Nat := 2048
  cleanupEveryTs : Int := 20
  /-- `HLS_DURATION` of libhls. -/
  hlsDuration : Int := 10000
  deriving DecidableEq

/-- `PTS_NO_VALUE` of libhls. -/
def ptsNoValue : Int := -2 ^ 63

/-- `struct hls_media_t`.  The segment under way is the frames in its buffer and
the number of bytes they fill. -/
structure HlsMedia where
  frames : List FqFrame := []
  bytes : Nat := 0
  maxsize : Nat := 100 * 1024 * 1024
  duration : Int
  dtsLast : Int := ptsNoValue
  dts : Int := ptsNoValue
  pts : Int := ptsNoValue
  audioOnlyFlag : Bool := false
  deriving DecidableEq

/-- A segment folder: its day and its name. -/
structure SegmentDir where
  date : CString := []
  name : CString := []
  deriving DecidableEq

/-- A directory that `ensure_dir` is called on. -/
inductive Dir
  | dcim
  | day (date : CString)
  | segment (dir : SegmentDir)
  deriving DecidableEq

/-- `writer_state_t`.  A handle on an `EventLogs.db` is the file it was opened
on; the in-memory playlist is the entries added to it. -/
structure WriterState where
  date : CString := []
  dayOfYear : Nat := 0
  interruptIdx : Nat := 0
  dateDir : CString := []
  segmentDir : SegmentDir := {}
  hls : Option HlsMedia := none
  m3u : Option (List PlaylistEntry) := none
  tsIdx : Nat := 0
  tsSinceCleanup : Int := 0
  ptsMs : Int := 0
  metaDb : Bool := false
  eventDb : Option Nat := none
  currentSegmentId : Int := 0
  frameCount : Nat := 0
  motionCount : Int := 0
  lastFps : Int := 0
  lastMotionMs : Int := 0
  seenKeyframe : Bool := false
  deriving DecidableEq

/-- How one call turns out: whether it succeeds, and what it returns. -/
structure Choice where
  ok : Bool := true
  /-- `localtime_r` of the current time. -/
  tm : Tm := {}
  /-- `tv_usec` of `gettimeofday`. -/
  usec : Nat := 0
  /-- `CLOCK_MONOTONIC` in milliseconds. -/
  nowMs : Int := 0
  /-- Free space in megabytes. -/
  freeMb : Nat := 0
  /-- `ctx->current_fps`. -/
  currentFps : Int := 0
  /-- Subdirectories seen by a failing `readdir` loop. -/
  seen : Nat := 0
  /-- Transport stream packets written. -/
  packets : Nat := 0
  /-- What a removal has removed so far. -/
  removal : Removal := {}

/-- What a reading of the wall clock finds. -/
structure Reading where
  tm : Tm := {}
  usec : Nat := 0
  deriving DecidableEq

/-- The wall clock at a call. -/
def Choice.reading (choice : Choice) : Reading := ⟨choice.tm, choice.usec⟩

/-- The kinds of calls that can fail. -/
inductive Call
  | mkdir
  | opendir
  | openDb
  | sql
  | alloc
  | writeFile
  | rename
  | fsyncDir
  | lstat
  | remove
  | statvfs
  deriving DecidableEq

/-- What the writer does. -/
inductive Event
  | started
  | called (call : Call) (succeeded : Bool)
  /-- `open_today` begins. -/
  | opening
  /-- `ensure_dir` has made a directory. -/
  | made (dir : Dir)
  /-- `open_today` has chosen the folder of the new segment. -/
  | placed
  /-- `open_today` returns. -/
  | opened (result : Int)
  /-- `meta_db_ensure_day` is called. -/
  | ensureDay
  /-- A statement has seen to it that a day has a row in `VideoMetadata`. -/
  | listed (date : CString)
  /-- `event_db_add_segment` has inserted a row, with the time of one reading of
  the clock and the microseconds of a second one. -/
  | stamped (time clock : Reading)
  /-- `hls_cb` is given the buffered frames. -/
  | cut (frames : List FqFrame)
  /-- A file of the segment folder has been replaced. -/
  | renamed (name : CString) (data : FileData)
  /-- `hls_cb` returns. -/
  | cutDone (result : Int)
  /-- `hls_media_input` has added a frame to the segment under way. -/
  | appended (frame : FqFrame)
  /-- `ingest_frame` has read the date and the day of the year. -/
  | ingest (date : CString) (yday : Nat)
  /-- A frame reaches the keyframe gate. -/
  | gate (isKey : Bool)
  | discarded (frame : FqFrame)
  /-- `ingest_frame` calls `hls_media_input`. -/
  | fed (frame : FqFrame)
  /-- The folder's muxer has been flushed and destroyed. -/
  | flushed
  /-- `ingest_frame` has compared `current_fps` with `fps_high`. -/
  | judged (inMotion : Bool)
  /-- `ingest_frame` comes to the ratio of the rates in its motion branch. -/
  | motion
  /-- A division or a remainder is about to be computed. -/
  | divides (divisor : Int)
  /-- A motion mark is about to be recorded. -/
  | mark
  /-- The motion count has been written. -/
  | counted
  /-- `total_frames` of the current segment has been written. -/
  | refreshed
  /-- `check_and_cleanup` returns at its first test. -/
  | notDue
  /-- `check_and_cleanup` goes beyond its first test. -/
  | cleaning
  /-- `check_and_cleanup` is about to schedule a day, having found so much free
  space. -/
  | scheduling (date : CString) (freeMb : Nat)
  /-- `remove_path_tree` is called on a day's directory. -/
  | removing (date : CString)
  /-- `remove_path_tree` returns. -/
  | removed (date : CString) (result : Int)
  /-- The row of a day has been deleted. -/
  | rowDeleted (date : CString)
  deriving DecidableEq

/-- An event with the writer and the card at that moment. -/
structure Moment where
  event : Event
  ws : WriterState
  disk : Disk

/-- The writer, the card, and what has happened, newest first. -/
structure State where
  ws : WriterState := {}
  /-- `last_dts`, the static variable of `hls_cb`. -/
  lastDts : Int := -1
  disk : Disk := {}
  trace : List Moment := []

/-- Programs of the writer. -/
abbrev Storage := Program Choice State

namespace State

def updateWs (state : State) (update : WriterState → WriterState) : State :=
  { state with ws := update state.ws }

def updateDisk (state : State) (update : Disk → Disk) : State :=
  { state with disk := update state.disk }

/-- Record an event. -/
def log (state : State) (event : Event) : State :=
  { state with trace := ⟨event, state.ws, state.disk⟩ :: state.trace }

@[simp] theorem ws_updateWs
    (state : State) (update : WriterState → WriterState) :
    (state.updateWs update).ws = update state.ws := rfl

@[simp] theorem disk_updateWs
    (state : State) (update : WriterState → WriterState) :
    (state.updateWs update).disk = state.disk := rfl

@[simp] theorem trace_updateWs
    (state : State) (update : WriterState → WriterState) :
    (state.updateWs update).trace = state.trace := rfl

@[simp] theorem ws_updateDisk (state : State) (update : Disk → Disk) :
    (state.updateDisk update).ws = state.ws := rfl

@[simp] theorem disk_updateDisk (state : State) (update : Disk → Disk) :
    (state.updateDisk update).disk = update state.disk := rfl

@[simp] theorem trace_updateDisk (state : State) (update : Disk → Disk) :
    (state.updateDisk update).trace = state.trace := rfl

@[simp] theorem ws_log (state : State) (event : Event) :
    (state.log event).ws = state.ws := rfl

@[simp] theorem disk_log (state : State) (event : Event) :
    (state.log event).disk = state.disk := rfl

@[simp] theorem trace_log (state : State) (event : Event) :
    (state.log event).trace =
      ⟨event, state.ws, state.disk⟩ :: state.trace := rfl

end State

namespace Storage

/-- Write fields of `ws`. -/
def setWs (update : WriterState → WriterState) : Storage Unit :=
  Program.modify fun state => state.updateWs update

/-- Change the card. -/
def setDisk (update : Disk → Disk) : Storage Unit :=
  Program.modify fun state => state.updateDisk update

/-- Record an event. -/
def log (event : Event) : Storage Unit :=
  Program.modify fun state => state.log event

/-- Make a call that can fail, and record how it turned out.  It fails in a
state that does not allow it. -/
def call (kind : Call) (possible : State → Bool) : Storage Choice := do
  let choice ← Program.answer
  let state ← Program.current
  let choice := { choice with ok := choice.ok && possible state }
  log (.called kind choice.ok)
  return choice

@[simp] theorem wp_setWs
    (update : WriterState → WriterState)
    (post : Unit → State → Prop) (stopped : State → Prop) (state : State) :
    (setWs update).wp post stopped state =
      post () (state.updateWs update) := rfl

@[simp] theorem wp_setDisk
    (update : Disk → Disk)
    (post : Unit → State → Prop) (stopped : State → Prop) (state : State) :
    (setDisk update).wp post stopped state =
      post () (state.updateDisk update) := rfl

@[simp] theorem wp_log
    (event : Event)
    (post : Unit → State → Prop) (stopped : State → Prop) (state : State) :
    (log event).wp post stopped state = post () (state.log event) := rfl

@[simp] theorem relabel_setWs
    (through : Choice → Choice) (update : WriterState → WriterState) :
    (setWs update).relabel through = setWs update := rfl

@[simp] theorem relabel_log (through : Choice → Choice) (event : Event) :
    (log event).relabel through = log event := rfl

/-- A call may stop the writer; otherwise it is recorded, and has succeeded only
where it is possible. -/
@[simp] theorem wp_call
    (kind : Call) (possible : State → Bool)
    (post : Choice → State → Prop) (stopped : State → Prop) (state : State) :
    (call kind possible).wp post stopped state ↔
      stopped state ∧ ∀ choice : Choice,
        (choice.ok = true → possible state = true) →
          post choice (state.log (.called kind choice.ok)) := by
  simp only [call, Program.wp_bind, Program.wp_answer, Program.wp_current,
    Program.wp_pure, wp_log]
  refine and_congr_right fun _ => ⟨fun every choice allowed => ?_,
    fun every choice => ?_⟩
  · have same : (choice.ok && possible state) = choice.ok := by
      cases ok : choice.ok with
      | false => rfl
      | true => exact allowed ok
    have given := every choice
    rw [same] at given
    exact given
  · exact every { choice with ok := choice.ok && possible state }
      fun ok => (Bool.and_eq_true_iff.mp ok).2

end Storage
end MotionSense
