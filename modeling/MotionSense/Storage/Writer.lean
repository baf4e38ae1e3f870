import MotionSense.Storage.Hls

/-!
# The writer thread

Opening a day, rolling over to the next one, cleaning up, ingesting a frame, and
the thread as a daemon: `storage_init` boots it, every frame popped from the
queue is a request, and `fq_close` stops it.
-/

namespace MotionSense

variable (config : Config)

namespace Storage

/-- The part of `open_today` that reads the date and makes the directories. -/
def openFolder : Storage Int := do
  let (date, yday) ← todayString
  setWs fun ws => { ws with date, dayOfYear := yday, dateDir := date }
  let _ ← ensureDir .dcim
  let _ ← ensureDir (.day date)
  let subdirs ← countSubdirs date
  let dir : SegmentDir := { date, name := zeroPadded 5 subdirs }
  setWs fun ws => { ws with interruptIdx := subdirs, segmentDir := dir }
  log .placed
  ensureDir (.segment dir)

/-- The part of `open_today` that resets the counters of a segment. -/
def resetSegment : Storage Unit :=
  setWs fun ws =>
    { ws with
      frameCount := 0
      motionCount := 0
      lastFps := config.fpsLow
      ptsMs := 0
      seenKeyframe := false }

/-- The part of `open_today` behind the making of the directories. -/
def openSegment : Storage Int := do
  let db ← eventDbOpen
  if db ≠ 0 then return -1
  let id ← eventDbAddSegment
  setWs fun ws => { ws with currentSegmentId := id }
  if id < 0 then
    eventDbClose
    return -1
  resetSegment config
  let hls ← hlsCreate config
  if hls ≠ 0 then
    eventDbClose
    return -1
  return 0

/-- `open_today`. -/
def openToday : Storage Int := do
  log .opening
  let folder ← openFolder
  let result ← (if folder ≠ 0 then pure (-1) else openSegment config)
  log (.opened result)
  return result

/-- `rollover_day`. -/
def rolloverDay : Storage Int := do
  hlsFlushAndDestroy config
  eventDbUpdateTotalFrames
  eventDbClose
  let result ← openToday config
  (if result = 0 then metaDbEnsureDay else pure ())
  return result

/-- `check_and_cleanup`. -/
def checkAndCleanup : Storage Unit := do
  let state ← Program.current
  if state.ws.tsSinceCleanup < config.cleanupEveryTs then
    log .notDue
    return ()
  setWs fun ws => { ws with tsSinceCleanup := 0 }
  log .cleaning
  retentionProcessTasks 1
  let freeMb ← fsFreeMb
  if freeMb ≥ config.diskFreeMinMb then return ()
  let candidate ← metaDbOldestRetentionCandidate state.ws.date
  match candidate with
  | none => return ()
  | some target =>
      log (.scheduling target freeMb)
      let queued ← retentionScheduleDelete target
      if queued < 0 then return ()
      retentionProcessTasks 1

/-- The part of `ingest_frame` that notices a new day. -/
def rolloverIfNewDay : Storage Unit := do
  let (date, yday) ← todayString
  log (.ingest date yday)
  let state ← Program.current
  if yday ≠ state.ws.dayOfYear then
    let _ ← rolloverDay config

/-- The part of `ingest_frame` that holds frames back until a keyframe, and says
whether the frame passes. -/
def passesGate (frame : FqFrame) : Storage Bool := do
  log (.gate frame.isKey)
  let state ← Program.current
  if state.ws.seenKeyframe then return true
  if !frame.isKey then
    log (.discarded frame)
    return false
  setWs fun ws => { ws with seenKeyframe := true }
  return true

/-- A division or a remainder by a number, which traps on zero. -/
def divide (divisor : Int) : Storage Unit := do
  log (.divides divisor)
  if divisor = 0 then Program.halt

/-- A division by anything but zero goes on. -/
theorem wp_divide_of_ne
    {divisor : Int} (nonzero : divisor ≠ 0)
    (post : Unit → State → Prop) (stopped : State → Prop) (state : State) :
    (divide divisor).wp post stopped state =
      post () (state.log (.divides divisor)) := by
  rw [divide, Program.wp_bind, wp_log, if_neg nonzero]
  rfl

@[simp] theorem relabel_divide (through : Choice → Choice) (divisor : Int) :
    (divide divisor).relabel through = divide divisor := by
  simp only [divide, Program.relabel_bind, Program.relabel_ite, relabel_log,
    Program.relabel_halt, Program.relabel_pure]

/-- A division goes on only by anything but zero. -/
theorem wp_divide
    {divisor : Int} {post : Unit → State → Prop} {stopped : State → Prop}
    {state : State}
    (trapped : stopped (state.log (.divides divisor)))
    (goesOn : divisor ≠ 0 → post () (state.log (.divides divisor))) :
    (divide divisor).wp post stopped state := by
  rw [divide, Program.wp_bind, wp_log]
  exact Program.wp_split (fun _ => trapped) goesOn

/-- The part of `ingest_frame` that feeds the muxer.  Its result is not looked
at. -/
def feedMuxer (frame : FqFrame) : Storage Unit := do
  divide 1000
  let ptsMs := frame.ptsUs.tdiv 1000
  setWs fun ws => { ws with ptsMs }
  log (.fed frame)
  let _ ← hlsMediaInput config frame.payload ptsMs ptsMs frame.isKey
  setWs fun ws => { ws with frameCount := ws.frameCount + 1 }

/-- The part of `ingest_frame` that leaves a motion mark. -/
def recordMotion : Storage Unit := do
  let now ← nowMs
  let state ← Program.current
  if now - state.ws.lastMotionMs ≥ config.motionDebounceMs then
    setWs fun ws => { ws with motionCount := ws.motionCount + 1 }
    log .mark
    eventDbAddMotion state.ws.currentSegmentId state.ws.frameCount
    metaDbUpsertMotionCount (state.ws.motionCount + 1)
    log .counted
    setWs fun ws => { ws with lastMotionMs := now }

/-- The part of `ingest_frame` that keeps the databases up to date. -/
def recordProgress : Storage Unit := do
  let fps ← Program.answer
  setWs fun ws => { ws with lastFps := fps.currentFps }
  log (.judged (fps.currentFps = config.fpsHigh))
  if fps.currentFps = config.fpsHigh then
    recordMotion config
    log .motion
    divide config.fpsLow
    let ratio := config.fpsHigh.tdiv config.fpsLow
    divide ratio
    let state ← Program.current
    if (state.ws.frameCount : Int).tmod ratio = 0 then
      eventDbUpdateTotalFrames
  else
    eventDbUpdateTotalFrames

/-- `ingest_frame`. -/
def ingestFrame (frame : FqFrame) : Storage Unit := do
  rolloverIfNewDay config
  let passes ← passesGate frame
  if passes then
    feedMuxer config frame
    recordProgress config
    checkAndCleanup config

/-- The start of `writer_thread`, up to its handshake with `storage_init`. -/
def writerBoot : Storage Bool := do
  let opened ← openToday config
  if opened ≠ 0 then return false
  let ready ← metaDbInit
  if ready ≠ 0 then
    hlsFlushAndDestroy config
    eventDbClose
    return false
  metaDbEnsureDay
  return true

/-- The end of `writer_thread`, reached when the queue is closed and drained. -/
def writerStop : Storage Unit := do
  hlsFlushAndDestroy config
  eventDbUpdateTotalFrames
  eventDbClose

end Storage

/-- A new process: what is not on the card is gone. -/
def State.restart (state : State) : State :=
  ({ disk := state.disk, trace := state.trace } : State).log .started

/-- No writer has run yet.  The card may hold anything. -/
def State.Unused (state : State) : Prop := state.trace = []

/-- The writer thread. -/
def writer : Daemon Choice State FqFrame where
  restart := State.restart
  boot := Storage.writerBoot config
  serve := Storage.ingestFrame config
  stop := Storage.writerStop config

end MotionSense
