import MotionSense.Capture.Pipeline
import MotionSense.Storage.Marks

/-!
# Motion as the capture thread and the writer see it

`ivs_thread` announces motion in two stores: `motion_state`, which `h264_thread`
loads when it takes a frame from the sensor, and `current_fps`, which the writer
loads when it ingests a frame.  Between the two loads lie the encoder and the
queue, and nothing goes with the frame that says under which state it was kept.
-/

namespace MotionSense

/-- `CFG_FPS_LOW`, the first value of `current_fps`. -/
def cfgFpsLow : Int := 1

/-- The rate that `ivs_thread` stores for a motion state. -/
def Config.announcedFps (config : Config) : Motion → Int
  | .undetected => config.fpsLow
  | .detected => config.fpsHigh

/-- A frame of the sensor as `h264_thread` has it: the motion state that it has
loaded, and how often that had been stored by then. -/
structure Load where
  hwPts : Nat
  motion : Motion
  stores : Nat
  deriving DecidableEq

/-- A frame on which `ingest_frame` has decided whether it is in motion, or has
returned without that. -/
structure Ingested where
  frame : FqFrame
  /-- How it was kept. -/
  load : Option Load
  /-- `ingest_frame` has taken its motion branch. -/
  inMotion : Bool
  marked : Bool
  /-- The call has come to its end. -/
  returned : Bool
  /-- No answer to the call tells a time within the debounce interval. -/
  outside : Bool
  /-- The database of its segment, and the row that names it there. -/
  file : Option Nat
  row : EventRow
  deriving DecidableEq

/-- `ingest_frame` was given a frame that was kept in motion. -/
def Ingested.keptInMotion (each : Ingested) : Prop :=
  each.load.map Load.motion = some .detected

instance (each : Ingested) : Decidable each.keptInMotion :=
  inferInstanceAs (Decidable (_ = _))

/-- The three threads, the encoder and the queue between them. -/
structure Camera where
  motionState : Motion := .undetected
  currentFps : Int := cfgFpsLow
  /-- `ivs_thread` is between its two stores. -/
  storing : Option Motion := none
  /-- How often the two have been stored. -/
  stores : Nat := 0
  announcements : Nat := 0
  /-- `h264_thread` has a frame from the sensor and has loaded
  `motion_state`. -/
  loaded : Option Load := none
  pipeline : Pipeline
  /-- How the frames in the encoder were kept. -/
  encoding : List Load := []
  /-- By the address of its copy in the queue, how a frame was kept, the last one
  first. -/
  keptAs : List (Nat × Load) := []
  /-- The frame that the writer has popped. -/
  popped : Option FqFrame := none
  storage : State
  /-- The process has died in the writer, or the power was lost. -/
  halted : Bool := false
  ingested : List Ingested := []

/-- An atomic step of one of the threads; `keep` is what `h264_thread` does with
the frame once `motion_state` is loaded, and the rest of `ingest_frame` goes
with its load of `current_fps`. -/
inductive CameraEvent
  | detect (state : Motion)
  | announce
  | load (hwPts : Nat)
  | keep (packet : Option Packet)
  | pop
  | ingest (script : List Choice)

/-- What `ingest_frame` has found of the frames it came to judge. -/
def verdicts (trace : List Moment) : List Bool :=
  trace.filterMap fun moment => match moment.event with
    | .judged inMotion => some inMotion
    | _ => none

/-- The number of motion marks. -/
def marks (trace : List Moment) : Nat :=
  trace.countP fun moment => moment.event = .mark

/-- `ctx->current_fps` is what it is when it is loaded. -/
def Choice.seeing (fps : Int) (choice : Choice) : Choice :=
  { choice with currentFps := fps }

namespace Camera

variable (config : Config)

/-- Nothing has been captured and the queue is new. -/
def start (queue : FrameQueue) (storage : State) : Camera :=
  { pipeline := Pipeline.start queue, storage }

/-- How the frame in a buffer was kept. -/
def loadOf (camera : Camera) (frame : FqFrame) : Option Load :=
  frame.data.bind fun copy => camera.keptAs.lookup copy.addr

/-- `h264_thread` goes on with the frame it has; when it is kept, the oldest frame
in the encoder may come out of it. -/
def keep (camera : Camera) (load : Load) (packet : Option Packet) : Camera :=
  let kept := (camera.pipeline.timeline.step config load.hwPts load.motion).2
  let pipeline :=
    camera.pipeline.step config (.frame load.hwPts load.motion packet)
  let encoding := camera.encoding ++ (kept.map fun _ => load).toList
  if kept.isSome && packet.isSome then
    { camera with
      loaded := none
      pipeline
      encoding := encoding.tail
      keptAs :=
        (encoding.head?.map fun oldest =>
          (camera.pipeline.queue.heap.next, oldest)).toList ++ camera.keptAs }
  else { camera with loaded := none, pipeline, encoding }

/-- What becomes of the frame at hand in a call of `ingest_frame` that leads to a
state. -/
def ingestedIn
    (camera : Camera) (frame : FqFrame) (script : List Choice) (after : State)
    (returned : Bool) : Ingested where
  frame
  load := camera.loadOf frame
  inMotion := (verdicts camera.storage.trace).length <
      (verdicts after.trace).length &&
    (verdicts after.trace).head? = some true
  marked := marks camera.storage.trace < marks after.trace
  returned
  outside := script.all fun choice => config.motionDebounceMs ≤
    choice.nowMs - camera.storage.ws.lastMotionMs
  file := after.ws.eventDb
  row := ⟨after.ws.currentSegmentId, after.ws.frameCount⟩

/-- `ingest_frame` on the frame at hand.  Where it does not return, the frame
counts if it has been judged. -/
def ingestFrame (camera : Camera) (frame : FqFrame) (script : List Choice) :
    Camera :=
  let program := (Storage.ingestFrame config frame).relabel
    (Choice.seeing camera.currentFps)
  match program.run camera.storage script with
  | .done _ storage _ =>
      { camera with
        storage
        popped := none
        ingested := camera.ingestedIn config frame script storage true ::
          camera.ingested }
  | .halted storage =>
      { camera with
        storage
        halted := true
        ingested :=
          if (verdicts camera.storage.trace).length <
              (verdicts storage.trace).length then
            camera.ingestedIn config frame script storage false ::
              camera.ingested
          else camera.ingested }

/-- One step.  A thread that cannot take a step stays where it is. -/
def step (camera : Camera) : CameraEvent → Camera
  | .detect state =>
      if camera.storing.isNone ∧ state ≠ camera.motionState then
        { camera with
          motionState := state
          storing := some state
          stores := camera.stores + 1 }
      else camera
  | .announce =>
      match camera.storing with
      | none => camera
      | some state =>
          { camera with
            currentFps := config.announcedFps state
            announcements := camera.announcements + 1
            storing := none }
  | .load hwPts =>
      if camera.loaded.isNone then
        { camera with
          loaded := some ⟨hwPts, camera.motionState, camera.stores⟩ }
      else camera
  | .keep packet =>
      match camera.loaded with
      | none => camera
      | some load => camera.keep config load packet
  | .pop =>
      if camera.popped.isNone then
        let pipeline := camera.pipeline.step config .pop
        { camera with
          pipeline
          popped :=
            (pipeline.popped.drop camera.pipeline.popped.length).head? }
      else camera
  | .ingest script =>
      match camera.popped with
      | none => camera
      | some frame =>
          if camera.halted then camera
          else camera.ingestFrame config frame script

/-- Before the writer goes on with a frame: `current_fps` has been stored as often
as `motion_state` had been when `h264_thread` loaded it for this frame, or an even
number of times more or less; the rates tell the states apart; and a frame kept in
motion is a keyframe, or there was one in this folder and the day is the same. -/
def InStep (camera : Camera) : CameraEvent → Prop
  | .ingest script =>
      ∀ frame ∈ camera.popped, ∀ load ∈ camera.loadOf frame,
        load.stores % 2 = camera.announcements % 2 ∧
        config.fpsLow ≠ config.fpsHigh ∧
        (camera.announcements = 0 → cfgFpsLow ≠ config.fpsHigh) ∧
        (load.motion = .detected → frame.isKey = true ∨
          camera.storage.ws.seenKeyframe = true ∧
            ∀ now ∈ script.head?,
              now.tm.yday = camera.storage.ws.dayOfYear)
  | _ => True

instance (camera : Camera) :
    (event : CameraEvent) → Decidable (camera.InStep config event)
  | .ingest script => inferInstanceAs (Decidable (
      ∀ frame ∈ camera.popped, ∀ load ∈ camera.loadOf frame,
        load.stores % 2 = camera.announcements % 2 ∧
        config.fpsLow ≠ config.fpsHigh ∧
        (camera.announcements = 0 → cfgFpsLow ≠ config.fpsHigh) ∧
        (load.motion = .detected → frame.isKey = true ∨
          camera.storage.ws.seenKeyframe = true ∧
            ∀ now ∈ script.head?,
              now.tm.yday = camera.storage.ws.dayOfYear)))
  | .detect _ | .announce | .load _ | .keep _ | .pop => .isTrue trivial

end Camera

/-! ## One frame in the writer -/

/-- What the marks depend on: the verdicts, the marks and when the last one was
left, and the rows on the card. -/
def State.markView (state : State) :
    (List Bool × Nat × Int) × (Nat → List EventRow) :=
  ((verdicts state.trace, marks state.trace, state.ws.lastMotionMs),
    fun file => (state.disk.eventDb file).marks)

/-- Nothing that the marks depend on has changed. -/
def State.SameMarks (before after : State) : Prop :=
  after.markView = before.markView

/-- Events that no mark depends on. -/
def Event.offMarks : Event → Bool
  | .judged _ | .mark => false
  | _ => true

namespace State

theorem SameMarks.of_adds
    {before after : State} (adds : Adds Event.offMarks before after)
    (lastMotion : after.ws.lastMotionMs = before.ws.lastMotionMs)
    (rows : ∀ file, (after.disk.eventDb file).marks =
      (before.disk.eventDb file).marks) : before.SameMarks after := by
  have view : ∀ (moment : Moment) earlier,
      moment.event.offMarks = true →
        verdicts (moment :: earlier) = verdicts earlier ∧
          marks (moment :: earlier) = marks earlier := by
    rintro ⟨event, ws, disk⟩ earlier off
    cases event <;> first | exact ⟨rfl, rfl⟩ | cases off
  have listed : verdicts after.trace = verdicts before.trace :=
    adds.view fun moment earlier off => (view moment earlier off).1
  have counted : marks after.trace = marks before.trace :=
    adds.view fun moment earlier off => (view moment earlier off).2
  rw [SameMarks, markView, listed, counted, lastMotion, funext rows]
  rfl

theorem SameMarks.log
    {state : State} {event : Event} (off : event.offMarks = true) :
    state.SameMarks (state.log event) :=
  .of_adds (.log off) rfl fun _ => rfl

theorem SameMarks.of_eq
    {before after : State} (quiet : after.trace = before.trace)
    (lastMotion : after.ws.lastMotionMs = before.ws.lastMotionMs)
    (rows : after.disk.eventDbs = before.disk.eventDbs) :
    before.SameMarks after :=
  .of_adds (.inl quiet) lastMotion (Disk.KeepsMarks.of_eq rows).marks

theorem sameMarks_hlsStep
    (before after : State) (step : HlsStep before after) :
    before.SameMarks after := by
  have adds := adds_hlsStep _ _ step
  refine .of_adds (adds.mono fun event listed => ?_) ?_
    (keepsTotals_hlsStep _ _ step).1.disk.marks
  · cases event <;> first | rfl | cases listed
  · cases step <;> rfl

theorem sameMarks_totalStep
    (before after : State) (step : TotalStep before after) :
    before.SameMarks after := by
  cases step with
  | called kind succeeded => exact .log rfl
  | update file opened =>
      exact .of_adds (.inr ⟨.refreshed, rfl, rfl⟩) rfl
        fun _ => Disk.marks_updateTotalFrames _ _ _ _ _

theorem sameMarks_dbStep
    (before after : State) (step : DbStep before after) :
    before.SameMarks after := by
  refine .of_adds ((adds_dbStep _ _ step).mono fun event listed => ?_) ?_
    (keepsTotals_dbStep _ _ step).disk.marks
  · cases event <;> first | rfl | cases listed
  · cases step with
    | statement step => cases step <;> rfl
    | _ => rfl

theorem sameMarks_dayStep
    (before after : State) (step : DayStep before after) :
    before.SameMarks after := by
  cases step with
  | folder step =>
      refine .of_adds ?_ ?_ (keepsTotals_folderStep _ _ step).disk.marks
      · cases step <;> first | exact .inl rfl | exact .log rfl
      · cases step <;> rfl
  | segment step =>
      cases step with
      | db step => exact sameMarks_dbStep _ _ step
      | _ => exact .of_eq rfl rfl rfl
  | flush step =>
      cases step with
      | hls step => exact sameMarks_hlsStep _ _ step
      | _ => exact .of_eq rfl rfl rfl
  | total step => exact sameMarks_totalStep _ _ step
  | _ => exact .log rfl

theorem sameMarks_retentionStep
    (before after : State) (step : RetentionStep before after) :
    before.SameMarks after := by
  cases step with
  | removePart date removal =>
      exact .of_eq rfl rfl (eventDbs_removePart _ _ _)
  | removeDay | delete | schedule => exact .of_eq rfl rfl rfl
  | reset => exact .of_adds (.inr ⟨_, rfl, rfl⟩) rfl fun _ => rfl
  | _ => exact .log rfl

/-- The names of the current segment and of its last frame. -/
def naming (state : State) : Option Nat × EventRow :=
  (state.ws.eventDb, ⟨state.ws.currentSegmentId, state.ws.frameCount⟩)

/-- A mark may have been left on the frame counted last; nothing was judged. -/
structure MayMark (before after : State) : Prop where
  verdicts : verdicts after.trace = verdicts before.trace
  marks : marks before.trace ≤ marks after.trace
  rows : ∀ file, ∀ row ∈ (after.disk.eventDb file).marks,
    row ∈ (before.disk.eventDb file).marks ∨
      before.naming = (some file, row)
  naming : after.naming = before.naming

theorem MayMark.refl (state : State) : state.MayMark state :=
  ⟨rfl, le_rfl, fun _ _ there => .inl there, rfl⟩

theorem MayMark.trans
    {before middle after : State} (first : before.MayMark middle)
    (second : middle.MayMark after) : before.MayMark after := by
  refine ⟨second.verdicts.trans first.verdicts,
    first.marks.trans second.marks, fun file row there => ?_,
    second.naming.trans first.naming⟩
  rcases second.rows file row there with earlier | named
  · exact first.rows file row earlier
  · rw [first.naming] at named
    exact .inr named

theorem MayMark.of_same
    {before after : State} (same : before.SameMarks after)
    (naming : after.naming = before.naming) : before.MayMark after := by
  obtain ⟨⟨listed, counted, _⟩, rows⟩ : (_ = _ ∧ _ = _ ∧ _ = _) ∧ _ = _ := by
    simpa [SameMarks, markView] using same
  refine ⟨listed, counted.ge, fun file row there => .inl ?_, naming⟩
  rwa [← congrFun rows file]

theorem mayMark_totalStep
    (before after : State) (step : TotalStep before after) :
    before.MayMark after :=
  .of_same (sameMarks_totalStep _ _ step) (by cases step <;> rfl)

end State

namespace Storage

open Program State

variable (config : Config)

/-- Steps that leave at most a mark on the frame counted last. -/
theorem mayMark_of_within
    {step : State → State → Prop} {program : Storage α}
    (within : program.Within step)
    (may : ∀ before after, step before after → before.MayMark after)
    (before : State) {state : State} (earlier : before.MayMark state) :
    program.wp (fun _ => before.MayMark) before.MayMark state :=
  within.keeps (fun _ _ step earlier => earlier.trans (may _ _ step)) state
    earlier

theorem sameMarks_of_within
    {step : State → State → Prop} {program : Storage α}
    (within : program.Within step)
    (same : ∀ before after, step before after → before.SameMarks after)
    {before state : State} (earlier : before.SameMarks state) :
    program.wp (fun _ => before.SameMarks) before.SameMarks state :=
  within.keeps (fun _ _ step earlier => (same _ _ step).trans earlier) state
    earlier

/-- `event_db_add_motion` leaves at most a row that names the given frame. -/
theorem eventDbAddMotion_mayMark
    {before state : State} (earlier : before.MayMark state) :
    (eventDbAddMotion state.ws.currentSegmentId state.ws.frameCount).wp
      (fun _ => before.MayMark) before.MayMark state := by
  have called : ∀ succeeded, before.MayMark
      (state.log (.called .sql succeeded)) := fun succeeded =>
    earlier.trans (.of_same (.log rfl) rfl)
  rw [eventDbAddMotion, wp_bind, wp_current]
  refine wp_split (fun _ => earlier) fun opened => ?_
  rw [wp_bind, wp_call]
  refine ⟨earlier, fun inserted _ => wp_split (fun _ => called _) fun _ => ?_⟩
  rw [updateEventDb, wp_bind, wp_current]
  cases file : state.ws.eventDb with
  | none => simp [file] at opened
  | some file' =>
      simp only [ws_log, file]
      rw [wp_setDisk]
      refine (called inserted.ok).trans ⟨rfl, le_rfl, fun other row there => ?_,
        rfl⟩
      rcases mem_marks_insertDetail there with old | ⟨rfl, rfl⟩
      · exact .inl old
      · exact .inr (by simp [naming, file])

theorem mayMark_statementStep
    (before after : State)
    (step : StatementStep (fun _ => False) before after) :
    before.MayMark after := by
  refine .of_same (.of_adds ((adds_statementStep _ _ step).mono
    fun event listed => ?_) ?_ ?_) ?_
  · cases event <;> first | rfl | cases listed
  · cases step <;> rfl
  · exact (keepsTotals_statementStep (fun _ => False.elim) _ _
      step).1.disk.marks
  · cases step <;> rfl

/-- Behind the test of the debounce interval. -/
theorem leaveMark_mayMark (now count : Int) (state : State) :
    (do
      log .mark
      eventDbAddMotion state.ws.currentSegmentId state.ws.frameCount
      metaDbUpsertMotionCount count
      log .counted
      setWs fun ws => { ws with lastMotionMs := now }).wp
      (fun _ after => state.MayMark after ∧
        marks state.trace < marks after.trace) state.MayMark state := by
  rw [wp_bind, wp_log]
  have counted : marks (state.log .mark).trace = marks state.trace + 1 := by
    simp [marks]
  have noted : state.MayMark (state.log .mark) :=
    ⟨rfl, by omega, fun _ _ there => .inl there, rfl⟩
  refine wp_then (wp_mono (@eventDbAddMotion_mayMark (state.log .mark)
    (state.log .mark) (.refl _)) (fun _ _ marked => marked)
      fun _ => noted.trans) fun _ reached marked => ?_
  refine wp_then (wp_mono (mayMark_of_within
    (metaDbUpsertMotionCount_within _) mayMark_statementStep _ marked)
      (fun _ _ upserted => upserted) fun _ => noted.trans)
    fun _ last upserted => ?_
  rw [wp_bind, wp_log, wp_setWs]
  have may : (state.log .mark).MayMark ((last.log .counted).updateWs fun ws =>
      { ws with lastMotionMs := now }) :=
    upserted.trans ⟨rfl, le_rfl, fun _ _ there => .inl there, rfl⟩
  have more := may.marks
  exact ⟨noted.trans may, by omega⟩

/-- A mark is left, but for a time within the debounce interval. -/
theorem recordMotion_mayMark (through : Choice → Choice) (state : State) :
    ((recordMotion config).relabel through).wp
      (fun _ after => state.MayMark after ∧
        ((∀ choice, config.motionDebounceMs ≤
            (through choice).nowMs - state.ws.lastMotionMs) →
          marks state.trace < marks after.trace)) state.MayMark state := by
  rw [recordMotion, relabel_bind, nowMs, relabel_bind, relabel_answer, wp_bind,
    wp_bind, wp_bind, wp_answer]
  refine ⟨.refl state, fun now => ?_⟩
  rw [wp_pure, relabel_pure, wp_pure]
  apply wp_relabel
  rw [wp_bind, wp_current]
  refine wp_split (fun _ => ?_) fun within => ⟨.refl state, fun outside => ?_⟩
  · rw [wp_bind, wp_setWs]
    have raised : state.MayMark (state.updateWs fun ws =>
        { ws with motionCount := ws.motionCount + 1 }) :=
      ⟨rfl, le_rfl, fun _ _ there => .inl there, rfl⟩
    exact wp_mono (leaveMark_mayMark _ _ _)
      (fun _ _ left => ⟨raised.trans left.1, fun _ => left.2⟩)
      fun _ => raised.trans
  · exact absurd (outside now) within

end Storage
namespace State

/-- A frame has been judged by the rate seen: no mark is left but in motion, and
its row names the frame. -/
structure Judges (config : Config) (fps : Int) (before after : State) :
    Prop where
  verdicts : verdicts after.trace =
    decide (fps = config.fpsHigh) :: verdicts before.trace
  marks : fps ≠ config.fpsHigh → marks after.trace = marks before.trace
  rows : ∀ file, ∀ row ∈ (after.disk.eventDb file).marks,
    row ∈ (before.disk.eventDb file).marks ∨
      fps = config.fpsHigh ∧ after.naming = (some file, row)

variable {config : Config} {fps : Int} {before middle after : State}

theorem SameMarks.judges
    (same : before.SameMarks middle) (judges : middle.Judges config fps after) :
    before.Judges config fps after := by
  obtain ⟨⟨listed, counted, _⟩, rows⟩ : (_ = _ ∧ _ = _ ∧ _ = _) ∧ _ = _ := by
    simpa [SameMarks, markView] using same
  refine ⟨judges.verdicts.trans (congrArg _ listed),
    fun low => (judges.marks low).trans counted, fun file row there => ?_⟩
  rw [← congrFun rows file]
  exact judges.rows file row there

theorem Judges.idle
    (judges : before.Judges config fps middle) (same : middle.SameMarks after)
    (naming : after.naming = middle.naming) :
    before.Judges config fps after := by
  obtain ⟨⟨listed, counted, _⟩, rows⟩ : (_ = _ ∧ _ = _ ∧ _ = _) ∧ _ = _ := by
    simpa [SameMarks, markView] using same
  refine ⟨listed.trans judges.verdicts,
    fun low => counted.trans (judges.marks low), fun file row there => ?_⟩
  rw [congrFun rows file] at there
  rw [naming]
  exact judges.rows file row there

theorem Judges.inMotion
    (judges : before.Judges config fps middle) (high : fps = config.fpsHigh)
    (may : middle.MayMark after) : before.Judges config fps after := by
  refine ⟨may.verdicts.trans judges.verdicts, fun low => absurd high low,
    fun file row there => ?_⟩
  rw [may.naming]
  rcases may.rows file row there with earlier | named
  · exact judges.rows file row earlier
  · exact .inr ⟨high, named⟩

end State

theorem State.naming_totalStep
    (before after : State) (step : TotalStep before after) :
    after.naming = before.naming := by
  cases step <;> rfl

theorem State.naming_retentionStep
    (before after : State) (step : RetentionStep before after) :
    after.naming = before.naming := by
  cases step <;> rfl

namespace Storage

open Program State

variable (config : Config) {fps : Int} {through : Choice → Choice}

/-- The frame is judged by the rate seen, and marked in motion outside the debounce
interval. -/
theorem recordProgress_judges
    (sees : ∀ choice, (through choice).currentFps = fps) (state : State) :
    ((recordProgress config).relabel through).wp
      (fun _ after => state.Judges config fps after ∧
        (fps = config.fpsHigh → (∀ choice, config.motionDebounceMs ≤
            (through choice).nowMs - state.ws.lastMotionMs) →
          marks state.trace < marks after.trace))
      (fun after => state.SameMarks after ∨ state.Judges config fps after)
      state := by
  rw [recordProgress, relabel_bind, relabel_answer, wp_bind, wp_bind, wp_answer]
  refine ⟨.inl rfl, fun given => ?_⟩
  rw [wp_pure, sees]
  simp only [relabel_bind, relabel_setWs, relabel_log, relabel_ite]
  rw [wp_bind, wp_setWs, wp_bind, wp_log]
  have judged : state.Judges config fps ((state.updateWs fun ws =>
      { ws with lastFps := fps }).log (.judged (fps = config.fpsHigh))) :=
    ⟨rfl, fun _ => rfl, fun _ _ there => .inl there⟩
  have update : ∀ {before reached : State}, before.MayMark reached →
      eventDbUpdateTotalFrames.wp (fun _ => before.MayMark) before.MayMark
        reached := fun earlier =>
    mayMark_of_within eventDbUpdateTotalFrames_within mayMark_totalStep _
      earlier
  refine wp_split (fun high => ?_) fun low => ?_
  · refine wp_then (wp_mono (recordMotion_mayMark config through _)
      (fun _ _ marked => marked) fun _ may => .inr (judged.inMotion high may)) ?_
    rintro _ reached ⟨may, marked⟩
    have ends : ∀ after, reached.MayMark after →
        state.Judges config fps after ∧
        (fps = config.fpsHigh → (∀ choice, config.motionDebounceMs ≤
            (through choice).nowMs - state.ws.lastMotionMs) →
          marks state.trace < marks after.trace) := fun after later =>
      ⟨judged.inMotion high (may.trans later), fun _ outside =>
        (marked outside).trans_le later.marks⟩
    have stops : ∀ after, reached.MayMark after → state.SameMarks after ∨
        state.Judges config fps after := fun after later =>
      .inr (ends after later).1
    have quiet : ∀ {middle : State} (event : Event),
        event.offMarks = true → reached.MayMark middle →
          reached.MayMark (middle.log event) := fun _ off earlier =>
      earlier.trans (.of_same (.log off) rfl)
    have moved := quiet .motion rfl (.refl reached)
    have once := quiet (.divides config.fpsLow) rfl moved
    have twice := quiet (.divides (config.fpsHigh.tdiv config.fpsLow)) rfl once
    rw [wp_bind, wp_log, relabel_divide, wp_bind]
    refine wp_divide (stops _ once) fun _ => ?_
    rw [relabel_divide, wp_bind]
    refine wp_divide (stops _ twice) fun _ => ?_
    rw [relabel_current, wp_bind, wp_current]
    refine wp_split (fun _ => ?_) fun _ => ends _ twice
    exact wp_mono (wp_relabel (update twice) _) (fun _ => ends) stops
  · have idle := wp_and (sameMarks_of_within eventDbUpdateTotalFrames_within
      sameMarks_totalStep (rfl : ((state.updateWs fun ws =>
        { ws with lastFps := fps }).log
          (.judged (fps = config.fpsHigh))).SameMarks _))
      (@Within.preserves _ _ _ _ _ _ eventDbUpdateTotalFrames_within
        State.naming naming_totalStep _)
    exact wp_mono (wp_relabel idle _)
      (fun _ after both => ⟨judged.idle both.1 both.2,
        fun high => absurd high low⟩)
      fun after both => .inr (judged.idle both.1 both.2)

/-- A day is changed where it is another one, and with it the gate is closed. -/
theorem rolloverDay_sameMarks
    {before state : State} (same : before.SameMarks state) :
    (rolloverDay config).wp (fun _ => before.SameMarks) before.SameMarks state :=
  sameMarks_of_within (rolloverDay_within config) sameMarks_dayStep same

theorem passesGate_sameMarks
    (frame : FqFrame) {before state : State} (same : before.SameMarks state) :
    (passesGate frame).wp
      (fun passes after => before.SameMarks after ∧
        (passes = false →
          frame.isKey = false ∧ state.ws.seenKeyframe = false))
      before.SameMarks state := by
  have noted : before.SameMarks (state.log (.gate frame.isKey)) :=
    (SameMarks.log rfl).trans same
  rw [passesGate, wp_bind, wp_log, wp_bind, wp_current]
  refine wp_split (fun _ => ⟨noted, fun given => by cases given⟩) fun unseen => ?_
  refine wp_split (fun held => ?_) fun _ => ?_
  · rw [wp_bind, wp_log]
    exact ⟨(SameMarks.log rfl).trans noted, fun _ =>
      ⟨by simpa using held, by simpa using unseen⟩⟩
  · rw [wp_bind, wp_setWs]
    exact ⟨(SameMarks.of_eq rfl rfl rfl).trans noted, fun given => by cases given⟩

theorem feedMuxer_sameMarks
    (frame : FqFrame) {before state : State} (same : before.SameMarks state) :
    (feedMuxer config frame).wp (fun _ => before.SameMarks) before.SameMarks
      state := by
  rw [feedMuxer, wp_bind, wp_divide_of_ne (by decide)]
  simp only [wp_bind, wp_setWs, wp_log]
  have divided : before.SameMarks (state.log (.divides 1000)) :=
    (SameMarks.log rfl).trans same
  have stamped : before.SameMarks ((state.log (.divides 1000)).updateWs
      fun ws => { ws with ptsMs := frame.ptsUs.tdiv 1000 }) :=
    (SameMarks.of_eq rfl rfl rfl).trans divided
  have fed : before.SameMarks (((state.log (.divides 1000)).updateWs fun ws =>
      { ws with ptsMs := frame.ptsUs.tdiv 1000 }).log (.fed frame)) :=
    (SameMarks.log rfl).trans stamped
  exact wp_mono (sameMarks_of_within (hlsMediaInput_within config frame.payload
    _ _ frame.isKey) sameMarks_hlsStep fed)
    (fun _ _ same => (SameMarks.of_eq rfl rfl rfl).trans same) fun _ => id

/-- `ingest_frame` behind its first reading of the clock. -/
def ingestOn (frame : FqFrame) (now : Choice) : Storage Unit := do
  let _ ← (do
    log (.ingest now.tm.date now.tm.yday)
    let state ← Program.current
    if now.tm.yday ≠ state.ws.dayOfYear then
      let _ ← rolloverDay config : Storage Unit)
  let passes ← passesGate frame
  if passes then
    feedMuxer config frame
    recordProgress config
    checkAndCleanup config

theorem ingestFrame_eq_ingestOn (frame : FqFrame) :
    ingestFrame config frame = Program.answer >>= ingestOn config frame := rfl

/-- A frame is held back that is no keyframe where none was seen, or it is judged,
and then it is marked in motion outside the debounce interval. -/
theorem ingestOn_judges
    (sees : ∀ choice, (through choice).currentFps = fps)
    (frame : FqFrame) (now : Choice) (state : State) :
    ((ingestOn config frame now).relabel through).wp
      (fun _ after => state.SameMarks after ∧ frame.isKey = false ∧
          (now.tm.yday = state.ws.dayOfYear →
            state.ws.seenKeyframe = false) ∨
        state.Judges config fps after ∧
          (fps = config.fpsHigh → (∀ choice, config.motionDebounceMs ≤
              (through choice).nowMs - state.ws.lastMotionMs) →
            marks state.trace < marks after.trace))
      (fun after => state.SameMarks after ∨ state.Judges config fps after)
      state := by
  have noted : state.SameMarks
      (state.log (.ingest now.tm.date now.tm.yday)) := .log rfl
  simp only [ingestOn, relabel_bind, relabel_ite, relabel_pure]
  refine wp_via (fun _ after => state.SameMarks after ∧
    (now.tm.yday = state.ws.dayOfYear →
      after.ws.seenKeyframe = state.ws.seenKeyframe)) ?_
    fun _ rolled ⟨same, kept⟩ => ?_
  · simp only [relabel_log, relabel_current, wp_bind, wp_log, wp_current]
    refine wp_split (fun changed => ?_) fun _ => ⟨noted, fun _ => rfl⟩
    rw [wp_bind]
    refine wp_mono (wp_relabel (rolloverDay_sameMarks config noted) _)
      (fun _ _ same => ⟨same, fun today => absurd today changed⟩)
      fun _ => .inl
  · refine wp_then (wp_mono (wp_relabel (passesGate_sameMarks frame same) _)
      (fun _ _ gate => gate) fun _ => .inl) fun passes gated ⟨same, held⟩ => ?_
    refine wp_split (fun _ => ?_) fun closed => ?_
    · refine wp_then (wp_mono (wp_relabel (feedMuxer_sameMarks config frame
        same) _) (fun _ _ same => same) fun _ => .inl) fun _ fed same => ?_
      refine wp_then (wp_mono (recordProgress_judges config sees fed)
        (fun _ _ judged => judged) fun _ stops => ?_)
        fun _ judged ⟨judges, marked⟩ => ?_
      · exact stops.imp (fun later => later.trans same) same.judges
      · obtain ⟨⟨_, counted, last⟩, _⟩ : (_ = _ ∧ _ = _ ∧ _ = _) ∧ _ = _ := by
          simpa [State.SameMarks, State.markView] using same
        have cleaned := wp_and (sameMarks_of_within
          (checkAndCleanup_within config) sameMarks_retentionStep
            (rfl : judged.SameMarks judged))
          (@Within.preserves _ _ _ _ _ _ (checkAndCleanup_within config)
            State.naming State.naming_retentionStep judged)
        refine wp_mono (wp_relabel cleaned _) (fun _ after both => ?_)
          fun after both => .inr (same.judges (judges.idle both.1 both.2))
        refine .inr ⟨same.judges (judges.idle both.1 both.2),
          fun high outside => ?_⟩
        have more := marked high (by rwa [last])
        obtain ⟨⟨_, still, _⟩, _⟩ : (_ = _ ∧ _ = _ ∧ _ = _) ∧ _ = _ := by
          simpa [State.SameMarks, State.markView] using both.1
        omega
    · obtain ⟨notKey, unseen⟩ := held (by simpa using closed)
      exact .inl ⟨same, notKey, fun today => kept today ▸ unseen⟩

end Storage

/-! ## Runs -/

/-- The state of motion after so many changes. -/
def Motion.after (stores : Nat) : Motion :=
  if stores % 2 = 0 then .undetected else .detected

theorem Motion.after_succ (stores : Nat) :
    Motion.after (stores + 1) ≠ Motion.after stores := by
  unfold after
  split <;> split <;> first | omega | decide

theorem Motion.eq_after_succ
    {state : Motion} {stores : Nat} (changed : state ≠ Motion.after stores) :
    state = Motion.after (stores + 1) := by
  have other := Motion.after_succ stores
  cases state <;> cases before : Motion.after stores <;>
    cases later : Motion.after (stores + 1) <;> simp_all

/-- A frame was kept under the state that `ivs_thread` had stored by then. -/
def Load.Current (load : Load) : Prop :=
  load.motion = Motion.after load.stores

namespace Camera

variable {config : Config}

/-- How the stores of `ivs_thread`, the loads and the frames go together. -/
structure Tracks (config : Config) (camera : Camera) : Prop where
  state : camera.motionState = Motion.after camera.stores
  storing : match camera.storing with
    | none => camera.announcements = camera.stores
    | some state => state = camera.motionState ∧
        camera.announcements + 1 = camera.stores
  fps : camera.currentFps =
    if camera.announcements = 0 then cfgFpsLow
    else config.announcedFps (Motion.after camera.announcements)
  loaded : ∀ load ∈ camera.loaded, load.Current
  encoding : ∀ load ∈ camera.encoding, load.Current
  keptAs : ∀ entry ∈ camera.keptAs, entry.2.Current
  ordered : camera.pipeline.Ordered config
  order : camera.encoding.map Load.motion =
    camera.pipeline.encoding.map KeptFrame.motion
  known : ∀ frame, frame ∈ camera.popped ∨
    frame ∈ camera.pipeline.queue.queue.items →
      (camera.loadOf frame).isSome = true

theorem loadOf_isSome_iff (camera : Camera) (frame : FqFrame) :
    (camera.loadOf frame).isSome = true ↔
      ∃ copy ∈ frame.data, ∃ entry ∈ camera.keptAs, copy.addr = entry.1 := by
  cases data : frame.data <;> simp [loadOf, data]

variable {camera : Camera}

theorem Tracks.loadOf
    (tracks : camera.Tracks config) {frame : FqFrame} {load : Load}
    (found : camera.loadOf frame = some load) : load.Current := by
  obtain ⟨copy, _, listed⟩ := Option.bind_eq_some_iff.mp found
  obtain ⟨earlier, later, split, _⟩ := List.lookup_eq_some_iff.mp listed
  exact tracks.keptAs (copy.addr, load) (by rw [split]; simp)

theorem tracks_start
    {capacity : Nat} {queue : FrameQueue}
    (created : fqCreate capacity true = some queue) (storage : State) :
    (start queue storage).Tracks config := by
  obtain ⟨_, abstract⟩ := fqCreate_wellFormed created
  have noItems : queue.items = [] := congrArg LossyQueue.items abstract
  exact
    { state := rfl
      storing := rfl
      fps := rfl
      loaded := by simp [start]
      encoding := by simp [start]
      keptAs := by simp [start]
      ordered := Pipeline.ordered_start created
      order := rfl
      known := by simp [start, Pipeline.start, noItems] }

/-- What the encoder hands back goes into the queue under its own load. -/
theorem Tracks.keep
    (tracks : camera.Tracks config) {load : Load} (current : load.Current)
    (packet : Option Packet) : (camera.keep config load packet).Tracks config := by
  have ordered := tracks.ordered.step (.frame load.hwPts load.motion packet)
  unfold Camera.keep
  rw [Pipeline.step] at ordered ⊢
  obtain ⟨timeline, taken, equal⟩ : ∃ timeline taken,
      camera.pipeline.timeline.step config load.hwPts load.motion =
        (timeline, taken) := ⟨_, _, rfl⟩
  rw [equal] at ordered ⊢
  have encoding : ∀ each ∈ camera.encoding ++ [load], each.Current := by
    simpa [or_imp, forall_and] using ⟨tracks.encoding, current⟩
  cases taken with
  | none =>
      exact
        { state := tracks.state
          storing := tracks.storing
          fps := tracks.fps
          loaded := by simp
          encoding := by simpa using tracks.encoding
          keptAs := tracks.keptAs
          ordered := ordered
          order := by simpa using tracks.order
          known := tracks.known }
  | some kept =>
      have sameMotion : kept.motion = load.motion := by
        have became := congrArg Prod.snd equal
        unfold Timeline.step at became
        simp only at became
        split at became
        · cases became
        · cases became
          rfl
      cases packet with
      | none =>
          exact
            { state := tracks.state
              storing := tracks.storing
              fps := tracks.fps
              loaded := by simp
              encoding := by simpa using encoding
              keptAs := tracks.keptAs
              ordered := ordered
              order := by
                simp [Pipeline.getStream, Pipeline.sendFrame, tracks.order,
                  sameMotion]
              known := tracks.known }
      | some packet =>
          obtain ⟨oldest, later, split⟩ : ∃ oldest later,
              camera.encoding ++ [load] = oldest :: later :=
            List.exists_cons_of_ne_nil (by simp)
          obtain ⟨sent, rest, splitSent⟩ : ∃ sent rest,
              camera.pipeline.encoding ++ [kept] = sent :: rest :=
            List.exists_cons_of_ne_nil (by simp)
          have order : (oldest :: later).map Load.motion =
              (sent :: rest).map KeptFrame.motion := by
            rw [← split, ← splitSent, List.map_append, List.map_append,
              tracks.order, List.map_singleton, List.map_singleton, sameMotion]
          have current : ∀ each ∈ oldest :: later, each.Current :=
            split ▸ encoding
          have streamed : ({ camera.pipeline with timeline }.sendFrame
              kept).getStream (some packet) =
                { ({ camera.pipeline with timeline }.sendFrame kept) with
                  encoding := rest
                  queue := (fqPush camera.pipeline.queue packet.data
                    packet.isKey sent.pts packet.allocated).1 } := by
            simp only [Pipeline.getStream, Pipeline.sendFrame, splitSent]
          simp only [streamed] at ordered ⊢
          simp only [Option.isSome_some, Bool.and_self, if_true,
            Option.map_some, Option.toList_some, split, List.tail_cons,
            List.head?_cons]
          exact
            { state := tracks.state
              storing := tracks.storing
              fps := tracks.fps
              loaded := by simp
              encoding := fun each there =>
                current each (List.mem_cons_of_mem _ there)
              keptAs := by
                intro entry there
                rcases List.mem_append.mp there with new | old
                · obtain rfl := List.mem_singleton.mp new
                  exact current oldest List.mem_cons_self
                · exact tracks.keptAs entry old
              ordered := ordered
              order := (List.cons.inj order).2
              known := by
                intro frame there
                rw [loadOf_isSome_iff]
                have earlier : (camera.loadOf frame).isSome = true →
                    ∃ copy ∈ frame.data, ∃ entry ∈
                      [(camera.pipeline.queue.heap.next, oldest)] ++
                        camera.keptAs, copy.addr = entry.1 := by
                  rw [loadOf_isSome_iff]
                  rintro ⟨copy, data, entry, listed, same⟩
                  exact ⟨copy, data, entry, List.mem_cons_of_mem _ listed, same⟩
                rcases there with popped | queued
                · exact earlier (tracks.known frame (.inl popped))
                change frame ∈ (fqPush camera.pipeline.queue packet.data
                  packet.isKey sent.pts packet.allocated).1.queue.items at queued
                rcases fqPush_cases tracks.ordered.wellFormed packet.data
                  packet.isKey sent.pts packet.allocated with
                  refused | ⟨unit, _, pushes⟩
                · rw [refused] at queued
                  exact earlier (tracks.known frame (.inr queued))
                · have among := LossyQueue.items_push_sublist FqFrame.isKey
                    camera.pipeline.queue.queue.abstract
                    (unit.stored camera.pipeline.queue.heap.next)
                  rw [← pushes.abstract] at among
                  rcases List.mem_append.mp (among.subset queued) with
                    old | new
                  · exact earlier (tracks.known frame (.inr old))
                  · obtain rfl := List.mem_singleton.mp new
                    exact ⟨_, rfl, _, List.mem_cons_self, rfl⟩ }

theorem Tracks.ingest
    (tracks : camera.Tracks config) (popped : Option FqFrame) (storage : State)
    (halted : Bool) (ingested : List Ingested)
    (known : ∀ frame ∈ popped, frame ∈ camera.popped) :
    ({ camera with popped, storage, halted, ingested } : Camera).Tracks
      config :=
  { state := tracks.state
    storing := tracks.storing
    fps := tracks.fps
    loaded := tracks.loaded
    encoding := tracks.encoding
    keptAs := tracks.keptAs
    ordered := tracks.ordered
    order := tracks.order
    known := fun frame there => tracks.known frame
      (there.imp_left (known frame)) }

theorem Tracks.step
    (tracks : camera.Tracks config) (event : CameraEvent) :
    (camera.step config event).Tracks config := by
  cases event with
  | detect state =>
      rw [Camera.step]
      split
      · rename_i idle
        have before := tracks.storing
        rw [Option.isNone_iff_eq_none.mp idle.1] at before
        have counted : camera.announcements = camera.stores := before
        exact
          { state := Motion.eq_after_succ (tracks.state ▸ idle.2)
            storing := ⟨rfl, congrArg (· + 1) counted⟩
            fps := tracks.fps
            loaded := tracks.loaded
            encoding := tracks.encoding
            keptAs := tracks.keptAs
            ordered := tracks.ordered
            order := tracks.order
            known := tracks.known }
      · exact tracks
  | announce =>
      rw [Camera.step]
      split
      · exact tracks
      · rename_i state storing
        have before := tracks.storing
        rw [storing] at before
        obtain ⟨rfl, counted⟩ := before
        exact
          { state := tracks.state
            storing := counted
            fps := by
              change _ = if camera.announcements + 1 = 0 then _ else _
              rw [if_neg (Nat.succ_ne_zero _), counted, ← tracks.state]
            loaded := tracks.loaded
            encoding := tracks.encoding
            keptAs := tracks.keptAs
            ordered := tracks.ordered
            order := tracks.order
            known := tracks.known }
  | load hwPts =>
      rw [Camera.step]
      split
      · refine { tracks with loaded := fun load there => ?_ }
        obtain rfl := Option.some.inj there
        exact tracks.state
      · exact tracks
  | keep packet =>
      rw [Camera.step]
      split
      · exact tracks
      · exact tracks.keep (tracks.loaded _ ‹_›) packet
  | pop =>
      rw [Camera.step]
      split
      · have ordered := tracks.ordered.step .pop
        rcases tracks.ordered.step_pop with same | ⟨out, stepped, items, _⟩
        · rw [same]
          exact tracks.ingest _ _ _ _ (by simp)
        · rw [stepped] at ordered ⊢
          refine { tracks with ordered := ordered, known := ?_ }
          intro frame there
          refine tracks.known frame (.inr ?_)
          rw [items]
          simpa [eq_comm] using there
      · exact tracks
  | ingest script =>
      rw [Camera.step]
      split
      · exact tracks
      · split
        · exact tracks
        · rw [Camera.ingestFrame]
          split
          · exact tracks.ingest none _ _ _ (by simp)
          · exact tracks.ingest camera.popped _ _ _ fun _ there => there

end Camera

/-! ## What becomes of a frame -/

namespace Storage

open Program

/-- Whatever the script is: the frame is held back or judged, and then marked in
motion outside the debounce interval. -/
theorem ingestFrame_settles
    (config : Config) (frame : FqFrame) (fps : Int) (state : State)
    (script : List Choice) :
    (((ingestFrame config frame).relabel (Choice.seeing fps)).run state
      script).Meets
      (fun _ after => state.SameMarks after ∧ frame.isKey = false ∧
          ((∀ now ∈ script.head?, now.tm.yday = state.ws.dayOfYear) →
            state.ws.seenKeyframe = false) ∨
        state.Judges config fps after ∧
          (fps = config.fpsHigh → (∀ choice ∈ script,
            config.motionDebounceMs ≤ choice.nowMs - state.ws.lastMotionMs) →
              marks state.trace < marks after.trace))
      (fun after => state.SameMarks after ∨ state.Judges config fps after) := by
  rw [ingestFrame_eq_ingestOn]
  cases script with
  | nil => exact .inl rfl
  | cons now script =>
      change (((ingestOn config frame now).relabel (Choice.seeing fps)).run state
        script).Meets _ _
      by_cases outside : ∀ choice ∈ now :: script,
          config.motionDebounceMs ≤ choice.nowMs - state.ws.lastMotionMs
      · -- no answer is changed when all are taken to lie outside the interval
        have same : ∀ choice ∈ script, Choice.seeing fps choice =
            { Choice.seeing fps choice with
              nowMs := max choice.nowMs
                (config.motionDebounceMs + state.ws.lastMotionMs) } := by
          intro choice there
          have late := outside choice (List.mem_cons_of_mem _ there)
          rw [max_eq_left (by omega)]
          rfl
        rw [run_relabel_congr _ same]
        have met := (wp_iff_run _ _ _ _).mp (@ingestOn_judges config fps
          (fun choice => { Choice.seeing fps choice with
            nowMs := max choice.nowMs
              (config.motionDebounceMs + state.ws.lastMotionMs) })
          (fun _ => rfl) frame now state) script
        refine Outcome.Meets.mono met (fun _ after ends => ?_) fun _ => id
        refine ends.imp (fun held => ⟨held.1, held.2.1, fun today =>
          held.2.2 (today now rfl)⟩) fun judged => ⟨judged.1, fun high _ =>
            judged.2 high fun choice => ?_⟩
        have late := le_max_right choice.nowMs
          (config.motionDebounceMs + state.ws.lastMotionMs)
        change _ ≤ max choice.nowMs _ - _
        omega
      · have met := (wp_iff_run _ _ _ _).mp (@ingestOn_judges config fps
          (Choice.seeing fps) (fun _ => rfl) frame now state) script
        refine Outcome.Meets.mono met (fun _ after ends => ?_) fun _ => id
        exact ends.imp (fun held => ⟨held.1, held.2.1, fun today =>
          held.2.2 (today now rfl)⟩) fun judged => ⟨judged.1, fun _ all =>
            absurd all outside⟩

end Storage

namespace Camera

variable {config : Config} {camera : Camera}

/-- The rate seen is the high one exactly for a frame kept in motion. -/
theorem Tracks.fps_eq_fpsHigh_iff
    (tracks : camera.Tracks config) {load : Load} (current : load.Current)
    (inStep : load.stores % 2 = camera.announcements % 2)
    (distinct : config.fpsLow ≠ config.fpsHigh)
    (first : camera.announcements = 0 → cfgFpsLow ≠ config.fpsHigh) :
    camera.currentFps = config.fpsHigh ↔ load.motion = .detected := by
  have same : load.motion = Motion.after camera.announcements := by
    rw [show load.motion = _ from current, Motion.after, inStep, Motion.after]
  rw [tracks.fps, same]
  by_cases none : camera.announcements = 0
  · simp [none, first none, Motion.after]
  · rw [if_neg none]
    cases Motion.after camera.announcements <;>
      simp [Config.announcedFps, distinct]

/-- What holds of the frames that were ingested. -/
structure Agrees (config : Config) (storage : State) (camera : Camera) :
    Prop where
  tracks : camera.Tracks config
  motion : ∀ each ∈ camera.ingested,
    (each.inMotion = true ↔ each.keptInMotion) ∧
      (each.marked = true → each.keptInMotion) ∧
      (each.keptInMotion → each.returned = true → each.outside = true →
        each.marked = true)
  rows : ∀ file, ∀ row ∈ (camera.storage.disk.eventDb file).marks,
    row ∈ (storage.disk.eventDb file).marks ∨
      ∃ each ∈ camera.ingested, each.keptInMotion ∧ each.file = some file ∧
        each.row = row

/-- A frame that was judged. -/
theorem ingestedIn_of_judges
    {frame : FqFrame} {load : Load} (found : camera.loadOf frame = some load)
    (agree : camera.currentFps = config.fpsHigh ↔ load.motion = .detected)
    {after : State}
    (judges : camera.storage.Judges config camera.currentFps after)
    (script : List Choice) (returned : Bool) :
    let each := camera.ingestedIn config frame script after returned
    (each.inMotion = true ↔ each.keptInMotion) ∧
      (each.marked = true → each.keptInMotion) ∧
      ∀ file, ∀ row ∈ (after.disk.eventDb file).marks,
        row ∈ (camera.storage.disk.eventDb file).marks ∨
          each.keptInMotion ∧ each.file = some file ∧ each.row = row := by
  intro each
  have kept : each.keptInMotion ↔ load.motion = .detected := by
    simp [each, Ingested.keptInMotion, ingestedIn, found]
  rw [kept, ← agree]
  refine ⟨?_, fun marked => ?_, fun file row there => ?_⟩
  · simp [each, ingestedIn, judges.verdicts]
  · by_contra low
    have same := judges.marks low
    simp [each, ingestedIn, same] at marked
  · refine (judges.rows file row there).imp_right fun named => ⟨named.1, ?_⟩
    have both : after.ws.eventDb = some file ∧ _ = row := Prod.mk.inj named.2
    exact both

/-- A frame that was held back. -/
theorem ingestedIn_of_same
    {frame : FqFrame} {after : State} (same : camera.storage.SameMarks after)
    (script : List Choice) (returned : Bool) :
    let each := camera.ingestedIn config frame script after returned
    each.inMotion = false ∧ each.marked = false ∧
      verdicts after.trace = verdicts camera.storage.trace ∧
      ∀ file, (after.disk.eventDb file).marks =
        (camera.storage.disk.eventDb file).marks := by
  obtain ⟨⟨listed, counted, _⟩, rows⟩ : (_ = _ ∧ _ = _ ∧ _ = _) ∧ _ = _ := by
    simpa [State.SameMarks, State.markView] using same
  exact ⟨by simp [ingestedIn, listed], by simp [ingestedIn, counted], listed,
    congrFun rows⟩

theorem Agrees.ingestFrame
    {storage : State} (agrees : camera.Agrees config storage)
    {frame : FqFrame} (popped : camera.popped = some frame)
    {script : List Choice} (inStep : camera.InStep config (.ingest script)) :
    (camera.ingestFrame config frame script).Agrees config storage := by
  obtain ⟨load, found⟩ := Option.isSome_iff_exists.mp
    (agrees.tracks.known frame (.inl popped))
  obtain ⟨even, distinct, first, passes⟩ := inStep frame popped load found
  have agree := agrees.tracks.fps_eq_fpsHigh_iff (agrees.tracks.loadOf found)
    even distinct first
  have met := Storage.ingestFrame_settles config frame camera.currentFps
    camera.storage script
  rw [Camera.ingestFrame]
  split
  · rename_i after rest ran
    rw [ran] at met
    refine ⟨agrees.tracks.ingest none _ _ _ (by simp), ?_, fun file row there => ?_⟩
    · refine List.forall_mem_cons.mpr ⟨?_, agrees.motion⟩
      rcases met with ⟨same, notKey, unseen⟩ | ⟨judges, marked⟩
      · -- a frame kept in motion is not held back
        have still : ¬load.motion = .detected := by
          intro moving
          rcases passes moving with key | ⟨seen, today⟩
          · rw [notKey] at key
            cases key
          · rw [unseen today] at seen
            cases seen
        obtain ⟨noMotion, noMark, _⟩ :=
          @ingestedIn_of_same config camera frame after same script true
        have notKept : ¬(camera.ingestedIn config frame script after
            true).keptInMotion := by
          simpa [Ingested.keptInMotion, ingestedIn, found] using still
        rw [noMotion, noMark]
        exact ⟨by simp [notKept], by simp, fun kept => absurd kept notKept⟩
      · obtain ⟨motion, only, _⟩ :=
          ingestedIn_of_judges found agree judges script true
        refine ⟨motion, only, fun kept _ outside => ?_⟩
        have moving : load.motion = .detected := by
          simpa [Ingested.keptInMotion, ingestedIn, found] using kept
        have more := marked (agree.mpr moving) (by
          simpa [ingestedIn] using outside)
        simpa [ingestedIn] using more
    · -- the rows on the card
      rcases met with ⟨same, _⟩ | ⟨judges, _⟩
      · obtain ⟨_, _, _, rows⟩ :=
          @ingestedIn_of_same config camera frame after same script true
        rw [rows] at there
        exact (agrees.rows file row there).imp_right fun ⟨each, listed, named⟩ =>
          ⟨each, List.mem_cons_of_mem _ listed, named⟩
      · obtain ⟨_, _, rows⟩ := ingestedIn_of_judges found agree judges script true
        rcases rows file row there with earlier | named
        · exact (agrees.rows file row earlier).imp_right
            fun ⟨each, listed, named⟩ =>
              ⟨each, List.mem_cons_of_mem _ listed, named⟩
        · exact .inr ⟨_, List.mem_cons_self, named⟩
  · rename_i after ran
    rw [ran] at met
    rcases met with same | judges
    · obtain ⟨_, _, listed, rows⟩ :=
        @ingestedIn_of_same config camera frame after same script false
      simp only [listed, lt_irrefl, if_false]
      refine ⟨agrees.tracks.ingest camera.popped _ _ _ fun _ there => there,
        agrees.motion, fun file row there => ?_⟩
      change row ∈ (after.disk.eventDb file).marks at there
      rw [rows] at there
      exact agrees.rows file row there
    · obtain ⟨motion, only, rows⟩ :=
        ingestedIn_of_judges found agree judges script false
      have grown : (verdicts camera.storage.trace).length <
          (verdicts after.trace).length := by
        rw [judges.verdicts]
        exact Nat.lt_succ_self _
      rw [if_pos grown]
      refine ⟨agrees.tracks.ingest camera.popped _ _ _ fun _ there => there,
        List.forall_mem_cons.mpr ⟨⟨motion, only, fun _ => by simp [ingestedIn]⟩,
          agrees.motion⟩, fun file row there => ?_⟩
      rcases rows file row there with earlier | named
      · exact (agrees.rows file row earlier).imp_right
          fun ⟨each, listed, named⟩ =>
            ⟨each, List.mem_cons_of_mem _ listed, named⟩
      · exact .inr ⟨_, List.mem_cons_self, named⟩

/-- A step that ingests nothing. -/
theorem Agrees.of_same
    {storage : State} {after : Camera} (agrees : camera.Agrees config storage)
    (tracks : after.Tracks config) (card : after.storage = camera.storage)
    (ingested : after.ingested = camera.ingested) :
    after.Agrees config storage := by
  refine ⟨tracks, ?_, ?_⟩
  · rw [ingested]
    exact agrees.motion
  · rw [card, ingested]
    exact agrees.rows

theorem Agrees.step
    {storage : State} (event : CameraEvent)
    (inStep : camera.InStep config event)
    (agrees : camera.Agrees config storage) :
    (camera.step config event).Agrees config storage := by
  have tracks := agrees.tracks.step event
  cases event with
  | ingest script =>
      rw [Camera.step] at tracks ⊢
      cases popped : camera.popped with
      | none => exact agrees
      | some frame =>
          simp only
          split
          · exact agrees
          · exact agrees.ingestFrame popped inStep
  | keep packet =>
      refine agrees.of_same tracks ?_ ?_ <;> rw [Camera.step] <;> split <;>
        first | rfl | (rw [Camera.keep]; split <;> rfl)
  | _ =>
      refine agrees.of_same tracks ?_ ?_ <;> rw [Camera.step] <;> split <;> rfl

end Camera

end MotionSense
