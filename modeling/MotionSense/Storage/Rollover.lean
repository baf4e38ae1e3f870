import MotionSense.Storage.Rounds

/-!
# Changing to another day

`ingest_frame` calls `rollover_day` when the day of the year differs from the one
that `open_today` has noted, and `open_today` notes it before anything in it can
fail.  So a rollover that failed is not tried again, and a day of the year that
comes back in another year is taken for the same day.
-/

namespace MotionSense

/-- Where every step adds to the record or leaves it, the record grows. -/
theorem Program.Within.grows
    {step : State → State → Prop}
    {program : Storage α}
    (within : program.Within step)
    {kind : Event → Bool}
    (adds : ∀ before after, step before after → State.Adds kind before after)
    {earlier : List Moment}
    (state : State)
    (holds : earlier <:+ state.trace) :
    program.wp (fun _ after => earlier <:+ after.trace)
      (fun after => earlier <:+ after.trace) state := by
  refine @Program.Within.keeps _ _ _ _ _ within
    (fun after => earlier <:+ after.trace) ?_ state holds
  intro before after last held
  rcases adds before after last with same | ⟨event, _, grown⟩
  · rw [same]
    exact held
  · rw [grown]
    exact held.trans (List.suffix_cons _ _)

/-! ## Steps that stay in a day -/

namespace Event

/-- `open_today` returns. -/
def isOpened : Event → Bool
  | .opened _ => true
  | _ => false

/-- The process starts. -/
def isStarted : Event → Bool
  | .started => true
  | _ => false

/-- A frame reaches the keyframe gate. -/
def isGate : Event → Bool
  | .gate _ => true
  | _ => false

/-- `ingest_frame` has read the clock. -/
def isIngest : Event → Bool
  | .ingest _ _ => true
  | _ => false

/-- Events that have no part in finding and changing the day. -/
def offDay : Event → Bool
  | .started | .opening | .placed | .opened _ | .ingest _ _ => false
  | _ => true

end Event

/-- The day and the folder stay, and nothing about days is recorded. -/
structure SameDay (before after : State) : Prop where
  date : after.ws.date = before.ws.date
  yday : after.ws.dayOfYear = before.ws.dayOfYear
  dir : after.ws.segmentDir = before.ws.segmentDir
  adds : State.Adds Event.offDay before after

namespace State

theorem sameDay_hlsStep
    (before after : State) (step : HlsStep before after) :
    SameDay before after := by
  cases step <;> refine ⟨rfl, rfl, rfl, ?_⟩ <;>
    first | exact .inl rfl | exact .log rfl

theorem sameDay_statementStep
    {writes : (EventDb → EventDb) → Prop}
    (before after : State) (step : StatementStep writes before after) :
    SameDay before after := by
  cases step <;> refine ⟨rfl, rfl, rfl, ?_⟩ <;>
    first | exact .inl rfl | exact .log rfl

theorem sameDay_totalStep
    (before after : State) (step : TotalStep before after) :
    SameDay before after := by
  cases step <;> exact ⟨rfl, rfl, rfl, .log rfl⟩

theorem sameDay_flushStep
    (before after : State) (step : FlushStep before after) :
    SameDay before after := by
  cases step with
  | hls step => exact sameDay_hlsStep _ _ step
  | _ => exact ⟨rfl, rfl, rfl, .inl rfl⟩

theorem sameDay_dbStep
    (before after : State) (step : DbStep before after) :
    SameDay before after := by
  cases step with
  | statement step => exact sameDay_statementStep _ _ step
  | stamp => exact ⟨rfl, rfl, rfl, .log rfl⟩
  | _ => exact ⟨rfl, rfl, rfl, .inl rfl⟩

theorem sameDay_segmentStep
    (before after : State) (step : SegmentStep before after) :
    SameDay before after := by
  cases step with
  | db step => exact sameDay_dbStep _ _ step
  | _ => exact ⟨rfl, rfl, rfl, .inl rfl⟩

theorem sameDay_frameStep
    (before after : State) (step : FrameStep before after) :
    SameDay before after := by
  cases step with
  | hls step => exact sameDay_hlsStep _ _ step
  | _ =>
      refine ⟨rfl, rfl, rfl, ?_⟩
      first | exact .inl rfl | exact .log rfl

theorem sameDay_progressStep
    (before after : State) (step : ProgressStep before after) :
    SameDay before after := by
  cases step with
  | marks step =>
      cases step with
      | statement step => exact sameDay_statementStep _ _ step
      | _ =>
          refine ⟨rfl, rfl, rfl, ?_⟩
          first | exact .inl rfl | exact .log rfl
  | total step => exact sameDay_totalStep _ _ step
  | _ =>
      refine ⟨rfl, rfl, rfl, ?_⟩
      first | exact .inl rfl | exact .log rfl

theorem sameDay_retentionStep
    (before after : State) (step : RetentionStep before after) :
    SameDay before after := by
  cases step <;> refine ⟨rfl, rfl, rfl, ?_⟩ <;>
    first | exact .inl rfl | exact .log rfl

end State

namespace Storage

open Program

variable (config : Config)

/-- The part of `ingest_frame` behind the change of the day. -/
def ingestRest (frame : FqFrame) : Storage Unit := do
  let passes ← passesGate frame
  if passes then
    feedMuxer config frame
    recordProgress config
    checkAndCleanup config

theorem ingestFrame_eq (frame : FqFrame) :
    ingestFrame config frame =
      rolloverIfNewDay config >>= fun _ => ingestRest config frame := rfl

/-- A frame that passes the gate is taken in within one day. -/
theorem passed_within (frame : FqFrame) (passes : Bool) :
    (if passes then (do
      feedMuxer config frame
      recordProgress config
      checkAndCleanup config) else return () : Storage Unit).Within
        SameDay := by
  refine Within.ite (fun _ => ?_) fun _ => Within.pure _
  refine Within.bind ((feedMuxer_within config frame).mono
    State.sameDay_frameStep) fun _ => ?_
  refine Within.bind ((recordProgress_within config).mono
    State.sameDay_progressStep) fun _ => ?_
  exact (checkAndCleanup_within config).mono State.sameDay_retentionStep

theorem ingestRest_within (frame : FqFrame) :
    (ingestRest config frame).Within SameDay :=
  Within.bind ((passesGate_within frame).mono State.sameDay_frameStep)
    (passed_within config frame)

theorem hlsFlushAndDestroy_sameDay :
    (hlsFlushAndDestroy config).Within SameDay :=
  (hlsFlushAndDestroy_within config).mono State.sameDay_flushStep

theorem openSegment_sameDay : (openSegment config).Within SameDay :=
  (openSegment_within config).mono State.sameDay_segmentStep

theorem metaDbEnsureDay_sameDay : metaDbEnsureDay.Within SameDay :=
  Within.bind (Within.modify fun _ => ⟨rfl, rfl, rfl, .log rfl⟩) fun _ =>
    @insertDay_within (fun _ => False) |>.mono State.sameDay_statementStep

end Storage

/-! ## The day that was tried last -/

/-- The day of the year that the last call of `open_today` in the running process
has noted. -/
def lastTriedDay : List Moment → Nat
  | [] => 0
  | moment :: older =>
      if moment.event.isOpened || moment.event.isStarted
      then moment.ws.dayOfYear
      else lastTriedDay older

theorem lastTriedDay_cons
    {moment : Moment} (off : moment.event.offDay = true)
    (older : List Moment) :
    lastTriedDay (moment :: older) = lastTriedDay older := by
  cases event : moment.event <;> rw [event] at off <;>
    first
    | exact absurd off Bool.false_ne_true
    | simp [lastTriedDay, event, Event.isOpened, Event.isStarted]

namespace State

/-- The writer's day is the one tried last. -/
def Tried (state : State) : Prop :=
  state.ws.dayOfYear = lastTriedDay state.trace

theorem Tried.sameDay
    {before after : State} (tried : before.Tried)
    (same : SameDay before after) : after.Tried := by
  rw [Tried, same.yday,
    same.adds.view fun _ older off => lastTriedDay_cons off older]
  exact tried

theorem tried_turnStep
    (before after : State) (step : TurnStep before after)
    (tried : before.Tried) : after.Tried := by
  cases step with
  | flush step => exact tried.sameDay (sameDay_flushStep _ _ step)
  | total step => exact tried.sameDay (sameDay_totalStep _ _ step)
  | statement step => exact tried.sameDay (sameDay_statementStep _ _ step)
  | ensureDay => exact tried.sameDay ⟨rfl, rfl, rfl, .log rfl⟩
  | ingest date yday => exact tried
  | _ => exact tried.sameDay ⟨rfl, rfl, rfl, .inl rfl⟩

end State

/-- `open_today` ends with a note of the day it tried, however it ends. -/
theorem Storage.openToday_tried (config : Config) (state : State) :
    (Storage.openToday config).wp (fun _ => State.Tried) (fun _ => True)
      state := by
  rw [Storage.openToday, Program.wp_bind, wp_log]
  refine Program.wp_then (Program.wp_true _ _) fun folder _ _ => ?_
  refine Program.wp_then (Program.wp_true _ _) fun result last _ => ?_
  rfl

/-- Whenever the writer waits for a frame, its day is the one tried last. -/
theorem writer_tried
    (config : Config) {state : State}
    (reached : (writer config).Reach State.Unused .ready state) :
    state.Tried := by
  have maintains :
      Maintains config State.Unused (fun _ => True) State.Tried := {
    weaker := fun _ _ => trivial
    starts := fun _ _ => trivial
    restarts := fun _ _ => rfl
    opens := fun state _ _ _ _ => Storage.openToday_tried config state
    turns := fun before after step _ => State.tried_turnStep before after step
    frames := fun before after step _ tried =>
      tried.sameDay (State.sameDay_frameStep before after step)
    progresses := fun state tried _ _ =>
      Program.wp_mono ((Storage.recordProgress_within config).keeps
        (fun before after step tried =>
          State.Tried.sameDay tried (State.sameDay_progressStep _ _ step))
        state tried) (fun _ _ tried => tried) fun _ _ => trivial
    cleans := fun state tried _ =>
      Program.wp_mono ((Storage.checkAndCleanup_within config).keeps
        (fun before after step tried =>
          State.Tried.sameDay tried (State.sameDay_retentionStep _ _ step))
        state tried) (fun _ _ tried => tried) fun _ _ => trivial }
  exact (maintains.holds reached).1

/-! ## A rollover that failed -/

/-- Each time a frame reached the gate, `open_today` had been entered before,
since an earlier record. -/
def OpenedFirst (earlier record : List Moment) : Prop :=
  ∀ gate between, gate :: (between ++ earlier) <:+ record →
    gate.event.isGate = true → ∃ moment ∈ between, moment.event = .opening

/-- `open_today` has been entered since an earlier record. -/
def OpenedSince (earlier record : List Moment) : Prop :=
  ∃ opening older, opening.event = .opening ∧ opening :: older <:+ record ∧
    earlier <:+ older

/-- `ingest_frame`, with a certain answer to its first reading of the clock,
enters `rollover_day` before the frame reaches the gate. -/
def RetriesRollover
    (config : Config) (frame : FqFrame) (state : State) (choice : Choice) :
    Prop :=
  ∀ script, OpenedFirst state.trace
    ((Storage.ingestFrame config frame).run state
      (choice :: script)).state.trace

theorem OpenedSince.mono
    {earlier record later : List Moment}
    (opened : OpenedSince earlier record) (grown : record <:+ later) :
    OpenedSince earlier later := by
  obtain ⟨opening, older, isOpening, inside, behind⟩ := opened
  exact ⟨opening, older, isOpening, inside.trans grown, behind⟩

theorem OpenedSince.mem_of_append
    {earlier between : List Moment}
    (opened : OpenedSince earlier (between ++ earlier)) :
    ∃ moment ∈ between, moment.event = .opening := by
  obtain ⟨opening, older, isOpening, ⟨newer, whole⟩, ⟨middle, rfl⟩⟩ := opened
  refine ⟨opening, ?_, isOpening⟩
  have split : newer ++ opening :: middle ++ earlier = between ++ earlier := by
    rw [← whole, List.append_assoc, List.cons_append]
  rw [← List.append_cancel_right split]
  exact List.mem_append_right _ List.mem_cons_self

theorem OpenedFirst.refl (record : List Moment) :
    OpenedFirst record record := by
  intro gate between inside _
  have shorter := inside.length_le
  rw [List.length_cons, List.length_append] at shorter
  omega

/-- Another event keeps this, and so does a gate once `open_today` has been
entered. -/
theorem OpenedFirst.cons
    {earlier record : List Moment}
    (first : OpenedFirst earlier record)
    {moment : Moment}
    (allowed : moment.event.isGate = true → OpenedSince earlier record) :
    OpenedFirst earlier (moment :: record) := by
  intro gate between inside isGate
  rcases List.suffix_cons_iff.mp inside with whole | older
  · obtain ⟨rfl, rfl⟩ := List.cons.inj whole
    exact (allowed isGate).mem_of_append
  · exact first gate between older isGate

/-- Programs that record no gate keep it. -/
theorem Program.Within.keepsOpenedFirst
    {step : State → State → Prop}
    {program : Storage α}
    (within : program.Within step)
    {kind : Event → Bool}
    (adds : ∀ before after, step before after → State.Adds kind before after)
    (noGate : ∀ event, kind event = true → event.isGate = false)
    {earlier : List Moment}
    (state : State)
    (holds : OpenedFirst earlier state.trace) :
    program.wp (fun _ after => OpenedFirst earlier after.trace)
      (fun after => OpenedFirst earlier after.trace) state := by
  refine @Program.Within.keeps _ _ _ _ _ within
    (fun after => OpenedFirst earlier after.trace) ?_ state holds
  intro before after last held
  rcases adds before after last with same | ⟨event, isKind, grown⟩
  · rw [same]
    exact held
  · rw [grown]
    apply held.cons
    intro isGate
    rw [noGate event isKind] at isGate
    exact absurd isGate Bool.false_ne_true

namespace Storage

open Program

variable (config : Config)

/-- The first thing `open_today` does is recorded. -/
theorem openToday_begins (state : State) :
    (openToday config).wp
      (fun _ after => (state.log .opening).trace <:+ after.trace)
      (fun after => (state.log .opening).trace <:+ after.trace) state := by
  rw [openToday, wp_bind, wp_log]
  refine Within.grows (Within.bind (openFolder_within.mono fun _ _ =>
    DayStep.folder) fun folder => ?_) State.adds_dayStep _ List.suffix_rfl
  refine Within.bind (Within.ite (fun _ => Within.pure _) fun _ =>
    (openSegment_within config).mono fun _ _ => DayStep.segment)
    fun result => ?_
  exact Within.bind (Within.modify fun state =>
    DayStep.opened state result) fun _ => Within.pure _

/-- `rollover_day` enters `open_today`. -/
theorem rolloverDay_opens
    {earlier : List Moment} {state : State}
    (grown : earlier <:+ state.trace) :
    (rolloverDay config).wp (fun _ after => OpenedSince earlier after.trace)
      (fun _ => True) state := by
  rw [rolloverDay]
  refine wp_then (wp_mono ((hlsFlushAndDestroy_sameDay config).grows
    (fun _ _ same => same.adds) state grown) (fun _ _ held => held)
    fun _ _ => trivial) fun _ state grown => ?_
  refine wp_then (wp_mono (eventDbUpdateTotalFrames_within.grows
    State.adds_totalStep state grown) (fun _ _ held => held)
    fun _ _ => trivial) fun _ state grown => ?_
  rw [wp_bind, eventDbClose, wp_setWs]
  refine wp_then (wp_mono (openToday_begins config _) (fun _ _ held => held)
    fun _ _ => trivial) fun result state begun => ?_
  have opened : OpenedSince earlier state.trace :=
    ⟨_, _, rfl, begun, grown⟩
  refine wp_then (wp_mono (Within.grows (Within.ite (fun _ =>
    metaDbEnsureDay_sameDay) fun _ => Within.pure _)
    (fun _ _ same => same.adds) state List.suffix_rfl) (fun _ _ held => held)
    fun _ _ => trivial) fun _ state grown => ?_
  exact opened.mono grown

/-- No rollover reaches the gate. -/
theorem rolloverDay_noGate
    {earlier : List Moment} {state : State}
    (first : OpenedFirst earlier state.trace) :
    (rolloverDay config).wp (fun _ after => OpenedFirst earlier after.trace)
      (fun after => OpenedFirst earlier after.trace) state := by
  refine (rolloverDay_within config).keepsOpenedFirst State.adds_dayStep ?_
    state first
  intro event isDay
  cases event <;> first | rfl | exact absurd isDay Bool.false_ne_true

/-- Behind a rollover, the frame may reach the gate. -/
theorem ingestRest_openedFirst
    (frame : FqFrame) {earlier : List Moment} {state : State}
    (first : OpenedFirst earlier state.trace)
    (opened : OpenedSince earlier state.trace) :
    (ingestRest config frame).wp
      (fun _ after => OpenedFirst earlier after.trace)
      (fun after => OpenedFirst earlier after.trace) state := by
  have kept := @Within.keeps _ _ _ _ _ (ingestRest_within config frame)
    (fun after => OpenedFirst earlier after.trace ∧
      OpenedSince earlier after.trace) ?_ state ⟨first, opened⟩
  · exact wp_mono kept (fun _ _ both => both.1) fun _ both => both.1
  rintro before after same ⟨first, opened⟩
  rcases same.adds with quiet | ⟨event, _, grown⟩
  · rw [quiet]
    exact ⟨first, opened⟩
  · rw [grown]
    exact ⟨first.cons fun _ => opened, opened.mono (List.suffix_cons _ _)⟩

/-- A frame that is taken in reaches the gate at once. -/
theorem ingestRest_gates (frame : FqFrame) (state : State) :
    (ingestRest config frame).wp
      (fun _ after => (state.log (.gate frame.isKey)).trace <:+ after.trace)
      (fun after => (state.log (.gate frame.isKey)).trace <:+ after.trace)
      state := by
  rw [ingestRest]
  refine wp_via
    (fun _ after => (state.log (.gate frame.isKey)).trace <:+ after.trace)
    ?_ fun passes reached grown => ?_
  · rw [passesGate, wp_bind, wp_log, wp_bind, wp_current]
    apply wp_split
    · exact fun _ => List.suffix_rfl
    intro _
    apply wp_split
    · exact fun _ => List.suffix_cons _ _
    · exact fun _ => List.suffix_rfl
  · exact (passed_within config frame passes).grows
      (fun _ _ same => same.adds) reached grown

/-- `ingest_frame` with an answer to its first reading of the clock. -/
theorem run_ingestFrame
    (frame : FqFrame) (state : State) (choice : Choice)
    (script : List Choice) :
    (ingestFrame config frame).run state (choice :: script) =
      (do
        (if choice.tm.yday ≠ state.ws.dayOfYear then do
          let _ ← rolloverDay config
        else return ())
        ingestRest config frame : Storage Unit).run
          (state.log (.ingest choice.tm.date choice.tm.yday)) script := rfl

/-- Another day of the year makes `ingest_frame` roll over. -/
theorem retries_of_ne
    {frame : FqFrame} {state : State} {choice : Choice}
    (other : choice.tm.yday ≠ state.ws.dayOfYear) :
    RetriesRollover config frame state choice := by
  intro script
  rw [run_ingestFrame, if_pos other]
  have first : OpenedFirst state.trace
      (state.log (.ingest choice.tm.date choice.tm.yday)).trace :=
    (OpenedFirst.refl _).cons nofun
  refine @Outcome.Meets.state _ _ _
    (fun after : State => OpenedFirst state.trace after.trace) _
    ((wp_iff_run _ _ _ _).mp ?_ script)
  have rolled := wp_and (rolloverDay_noGate config first)
    (rolloverDay_opens config (List.suffix_cons _ _))
  rw [wp_bind, wp_bind]
  refine wp_mono rolled ?_ fun _ both => both.1
  exact fun _ reached both =>
    ingestRest_openedFirst config frame both.1 both.2

/-- The same day of the year does not. -/
theorem not_retries_of_eq
    {frame : FqFrame} {state : State} {choice : Choice}
    (same : choice.tm.yday = state.ws.dayOfYear) :
    ¬RetriesRollover config frame state choice := by
  intro retries
  have first := retries []
  rw [run_ingestFrame, if_neg (not_not.mpr same)] at first
  let read := state.log (.ingest choice.tm.date choice.tm.yday)
  have gates : (read.log (.gate frame.isKey)).trace <:+
      ((ingestRest config frame).run read []).state.trace :=
    @Outcome.Meets.state _ _ _
      (fun after : State =>
        (read.log (.gate frame.isKey)).trace <:+ after.trace) _
      ((wp_iff_run _ _ _ _).mp (ingestRest_gates config frame read) [])
  obtain ⟨moment, member, isOpening⟩ := first ⟨.gate frame.isKey, read.ws,
    read.disk⟩ [⟨.ingest choice.tm.date choice.tm.yday, state.ws, state.disk⟩]
    gates rfl
  rw [List.mem_singleton.mp member] at isOpening
  exact nomatch isOpening

/-- So `ingest_frame` goes by the day of the year alone. -/
theorem retries_iff
    {frame : FqFrame} {state : State} {choice : Choice} :
    RetriesRollover config frame state choice ↔
      choice.tm.yday ≠ state.ws.dayOfYear :=
  ⟨fun retries same => not_retries_of_eq config same retries,
    retries_of_ne config⟩

end Storage

/-- A rollover has failed in the running process, and none has succeeded
since. -/
structure FailedRollover
    (record : List Moment) (failed : Moment) (since : List Moment) :
    Prop where
  inside : since ++ [failed] <+: record
  failure : ∃ result, failed.event = .opened result ∧ result ≠ 0
  noSuccess : ∀ moment ∈ since,
    moment.event ≠ .started ∧ moment.event ≠ .opened 0

/-- The failed rollover by its place in the record. -/
theorem FailedRollover.of_place
    {record : List Moment} (place : Fin record.length)
    (failure : ∃ result, (record.get place).event = .opened result ∧
      result ≠ 0)
    (noSuccess : ∀ moment ∈ record.take place,
      moment.event ≠ .started ∧ moment.event ≠ .opened 0) :
    FailedRollover record (record.get place) (record.take place) := by
  refine ⟨?_, failure, noSuccess⟩
  rw [List.get_eq_getElem, List.take_append_getElem]
  exact List.take_prefix _ _

/-- A reading of the clock finds the day that `open_today` noted. -/
def Tm.IsDay (tm : Tm) (ws : WriterState) : Prop :=
  tm.date = ws.date ∧ tm.yday = ws.dayOfYear

/-- The last rollover that was tried, if any, was to another day of the year. -/
def TriedElsewhere (failed : Moment) (since : List Moment) : Prop :=
  ∃ attempt, since.find? (fun moment => moment.event.isOpened) = some attempt ∧
    attempt.ws.dayOfYear ≠ failed.ws.dayOfYear

/-- The day tried last is that of the last attempt, or of the failed rollover. -/
theorem FailedRollover.lastTriedDay_ne_iff
    {record since : List Moment} {failed : Moment}
    (rollover : FailedRollover record failed since) :
    lastTriedDay record ≠ failed.ws.dayOfYear ↔
      TriedElsewhere failed since := by
  obtain ⟨⟨older, rfl⟩, ⟨result, isFailed, _⟩, noSuccess⟩ := rollover
  induction since with
  | nil => simp [lastTriedDay, isFailed, Event.isOpened, TriedElsewhere]
  | cons moment since inductionHypothesis =>
      have later := inductionHypothesis fun other member =>
        noSuccess other (List.mem_cons_of_mem _ member)
      have running : moment.event.isStarted = false := by
        have goesOn := (noSuccess moment List.mem_cons_self).1
        cases event : moment.event <;> first | rfl | exact absurd event goesOn
      rw [List.cons_append, List.cons_append, lastTriedDay, running,
        Bool.or_false, TriedElsewhere, List.find?_cons]
      cases moment.event.isOpened with
      | true => simp
      | false => exact later

/-- After a rollover has failed, and as long as none succeeds, a later frame of
that day makes `ingest_frame` roll over before anything else exactly when the last
rollover tried since was to another day of the year: never, unless the clock has
left that day and come back to it. -/
theorem failed_rollover_retried_iff
    (config : Config) {state : State}
    (reached : (writer config).Reach State.Unused .ready state)
    {failed : Moment} {since : List Moment}
    (rollover : FailedRollover state.trace failed since)
    (frame : FqFrame) {choice : Choice}
    (sameDay : choice.tm.IsDay failed.ws) :
    RetriesRollover config frame state choice ↔
      TriedElsewhere failed since := by
  rw [Storage.retries_iff, sameDay.2, writer_tried config reached,
    ← rollover.lastTriedDay_ne_iff]
  exact ne_comm

/-- On the second day no directory can be made.  The rollover fails, and no later
frame of that day makes `ingest_frame` try it again. -/
theorem failed_rollover_not_retried :
    let frame : FqFrame :=
      { data := some ⟨0, [0]⟩, len := 1, isKey := false, ptsUs := 0 }
    let second : Choice := { ok := false, tm := { mday := 2, yday := 1 } }
    let start := ((writer {}).boot.run (State.restart {})
      (List.replicate 40 ({} : Choice))).state
    let state := (((writer {}).serve frame).run start
      (List.replicate 20 second)).state
    (writer {}).Reach State.Unused .ready state ∧
      ∃ failed since, FailedRollover state.trace failed since ∧
        second.tm.IsDay failed.ws ∧
          ¬RetriesRollover {} frame state second := by
  intro frame second start state
  have booted : (writer {}).Reach State.Unused .ready start :=
    Daemon.Reach.booted
      (@Daemon.Reach.initial _ _ _ (writer {}) State.Unused {} rfl)
      (by decide +kernel)
  let place : Fin state.trace.length := ⟨2, by decide +kernel⟩
  refine ⟨Daemon.Reach.served booted (by decide +kernel), _, _,
    FailedRollover.of_place place ⟨-1, by decide +kernel, by decide⟩
      (by decide +kernel), ⟨by decide +kernel, by decide +kernel⟩, ?_⟩
  exact Storage.not_retries_of_eq {} (by decide +kernel)

/-- The rollovers to the second and to the third day fail, and then the clock goes
back to the second day. -/
theorem failed_rollover_retried_iff_clock_back :
    let frame : FqFrame :=
      { data := some ⟨0, [0]⟩, len := 1, isKey := false, ptsUs := 0 }
    let second : Choice := { ok := false, tm := { mday := 2, yday := 1 } }
    let third : Choice := { ok := false, tm := { mday := 3, yday := 2 } }
    let start := ((writer {}).boot.run (State.restart {})
      (List.replicate 40 ({} : Choice))).state
    let middle := (((writer {}).serve frame).run start
      (List.replicate 20 second)).state
    let state := (((writer {}).serve frame).run middle
      (List.replicate 20 third)).state
    RetriesRollover {} frame state second := by
  intro frame second third start middle state
  have booted : (writer {}).Reach State.Unused .ready start :=
    Daemon.Reach.booted
      (@Daemon.Reach.initial _ _ _ (writer {}) State.Unused {} rfl)
      (by decide +kernel)
  have reached : (writer {}).Reach State.Unused .ready state :=
    Daemon.Reach.served (Daemon.Reach.served booted (by decide +kernel))
      (by decide +kernel)
  let place : Fin state.trace.length := ⟨12, by decide +kernel⟩
  have rollover := FailedRollover.of_place place
    ⟨-1, by decide +kernel, by decide⟩ (by decide +kernel)
  apply (failed_rollover_retried_iff {} reached rollover frame
    ⟨by decide +kernel, by decide +kernel⟩).mpr
  exact ⟨Option.get _ (by decide +kernel), (Option.some_get _).symm,
    by decide +kernel⟩

end MotionSense
