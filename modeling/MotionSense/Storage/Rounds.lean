import MotionSense.Storage.Cleanup

/-!
# Invariants of the writer

Two rules for what holds in every history of the writer.  By the first, one
condition holds wherever the writer is and a stronger one between its parts: the
parts that may break the stronger one on their way (opening a day, the accounting
of a frame, cleaning up) are looked at as a whole, the others step by step.  By
the second, what every step keeps holds everywhere.  No removal is under way
outside the cleaning up.
-/

namespace MotionSense

/-- A moment of a record and what came before it, by its place. -/
theorem suffix_cons_iff_place
    {moment : Moment} {older moments : List Moment} :
    moment :: older <:+ moments ↔
      ∃ place : Fin moments.length,
        moments.get place = moment ∧ moments.drop (place + 1) = older := by
  constructor
  · rintro ⟨newer, rfl⟩
    refine ⟨⟨newer.length, by simp⟩, by simp, ?_⟩
    rw [List.drop_append, List.drop_eq_nil_of_le (Nat.le_succ _)]
    simp
  · rintro ⟨⟨place, inside⟩, rfl, rfl⟩
    rw [List.get_eq_getElem, ← List.drop_eq_getElem_cons inside]
    exact List.drop_suffix place moments

/-- One step of leaving a day, or of work on `VideoMetadata`, around
`open_today`. -/
inductive TurnStep : State → State → Prop
  | flush {before after : State} (step : FlushStep before after) :
      TurnStep before after
  | total {before after : State} (step : TotalStep before after) :
      TurnStep before after
  | statement {before after : State}
      (step : StatementStep (fun _ => False) before after) :
      TurnStep before after
  | close (state : State) :
      TurnStep state (state.updateWs fun ws => { ws with eventDb := none })
  | openMeta (state : State) (opened : Bool) :
      TurnStep state (state.updateWs fun ws => { ws with metaDb := opened })
  | createMeta (state : State) :
      TurnStep state (state.updateDisk fun disk =>
        { disk with videoMetadata := some disk.metaRows })
  | ensureDay (state : State) :
      TurnStep state (state.log .ensureDay)
  | ingest (state : State) (date : CString) (yday : Nat) :
      TurnStep state (state.log (.ingest date yday))

/-- These are steps of changing days. -/
theorem TurnStep.day
    {before after : State} (step : TurnStep before after) :
    DayStep before after := by
  cases step with
  | flush step => exact .flush step
  | total step => exact .total step
  | statement step =>
      refine .segment (.db (.statement ?_))
      cases step with
      | called kind succeeded => exact .called _ kind succeeded
      | insert date ready => exact .insert _ date ready
      | upsert date count ready => exact .upsert _ date count ready
      | write file update written => exact absurd written id
  | close => exact .segment (.db (.openLogs _ none))
  | openMeta opened => exact .segment (.db (.openMeta _ opened))
  | createMeta => exact .segment (.db (.createMeta _))
  | ensureDay => exact .ensureDay _
  | ingest date yday => exact .ingest _ date yday

theorem State.records_turnStep
    (before after : State) (step : TurnStep before after) :
    Adds Event.ofRecording before after :=
  records_dayStep _ _ step.day

namespace Storage

open Program

/-! ## Parts of the writer -/


/-- A program that only records keeps an invariant of its steps, and begins and
returns with no removal under way. -/
theorem keeps_recording
    {step : State → State → Prop}
    {program : Storage α}
    (within : program.Within step)
    (records : ∀ before after, step before after →
      State.Adds Event.ofRecording before after)
    {invariant : State → Prop}
    (closed : ∀ before after, step before after →
      underRemoval before.trace = none → invariant before → invariant after)
    {state : State}
    (holds : invariant state)
    (idle : underRemoval state.trace = none) :
    program.wp
      (fun _ after => invariant after ∧ underRemoval after.trace = none)
      (fun after => invariant after ∧ underRemoval after.trace = none)
      state := by
  refine @Program.Within.keeps _ _ _ _ _ within
    (fun after => invariant after ∧ underRemoval after.trace = none)
    ?_ state ⟨holds, idle⟩
  rintro before after last ⟨holds, idle⟩
  refine ⟨closed before after last idle holds, ?_⟩
  rw [(records before after last).view fun _ earlier =>
    underRemoval_cons earlier]
  exact idle

/-- An invariant of the steps of cleaning up is kept by cleaning up. -/
theorem keeps_cleanup
    (config : Config)
    {invariant : State → Prop}
    (closed : ∀ before after, CleanupStep config before after →
      invariant before → invariant after)
    {state : State}
    (holds : invariant state)
    (idle : underRemoval state.trace = none) :
    (checkAndCleanup config).wp
      (fun _ after => invariant after ∧ underRemoval after.trace = none)
      invariant state := by
  have carried : ∀ after, CleanupPath config state after →
      invariant after := by
    intro after path
    induction path with
    | refl => exact holds
    | tail _ last earlier => exact closed _ _ last earlier
  exact wp_mono (checkAndCleanup_cleanup config idle)
    (fun _ after both => ⟨carried after both.1, both.2⟩) carried

/-- A frame that was fed is counted. -/
theorem feedMuxer_counts
    (config : Config) (frame : FqFrame) (state : State) :
    (feedMuxer config frame).wp (fun _ after => 0 < after.ws.frameCount)
      (fun _ => True) state := by
  rw [feedMuxer, wp_bind, wp_divide_of_ne (by decide), wp_bind, wp_setWs,
    wp_bind, wp_log]
  exact wp_then (wp_true _ _) fun _ state _ => Nat.succ_pos _

theorem eventDbClose_turn : eventDbClose.Within TurnStep :=
  Within.modify TurnStep.close

theorem hlsFlushAndDestroy_turn (config : Config) :
    (hlsFlushAndDestroy config).Within TurnStep :=
  (hlsFlushAndDestroy_within config).mono fun _ _ => TurnStep.flush

/-- After flushing there is no playlist. -/
theorem hlsFlushAndDestroy_silences (config : Config) (state : State) :
    (hlsFlushAndDestroy config).wp (fun _ after => after.ws.m3u = none)
      (fun _ => True) state := by
  rw [hlsFlushAndDestroy, wp_bind, wp_current]
  exact wp_then (wp_true _ _) fun _ _ _ => rfl

theorem metaDbEnsureDay_turn : metaDbEnsureDay.Within TurnStep :=
  Within.bind (Within.modify TurnStep.ensureDay) fun _ =>
    insertDay_within.mono fun _ _ => TurnStep.statement

theorem metaDbInit_turn : metaDbInit.Within TurnStep := by
  have called : ∀ kind possible, (call kind possible).Within TurnStep :=
    fun kind possible => (call_statementStep kind possible).mono
      fun _ _ => TurnStep.statement
  refine Within.bind (called _ _) fun opened => ?_
  refine Within.bind
    (Within.modify fun state => TurnStep.openMeta state opened.ok) fun _ => ?_
  refine Within.ite (fun _ => Within.pure _) fun _ => ?_
  refine Within.bind (called _ _) fun created => ?_
  refine Within.ite (fun _ => Within.pure _) fun _ => ?_
  exact Within.bind (Within.modify TurnStep.createMeta) fun _ => Within.pure _

end Storage

/-! ## The rules -/

section Rules

variable (config : Config)

/-- A condition that holds everywhere and a stronger one that holds between the
parts of the writer. -/
structure Maintains (initial anywhere ready : State → Prop) : Prop where
  weaker : ∀ state, ready state → anywhere state
  starts : ∀ state, initial state → anywhere state
  restarts : ∀ state, anywhere state → ready state.restart
  opens : ∀ state, ready state → underRemoval state.trace = none →
    state.ws.eventDb = none → state.ws.m3u = none →
      (Storage.openToday config).wp (fun _ => ready) anywhere state
  turns : ∀ before after, TurnStep before after →
    underRemoval before.trace = none → ready before → ready after
  frames : ∀ before after, FrameStep before after →
    underRemoval before.trace = none → ready before → ready after
  progresses : ∀ state, ready state → underRemoval state.trace = none →
    0 < state.ws.frameCount →
      (Storage.recordProgress config).wp (fun _ => ready) anywhere state
  cleans : ∀ state, ready state → underRemoval state.trace = none →
    (Storage.checkAndCleanup config).wp (fun _ => ready) anywhere state

namespace Maintains

open Program

variable {config} {initial anywhere ready : State → Prop}
  (maintains : Maintains config initial anywhere ready)

/-- The condition between the parts, with no removal under way. -/
abbrev Idle (ready : State → Prop) (state : State) : Prop :=
  ready state ∧ underRemoval state.trace = none

/-- A program that only records returns with no removal under way. -/
theorem idle_of_within
    {step : State → State → Prop}
    {program : Storage α}
    (within : program.Within step)
    (records : ∀ before after, step before after →
      State.Adds Event.ofRecording before after)
    {state : State}
    (kept : program.wp (fun _ => ready) anywhere state)
    (idle : underRemoval state.trace = none) :
    program.wp (fun _ => Idle ready) anywhere state := by
  have same := @Program.Within.ignored _ _ _ _ within _ records underRemoval
    (fun _ earlier => underRemoval_cons earlier) state
  exact wp_mono (wp_and kept same)
    (fun _ _ both => ⟨both.1, both.2.trans idle⟩) fun _ both => both.1

include maintains

theorem within_turn
    {program : Storage α} (within : program.Within TurnStep)
    {state : State} (idle : Idle ready state) :
    program.wp (fun _ => Idle ready) anywhere state :=
  wp_mono (Storage.keeps_recording within State.records_turnStep
    maintains.turns idle.1 idle.2) (fun _ _ both => both)
    fun _ both => maintains.weaker _ both.1

theorem within_frame
    {program : Storage α} (within : program.Within FrameStep)
    {state : State} (idle : Idle ready state) :
    program.wp (fun _ => Idle ready) anywhere state :=
  wp_mono (Storage.keeps_recording within State.records_frameStep
    maintains.frames idle.1 idle.2) (fun _ _ both => both)
    fun _ both => maintains.weaker _ both.1

theorem openToday
    {state : State} (idle : Idle ready state)
    (closed : state.ws.eventDb = none) (silent : state.ws.m3u = none) :
    (Storage.openToday config).wp (fun _ => Idle ready) anywhere state :=
  idle_of_within (Storage.openToday_within config) State.records_dayStep
    (maintains.opens state idle.1 idle.2 closed silent) idle.2

/-- Closing the database of a day. -/
theorem close {state : State} (idle : Idle ready state) :
    Idle ready (state.updateWs fun ws => { ws with eventDb := none }) :=
  ⟨maintains.turns _ _ (.close state) idle.2 idle.1, idle.2⟩

theorem rolloverDay {state : State} (idle : Idle ready state) :
    (Storage.rolloverDay config).wp (fun _ => Idle ready) anywhere state := by
  rw [Storage.rolloverDay]
  refine wp_then (wp_mono (wp_and (maintains.within_turn
    (Storage.hlsFlushAndDestroy_turn config) idle)
    (Storage.hlsFlushAndDestroy_silences config state)) (fun _ _ both => both)
    fun _ both => both.1) ?_
  rintro _ state ⟨idle, silent⟩
  have same := @Within.preserves _ _ _ _ _ _
    Storage.eventDbUpdateTotalFrames_within (fun after => after.ws.m3u)
    (fun _ _ step => by cases step <;> rfl) state
  refine wp_then (wp_mono (wp_and (maintains.within_turn
    (Storage.eventDbUpdateTotalFrames_within.mono fun _ _ => TurnStep.total)
    idle) same) (fun _ _ both => both) fun _ both => both.1) ?_
  rintro _ state ⟨idle, sameM3u⟩
  rw [wp_bind, Storage.eventDbClose, Storage.wp_setWs]
  refine wp_then (maintains.openToday (maintains.close idle) rfl
    (sameM3u.trans silent)) fun result state idle => ?_
  refine wp_via (fun _ => Idle ready) (wp_split (fun _ => ?_) fun _ => idle)
    fun _ _ idle => idle
  exact maintains.within_turn Storage.metaDbEnsureDay_turn idle

theorem ingestFrame
    (frame : FqFrame) {state : State} (idle : Idle ready state) :
    (Storage.ingestFrame config frame).wp (fun _ => Idle ready) anywhere
      state := by
  rw [Storage.ingestFrame]
  refine wp_via (fun _ => Idle ready) ?_ fun _ state idle => ?_
  · rw [Storage.rolloverIfNewDay]
    refine wp_then (maintains.within_turn Storage.todayString_within idle)
      fun today state idle => ?_
    have noted : Idle ready (state.log (.ingest today.1 today.2)) :=
      ⟨maintains.turns _ _ (.ingest state today.1 today.2) idle.2 idle.1,
        idle.2⟩
    rw [wp_bind, Storage.wp_log, wp_bind, wp_current]
    refine wp_split (fun _ => ?_) fun _ => noted
    exact wp_then (maintains.rolloverDay noted) fun _ _ idle => idle
  refine wp_then (maintains.within_frame (Storage.passesGate_within frame)
    idle) fun passes state idle => ?_
  refine wp_split (fun _ => ?_) fun _ => idle
  refine wp_then (wp_mono (wp_and (maintains.within_frame
    (Storage.feedMuxer_within config frame) idle)
    (Storage.feedMuxer_counts config frame state)) (fun _ _ both => both)
    fun _ both => both.1) ?_
  rintro _ state ⟨idle, counted⟩
  refine wp_then (idle_of_within (Storage.recordProgress_within config)
    State.records_progressStep
    (maintains.progresses state idle.1 idle.2 counted) idle.2)
    fun _ state idle => ?_
  have cleaned := wp_and (maintains.cleans state idle.1 idle.2)
    (Storage.checkAndCleanup_cleanup config idle.2)
  exact wp_mono cleaned (fun _ _ both => ⟨both.1, both.2.2⟩)
    fun _ both => both.1

theorem writerBoot {state : State} (holds : anywhere state) :
    (Storage.writerBoot config).wp
      (fun succeeded after =>
        if succeeded then Idle ready after else anywhere after)
      anywhere state.restart := by
  have restarted : Idle ready state.restart :=
    ⟨maintains.restarts state holds, rfl⟩
  rw [Storage.writerBoot]
  refine wp_then (maintains.openToday restarted rfl rfl)
    fun opened state idle => ?_
  refine wp_split (fun _ => maintains.weaker _ idle.1) fun _ => ?_
  refine wp_then (maintains.within_turn Storage.metaDbInit_turn idle)
    fun initialised state idle => ?_
  refine wp_split (fun _ => ?_) fun _ => ?_
  · refine wp_then (maintains.within_turn
      (Storage.hlsFlushAndDestroy_turn config) idle) fun _ state idle => ?_
    exact wp_then (maintains.within_turn Storage.eventDbClose_turn idle)
      fun _ state idle => maintains.weaker _ idle.1
  · exact wp_then (maintains.within_turn Storage.metaDbEnsureDay_turn idle)
      fun _ _ idle => idle

theorem writerStop {state : State} (idle : Idle ready state) :
    (Storage.writerStop config).wp (fun _ => anywhere) anywhere state := by
  rw [Storage.writerStop]
  refine wp_then (maintains.within_turn
    (Storage.hlsFlushAndDestroy_turn config) idle) fun _ state idle => ?_
  refine wp_then (maintains.within_turn
    (Storage.eventDbUpdateTotalFrames_within.mono fun _ _ => TurnStep.total)
    idle) fun _ state idle => ?_
  exact maintains.weaker _ (maintains.close idle).1

/-- Both conditions hold in every history of the writer. -/
theorem holds
    {phase : Daemon.Phase} {state : State}
    (reached : (writer config).Reach initial phase state) :
    phase.holds anywhere (Idle ready) state :=
  Daemon.Reach.invariant maintains.starts
    (fun _ holds => maintains.writerBoot holds)
    (fun frame _ idle => maintains.ingestFrame frame idle)
    (fun _ idle => maintains.writerStop idle) reached

/-- The weaker condition holds everywhere. -/
theorem everywhere
    {phase : Daemon.Phase} {state : State}
    (reached : (writer config).Reach initial phase state) :
    anywhere state := by
  have held := maintains.holds reached
  cases phase with
  | off => exact held
  | ready => exact maintains.weaker state held.1

end Maintains

/-- What every step of the running writer keeps holds while it runs, and what
follows from it holds everywhere. -/
theorem writer_keeps_running
    {initial anywhere running : State → Prop}
    (weaker : ∀ state, running state → anywhere state)
    (starts : ∀ state, initial state → anywhere state)
    (restarts : ∀ state, anywhere state → running state.restart)
    (day : ∀ before after, DayStep before after →
      underRemoval before.trace = none → running before → running after)
    (frame : ∀ before after, FrameStep before after →
      underRemoval before.trace = none → running before → running after)
    (progress : ∀ before after, ProgressStep before after →
      underRemoval before.trace = none → running before → running after)
    (cleanup : ∀ before after, CleanupStep config before after →
      running before → running after)
    {phase : Daemon.Phase}
    {state : State}
    (reached : (writer config).Reach initial phase state) :
    phase.holds anywhere running state := by
  have maintains : Maintains config initial anywhere running := by
    refine ⟨weaker, starts, restarts, ?_, ?_, frame, ?_, ?_⟩
    · intro state holds idle _ _
      exact Program.wp_mono (Storage.keeps_recording
        (Storage.openToday_within config) State.records_dayStep day holds idle)
        (fun _ _ both => both.1) fun _ both => weaker _ both.1
    · exact fun before after step => day before after step.day
    · intro state holds idle _
      exact Program.wp_mono (Storage.keeps_recording
        (Storage.recordProgress_within config) State.records_progressStep
        progress holds idle) (fun _ _ both => both.1)
        fun _ both => weaker _ both.1
    · intro state holds idle
      exact Program.wp_mono (Storage.keeps_cleanup config cleanup holds idle)
        (fun _ _ both => both.1) weaker
  have held := maintains.holds reached
  cases phase with
  | off => exact held
  | ready => exact held.1

/-- What every step and every start keeps holds in every history of the
writer. -/
theorem writer_keeps
    {initial invariant : State → Prop}
    (starts : ∀ state, initial state → invariant state)
    (restarts : ∀ state, invariant state → invariant state.restart)
    (day : ∀ before after, DayStep before after →
      underRemoval before.trace = none → invariant before → invariant after)
    (frame : ∀ before after, FrameStep before after →
      underRemoval before.trace = none → invariant before → invariant after)
    (progress : ∀ before after, ProgressStep before after →
      underRemoval before.trace = none → invariant before → invariant after)
    (cleanup : ∀ before after, CleanupStep config before after →
      invariant before → invariant after)
    {phase : Daemon.Phase}
    {state : State}
    (reached : (writer config).Reach initial phase state) :
    invariant state := by
  have held := writer_keeps_running config (fun _ holds => holds) starts
    restarts day frame progress cleanup reached
  cases phase <;> exact held

end Rules
end MotionSense
