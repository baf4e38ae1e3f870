import MotionSense.Storage.Steps

/-!
# Cleaning up, with what each step rests on

The steps of `check_and_cleanup` again, each with what has been checked before
it: a removal is of the first pending day, only its tree is touched until it
returns, a row goes after its directory, and a day is scheduled right after it
was found to be the oldest candidate with too little space left.
-/

namespace MotionSense

/-- The day whose removal has begun, and has not returned, in the running
process. -/
def underRemoval : List Moment → Option CString
  | [] => none
  | moment :: older =>
      match moment.event with
      | .removing date => some date
      | .removed _ _ => none
      | .started => none
      | _ => underRemoval older

/-- One step of working on pending deletions. -/
inductive RemovalStep : State → State → Prop
  | called (state : State) (kind : Call) (succeeded : Bool) :
      RemovalStep state (state.log (.called kind succeeded))
  | removing (state : State) (date : CString)
      (pending : MetaRow.firstPending state.disk.metaRows = some date) :
      RemovalStep state (state.log (.removing date))
  | removePart (state : State) (date : CString) (removal : Removal)
      (under : underRemoval state.trace = some date) :
      RemovalStep state
        (state.updateDisk fun disk => disk.removePart date removal)
  | removeDay (state : State) (date : CString)
      (under : underRemoval state.trace = some date) :
      RemovalStep state (state.updateDisk fun disk => disk.removeDay date)
  | removed (state : State) (date : CString) (result : Int)
      (under : underRemoval state.trace = some date)
      (gone : result = 0 → state.disk.day date = none) :
      RemovalStep state (state.log (.removed date result))
  | delete (state : State) (date : CString)
      (idle : underRemoval state.trace = none)
      (gone : state.disk.day date = none) :
      RemovalStep state ((state.updateDisk fun disk =>
        disk.updateMeta (MetaRow.delete date)).log (.rowDeleted date))

/-- `check_and_cleanup` has just found too little space and a day to be the
oldest candidate, and the statement that schedules it has succeeded. -/
def Announced (config : Config) (date : CString) (state : State) : Prop :=
  ∃ freeMb older,
    state.trace = ⟨.called .sql true, state.ws, state.disk⟩ ::
      ⟨.scheduling date freeMb, state.ws, state.disk⟩ :: older ∧
    freeMb < config.diskFreeMinMb ∧
    MetaRow.oldestCandidate state.ws.date state.disk.metaRows = some date

/-- One step of cleaning up. -/
inductive CleanupStep (config : Config) : State → State → Prop
  | removal {before after : State} (step : RemovalStep before after) :
      CleanupStep config before after
  | notDue (state : State)
      (early : state.ws.tsSinceCleanup < config.cleanupEveryTs) :
      CleanupStep config state (state.log .notDue)
  | reset (state : State) :
      CleanupStep config state
        ((state.updateWs fun ws => { ws with tsSinceCleanup := 0 }).log
          .cleaning)
  | scheduling (state : State) (date : CString) (freeMb : Nat)
      (low : freeMb < config.diskFreeMinMb)
      (oldest : MetaRow.oldestCandidate state.ws.date state.disk.metaRows =
        some date) :
      CleanupStep config state (state.log (.scheduling date freeMb))
  | schedule (state : State) (date : CString)
      (announced : Announced config date state) :
      CleanupStep config state (state.updateDisk fun disk =>
        disk.updateMeta (MetaRow.schedule date))

/-- Events of the writer other than its start and those of cleaning up. -/
def Event.ofRecording : Event → Bool
  | .started | .scheduling _ _ | .removing _ | .removed _ _
  | .rowDeleted _ => false
  | _ => true

namespace State

theorem ofRecording_of_ofDay (event : Event) (listed : event.ofDay = true) :
    event.ofRecording = true := by
  cases event <;> first | rfl | cases listed

theorem ofRecording_of_ofFrame
    (event : Event) (listed : event.ofFrame = true) :
    event.ofRecording = true := by
  cases event <;> first | rfl | cases listed

theorem ofRecording_of_ofMark (event : Event) (listed : event.ofMark = true) :
    event.ofRecording = true := by
  cases event <;> first | rfl | cases listed

theorem ofRecording_of_ofCall (event : Event) (listed : event.ofCall = true) :
    event.ofRecording = true := by
  cases event <;> first | rfl | cases listed

theorem records_dayStep
    (before after : State) (step : DayStep before after) :
    Adds Event.ofRecording before after :=
  (adds_dayStep before after step).mono ofRecording_of_ofDay

theorem records_frameStep
    (before after : State) (step : FrameStep before after) :
    Adds Event.ofRecording before after :=
  (adds_frameStep before after step).mono ofRecording_of_ofFrame

theorem records_progressStep
    (before after : State) (step : ProgressStep before after) :
    Adds Event.ofRecording before after := by
  cases step with
  | marks step =>
      exact (adds_markStep _ _ step).mono ofRecording_of_ofMark
  | total step =>
      exact (adds_totalStep _ _ step).mono ofRecording_of_ofCall
  | lastFps fps => exact .inl rfl
  | judged | motion => exact .log rfl
  | divides divisor => exact .log rfl

end State

theorem underRemoval_cons
    {moment : Moment} (earlier : List Moment)
    (recording : moment.event.ofRecording = true) :
    underRemoval (moment :: earlier) = underRemoval earlier := by
  cases event : moment.event <;> rw [event] at recording <;>
    first
    | exact absurd recording Bool.false_ne_true
    | simp only [underRemoval, event]

theorem date_cleanupStep
    {config : Config} {before after : State}
    (step : CleanupStep config before after) :
    after.ws.date = before.ws.date := by
  cases step with
  | removal step => cases step <;> rfl
  | _ => rfl

namespace Storage

open Program

/-- Steps so far, from a state with no removal under way. -/
abbrev CleanupPath (config : Config) (start : State) : State → Prop :=
  Relation.ReflTransGen (CleanupStep config) start

/-- Steps of work on pending deletions so far. -/
abbrev RemovalPath (start : State) : State → Prop :=
  Relation.ReflTransGen RemovalStep start

theorem call_removalPath
    {start state : State}
    (path : RemovalPath start state)
    (kind : Call) (succeeded : Bool) :
    RemovalPath start (state.log (.called kind succeeded)) :=
  path.tail (RemovalStep.called state kind succeeded)

/-- A removal that succeeds leaves no directory, and nothing else is touched
until it returns. -/
theorem removeRecursive_removal
    {start state : State} {date : CString}
    (path : RemovalPath start state)
    (under : underRemoval state.trace = some date) :
    (removeRecursive date).wp
      (fun result after => RemovalPath start after ∧
        underRemoval after.trace = some date ∧
        (result = 0 → after.disk.day date = none))
      (RemovalPath start) state := by
  rw [removeRecursive, wp_bind, wp_answer]
  refine ⟨path, fun progress => ?_⟩
  rw [wp_bind, wp_setDisk, wp_bind, wp_call]
  have part := path.tail
    (RemovalStep.removePart state date progress.removal under)
  refine ⟨part, fun finished _ => ?_⟩
  have called := call_removalPath part .remove finished.ok
  apply wp_split
  · intro failed
    exact ⟨called, under, fun zero => absurd zero (by decide)⟩
  · intro _
    rw [wp_bind, wp_setDisk]
    refine ⟨called.tail (RemovalStep.removeDay _ date under), under,
      fun _ => ?_⟩
    exact AList.lookup_erase date _

theorem removePathTree_removal
    {start state : State} {date : CString}
    (path : RemovalPath start state)
    (pending : MetaRow.firstPending state.disk.metaRows = some date) :
    (removePathTree date).wp
      (fun result after => RemovalPath start after ∧
        underRemoval after.trace = none ∧
        (result = 0 → after.disk.day date = none))
      (RemovalPath start) state := by
  rw [removePathTree, wp_bind, wp_log, wp_bind, wp_call]
  have begun := path.tail (RemovalStep.removing state date pending)
  refine ⟨begun, fun found _ => ?_⟩
  have called := call_removalPath begun .lstat found.ok
  rw [wp_bind, wp_current]
  refine wp_via
    (fun result after => RemovalPath start after ∧
      underRemoval after.trace = some date ∧
      (result = 0 → after.disk.day date = none)) ?_ ?_
  · apply wp_split
    · intro _
      exact ⟨called, rfl, fun zero => absurd zero (by decide)⟩
    · intro _
      apply wp_split
      · intro missing
        exact ⟨called, rfl, fun _ => Option.isNone_iff_eq_none.mp missing⟩
      · intro _
        exact removeRecursive_removal called rfl
  · rintro result reached ⟨path, under, gone⟩
    rw [wp_bind, wp_log]
    exact ⟨path.tail (RemovalStep.removed reached date result under gone), rfl,
      gone⟩

/-- Work on pending deletions begins and returns with no removal under way. -/
theorem retentionProcessTasks_removal
    (budget : Nat)
    {start state : State}
    (path : RemovalPath start state)
    (idle : underRemoval state.trace = none) :
    (retentionProcessTasks budget).wp
      (fun _ after => RemovalPath start after ∧
        underRemoval after.trace = none)
      (RemovalPath start) state := by
  induction budget generalizing state with
  | zero => exact ⟨path, idle⟩
  | succ budget inductionHypothesis =>
      rw [retentionProcessTasks, wp_bind, wp_call]
      refine ⟨path, fun selected _ => ?_⟩
      have called := call_removalPath path .sql selected.ok
      apply wp_split
      · exact fun _ => ⟨called, idle⟩
      intro _
      rw [wp_bind, wp_current]
      cases pending : MetaRow.firstPending
          (state.log (.called .sql selected.ok)).disk.metaRows with
      | none => exact ⟨called, idle⟩
      | some date =>
          apply wp_split
          · exact fun _ => ⟨called, idle⟩
          intro _
          refine wp_then (removePathTree_removal called pending) ?_
          rintro result reached ⟨path, idle, gone⟩
          apply wp_split
          · exact fun _ => ⟨path, idle⟩
          intro success
          rw [wp_bind, wp_call]
          refine ⟨path, fun deleted _ => ?_⟩
          have again := call_removalPath path .sql deleted.ok
          apply wp_split
          · exact fun _ => ⟨again, idle⟩
          intro _
          rw [wp_bind, wp_setDisk, wp_bind, wp_log]
          apply inductionHypothesis
          · exact again.tail (RemovalStep.delete _ date idle
              (gone (not_not.mp success)))
          · exact idle

theorem removalPath_cleanup
    {config : Config} {start state after : State}
    (path : CleanupPath config start state)
    (later : RemovalPath state after) :
    CleanupPath config start after :=
  path.trans (Relation.ReflTransGen.mono
    (fun _ _ => CleanupStep.removal) _ _ later)

theorem date_cleanupPath
    {config : Config} {start state : State}
    (path : CleanupPath config start state) :
    state.ws.date = start.ws.date := by
  induction path with
  | refl => rfl
  | tail _ last earlier => exact (date_cleanupStep last).trans earlier

/-- The day found is the oldest candidate of the moment. -/
theorem metaDbOldestRetentionCandidate_oldest
    {config : Config} {start state : State} (today : CString)
    (path : CleanupPath config start state)
    (idle : underRemoval state.trace = none) :
    (metaDbOldestRetentionCandidate today).wp
      (fun candidate after => CleanupPath config start after ∧
        underRemoval after.trace = none ∧
        ∀ date, candidate = some date →
          MetaRow.oldestCandidate today after.disk.metaRows = some date)
      (CleanupPath config start) state := by
  rw [metaDbOldestRetentionCandidate, wp_bind, wp_current]
  apply wp_split
  · exact fun _ => ⟨path, idle, fun _ found => by cases found⟩
  intro _
  rw [wp_bind, wp_call]
  refine ⟨path, fun selected _ => ?_⟩
  have called := path.tail
    (.removal (RemovalStep.called state .sql selected.ok))
  apply wp_split
  · exact fun _ => ⟨called, idle, fun _ found => by cases found⟩
  · exact fun _ => ⟨called, idle, fun _ found => found⟩

/-- Scheduling takes effect right after it was announced. -/
theorem retentionScheduleDelete_cleanup
    {config : Config} {start state : State} {date : CString} {freeMb : Nat}
    (path : CleanupPath config start state)
    (idle : underRemoval state.trace = none)
    (low : freeMb < config.diskFreeMinMb)
    (oldest : MetaRow.oldestCandidate state.ws.date state.disk.metaRows =
      some date) :
    (retentionScheduleDelete date).wp
      (fun _ after => CleanupPath config start after ∧
        underRemoval after.trace = none)
      (CleanupPath config start) (state.log (.scheduling date freeMb)) := by
  have announced := path.tail (CleanupStep.scheduling state date freeMb low oldest)
  rw [retentionScheduleDelete, wp_bind, wp_call]
  refine ⟨announced, fun updated _ => ?_⟩
  have called := announced.tail
    (.removal (RemovalStep.called _ .sql updated.ok))
  apply wp_split
  · exact fun _ => ⟨called, idle⟩
  intro succeeded
  have ok : updated.ok = true := by simpa using succeeded
  rw [ok] at called ⊢
  rw [wp_bind, wp_current, wp_bind, wp_setDisk]
  exact ⟨called.tail (CleanupStep.schedule _ date
    ⟨freeMb, state.trace, rfl, low, oldest⟩), idle⟩

/-- Cleaning up makes these steps, and returns with no removal under way. -/
theorem checkAndCleanup_cleanup
    (config : Config) {start : State}
    (idle : underRemoval start.trace = none) :
    (checkAndCleanup config).wp
      (fun _ after => CleanupPath config start after ∧
        underRemoval after.trace = none)
      (CleanupPath config start) start := by
  rw [checkAndCleanup, wp_bind, wp_current]
  apply wp_split
  · exact fun early => ⟨.single (CleanupStep.notDue start early), idle⟩
  intro _
  rw [wp_bind, wp_setWs, wp_bind, wp_log]
  have reset : CleanupPath config start _ := .single (CleanupStep.reset start)
  have process : ∀ {state : State},
      CleanupPath config start state → underRemoval state.trace = none →
        (retentionProcessTasks 1).wp
          (fun _ after => CleanupPath config start after ∧
            underRemoval after.trace = none)
          (CleanupPath config start) state := fun path idle =>
    wp_mono (retentionProcessTasks_removal 1 .refl idle)
      (fun _ _ both => ⟨removalPath_cleanup path both.1, both.2⟩)
      fun _ later => removalPath_cleanup path later
  refine wp_then (process reset idle) ?_
  rintro _ state ⟨path, idle⟩
  rw [wp_bind, fsFreeMb, wp_bind, wp_call]
  refine ⟨path, fun answered _ => ?_⟩
  have called := path.tail
    (.removal (RemovalStep.called state .statvfs answered.ok))
  rw [wp_pure]
  apply wp_split
  · exact fun _ => ⟨called, idle⟩
  intro low
  refine wp_then (metaDbOldestRetentionCandidate_oldest _ called idle) ?_
  rintro candidate state ⟨path, idle, oldest⟩
  cases candidate with
  | none => exact ⟨path, idle⟩
  | some target =>
      rw [wp_bind, wp_log]
      have sameDate : state.ws.date = start.ws.date := date_cleanupPath path
      refine wp_then (retentionScheduleDelete_cleanup path idle
        (Nat.lt_of_not_le low) (by rw [sameDate]; exact oldest target rfl)) ?_
      rintro queued state ⟨path, idle⟩
      apply wp_split
      · exact fun _ => ⟨path, idle⟩
      · exact fun _ => process path idle

end Storage
end MotionSense
