import MotionSense.Storage.Steps

/-!
# Retention and the day being recorded

Scheduling a deletion leaves today out, and only pending days are removed.  What
neither looks at is a day that becomes today while its row is pending:
`meta_db_ensure_day` inserts no row where there is one, so the day stays pending
and the next cleanup removes it under the writer.
-/

namespace MotionSense

/-- `meta_db_ensure_day` has been called since the running process last opened a
day. -/
@[simp] def ensured : List Moment → Bool
  | [] => false
  | moment :: older =>
      match moment.event with
      | .started => false
      | .opening => false
      | .ensureDay => true
      | _ => ensured older

/-- `remove_path_tree` was never called on the directory of `ws->date` while the
`EventLogs.db` of that day was open. -/
def SparesOpenDay (trace : List Moment) : Prop :=
  ∀ moment ∈ trace, moment.event = .removing moment.ws.date →
    moment.ws.eventDb = none

instance (trace : List Moment) : Decidable (SparesOpenDay trace) :=
  inferInstanceAs (Decidable (∀ moment ∈ trace,
    moment.event = .removing moment.ws.date → moment.ws.eventDb = none))

/-- Whenever `meta_db_ensure_day` was called, the row of `ws->date` was not
pending. -/
def EnsuresActive (trace : List Moment) : Prop :=
  ∀ moment ∈ trace, moment.event = .ensureDay →
    moment.disk.isPending moment.ws.date = false

instance (trace : List Moment) : Decidable (EnsuresActive trace) :=
  inferInstanceAs (Decidable (∀ moment ∈ trace, moment.event = .ensureDay →
    moment.disk.isPending moment.ws.date = false))

namespace State

/-- Retention has spared the day being recorded and cannot touch it. -/
structure SparesToday (state : State) : Prop where
  spares : SparesOpenDay state.trace
  active : ensured state.trace = true →
    state.disk.isPending state.ws.date = false

instance (state : State) : Decidable state.SparesToday :=
  decidable_of_iff
    (SparesOpenDay state.trace ∧ (ensured state.trace = true →
      state.disk.isPending state.ws.date = false))
    ⟨fun both => ⟨both.1, both.2⟩, fun both => ⟨both.1, both.2⟩⟩

/-- What holds everywhere. -/
def Safe (state : State) : Prop :=
  EnsuresActive state.trace → state.SparesToday

/-- What holds between two frames: an open day has been ensured. -/
def SafeReady (state : State) : Prop :=
  EnsuresActive state.trace → state.SparesToday ∧
    (state.ws.eventDb.isSome = true → ensured state.trace = true)

/-- What holds while a day is being opened. -/
def SafeOpening (state : State) : Prop :=
  EnsuresActive state.trace →
    SparesOpenDay state.trace ∧ ensured state.trace = false

theorem SafeReady.safe {state : State} (ready : state.SafeReady) :
    state.Safe := fun active => (ready active).1

theorem SafeOpening.safe {state : State} (opening : state.SafeOpening) :
    state.Safe := by
  intro active
  obtain ⟨spares, notEnsured⟩ := opening active
  exact ⟨spares, by simp [notEnsured]⟩

end State

/-! ## Pending rows -/

namespace Disk

theorem metaRows_updateMeta
    (disk : Disk) {update : List MetaRow → List MetaRow}
    (ready : disk.videoMetadata.isSome = true) :
    (disk.updateMeta update).metaRows = update disk.metaRows := by
  obtain ⟨rows, found⟩ := Option.isSome_iff_exists.mp ready
  simp [metaRows, updateMeta, found]

theorem isPending_updateMeta
    (disk : Disk) {update : List MetaRow → List MetaRow} {date : CString}
    (same : ∀ rows : List MetaRow,
      (update rows).any (fun row => row.date = date && row.state = .pending) =
        rows.any fun row => row.date = date && row.state = .pending) :
    (disk.updateMeta update).isPending date = disk.isPending date := by
  cases found : disk.videoMetadata with
  | none => simp [isPending, metaRows, updateMeta, found]
  | some rows => simpa [isPending, metaRows, updateMeta, found] using same rows

/-- A new row is not pending. -/
@[simp] theorem isPending_insert (disk : Disk) (inserted date : CString) :
    (disk.updateMeta (MetaRow.insertOrIgnore
      { date := inserted, motionCount := 0 })).isPending date =
        disk.isPending date := by
  refine isPending_updateMeta disk fun rows => ?_
  unfold MetaRow.insertOrIgnore
  split <;> simp

/-- Counting motion changes no state. -/
@[simp] theorem isPending_upsert
    (disk : Disk) (counted date : CString) (count : Int) :
    (disk.updateMeta (MetaRow.upsertMotionCount counted count)).isPending
      date = disk.isPending date := by
  refine isPending_updateMeta disk fun rows => ?_
  unfold MetaRow.upsertMotionCount
  split
  · rw [List.any_map]
    congr 1
    funext row
    simp only [Function.comp]
    split <;> rfl
  · simp

/-- Scheduling another day changes nothing for this one. -/
theorem isPending_schedule
    (disk : Disk) {scheduled date : CString} (other : scheduled ≠ date) :
    (disk.updateMeta (MetaRow.schedule scheduled)).isPending date =
      disk.isPending date := by
  refine isPending_updateMeta disk fun rows => ?_
  rw [MetaRow.schedule, List.any_map]
  congr 1
  funext row
  simp only [Function.comp]
  split
  · rename_i selected
    have different : row.date ≠ date := by
      rw [selected.1]
      exact other
    simp [different]
  · rfl

/-- Deleting rows makes no row pending. -/
theorem isPending_delete
    (disk : Disk) (deleted date : CString)
    (active : disk.isPending date = false) :
    (disk.updateMeta (MetaRow.delete deleted)).isPending date = false := by
  cases found : disk.videoMetadata with
  | none => simp [isPending, metaRows, updateMeta, found]
  | some rows =>
      simp only [isPending, metaRows, found, Option.getD_some,
        List.any_eq_false] at active
      simp only [isPending, metaRows, updateMeta, found, Option.map_some,
        Option.getD_some, MetaRow.delete, List.any_eq_false, List.mem_filter]
      exact fun row kept => active row kept.1

theorem isPending_of_firstPending
    {disk : Disk} {date : CString}
    (pending : MetaRow.firstPending disk.metaRows = some date) :
    disk.isPending date = true := by
  obtain ⟨row, found, rfl⟩ := Option.map_eq_some_iff.mp pending
  have isPending := List.find?_some found
  exact List.any_eq_true.mpr
    ⟨row, List.mem_of_find?_eq_some found, by simpa using isPending⟩

@[simp] theorem isPending_updateEventDb
    (disk : Disk) (file : Nat) (update : EventDb → EventDb) (date : CString) :
    (disk.updateEventDb file update).isPending date = disk.isPending date :=
  rfl

@[simp] theorem isPending_putFile
    (disk : Disk) (dir : SegmentDir) (name : CString) (data : FileData)
    (date : CString) :
    (disk.putFile dir name data).isPending date = disk.isPending date := by
  unfold putFile
  split
  · rfl
  · split <;> rfl

@[simp] theorem isPending_removePart
    (disk : Disk) (removed date : CString) (removal : Removal) :
    (disk.removePart removed removal).isPending date =
      disk.isPending date := by
  unfold removePart
  split <;> rfl

@[simp] theorem isPending_removeDay (disk : Disk) (removed date : CString) :
    (disk.removeDay removed).isPending date = disk.isPending date := rfl

end Disk

/-! ## The steps -/

namespace State

/-- Everything the invariants depend on. -/
def openDayView (state : State) : Prop × Prop × Bool × Bool × Bool :=
  (EnsuresActive state.trace, SparesOpenDay state.trace,
    ensured state.trace, state.disk.isPending state.ws.date,
    state.ws.eventDb.isSome)

theorem SafeReady.of_view
    {before after : State}
    (same : after.openDayView = before.openDayView)
    (ready : before.SafeReady) : after.SafeReady := by
  simp only [openDayView, Prod.mk.injEq] at same
  obtain ⟨ensures, spares, isEnsured, pending, opened⟩ := same
  intro active
  rw [ensures] at active
  obtain ⟨today, isOpen⟩ := ready active
  refine ⟨⟨?_, ?_⟩, ?_⟩
  · rw [spares]
    exact today.spares
  · rw [isEnsured, pending]
    exact today.active
  · rw [isEnsured, opened]
    exact isOpen

theorem openDayView_hlsStep
    (before after : State) (step : HlsStep before after) :
    after.openDayView = before.openDayView := by
  cases step <;>
    simp [openDayView, EnsuresActive, SparesOpenDay, ensured]

theorem openDayView_flushStep
    (before after : State) (step : FlushStep before after) :
    after.openDayView = before.openDayView := by
  cases step with
  | hls step => exact openDayView_hlsStep _ _ step
  | _ => simp [openDayView]

theorem openDayView_frameStep
    (before after : State) (step : FrameStep before after) :
    after.openDayView = before.openDayView := by
  cases step with
  | hls step => exact openDayView_hlsStep _ _ step
  | _ => simp [openDayView, EnsuresActive, SparesOpenDay, ensured]

theorem openDayView_statementStep
    {writes : (EventDb → EventDb) → Prop}
    (before after : State) (step : StatementStep writes before after) :
    after.openDayView = before.openDayView := by
  cases step <;>
    simp [openDayView, EnsuresActive, SparesOpenDay, ensured]

theorem openDayView_totalStep
    (before after : State) (step : TotalStep before after) :
    after.openDayView = before.openDayView := by
  cases step <;>
    simp [openDayView, EnsuresActive, SparesOpenDay, ensured]

theorem openDayView_progressStep
    (before after : State) (step : ProgressStep before after) :
    after.openDayView = before.openDayView := by
  cases step with
  | marks step =>
      cases step with
      | statement step => exact openDayView_statementStep _ _ step
      | _ => simp [openDayView, EnsuresActive, SparesOpenDay, ensured]
  | total step => exact openDayView_totalStep _ _ step
  | _ => simp [openDayView, EnsuresActive, SparesOpenDay, ensured]

theorem safeOpening_folderStep
    (before after : State) (step : FolderStep before after)
    (opening : before.SafeOpening) : after.SafeOpening := by
  cases step <;>
    simpa [SafeOpening, EnsuresActive, SparesOpenDay, ensured] using opening

theorem safeOpening_segmentStep
    (before after : State) (step : SegmentStep before after)
    (opening : before.SafeOpening) : after.SafeOpening := by
  cases step with
  | db step =>
      cases step with
      | statement step =>
          cases step <;>
            simpa [SafeOpening, EnsuresActive, SparesOpenDay, ensured]
              using opening
      | stamp =>
          simpa [SafeOpening, EnsuresActive, SparesOpenDay, ensured]
            using opening
      | _ => exact opening
  | _ => exact opening

theorem safeOpening_flushStep
    (before after : State) (step : FlushStep before after)
    (opening : before.SafeOpening) : after.SafeOpening := by
  cases step with
  | hls step =>
      cases step <;>
        simpa [SafeOpening, EnsuresActive, SparesOpenDay, ensured]
          using opening
  | _ => exact opening

/-- Retention spares an open day that has been ensured. -/
theorem safeReady_retentionStep
    (before after : State) (step : RetentionStep before after)
    (ready : before.SafeReady) : after.SafeReady := by
  intro active
  have activeBefore : EnsuresActive before.trace := by
    cases step <;> simpa [EnsuresActive] using active
  obtain ⟨⟨spares, isActive⟩, isEnsured⟩ := ready activeBefore
  refine ⟨⟨?_, ?_⟩, ?_⟩
  · cases step with
    | removing date pending =>
        simp only [State.trace_log, SparesOpenDay, List.forall_mem_cons,
          Event.removing.injEq]
        refine ⟨?_, spares⟩
        rintro rfl
        have isPending := Disk.isPending_of_firstPending pending
        by_contra opened
        rw [isActive (isEnsured (Option.isSome_iff_ne_none.mpr opened))]
          at isPending
        contradiction
    | _ => simpa [SparesOpenDay] using spares
  · cases step with
    | schedule date notToday =>
        intro isEnsuredAfter
        exact (Disk.isPending_schedule _ notToday).trans
          (isActive isEnsuredAfter)
    | delete date =>
        intro isEnsuredAfter
        exact Disk.isPending_delete _ _ _ (isActive isEnsuredAfter)
    | _ => simpa [ensured] using isActive
  · cases step <;> simpa [ensured] using isEnsured

end State

namespace Storage

open Program State

/-- A program that leaves the view alone keeps the invariant. -/
theorem safeReady_of_view
    {step : State → State → Prop}
    {program : Storage α}
    (within : program.Within step)
    (kept : ∀ before after, step before after →
      after.openDayView = before.openDayView)
    {state : State}
    (ready : state.SafeReady) :
    program.wp (fun _ => SafeReady) Safe state :=
  wp_mono (within.preserves kept state)
    (fun _ _ same => SafeReady.of_view same ready)
    fun _ same => (SafeReady.of_view same ready).safe

/-- A program whose steps keep an invariant that implies safety keeps it. -/
theorem safe_of_steps
    {step : State → State → Prop}
    {program : Storage α}
    (within : program.Within step)
    {invariant : State → Prop}
    (closed : ∀ before after, step before after →
      invariant before → invariant after)
    (safe : ∀ state, invariant state → state.Safe)
    {state : State}
    (holds : invariant state) :
    program.wp (fun _ => invariant) Safe state :=
  wp_mono (within.keeps closed state holds) (fun _ _ kept => kept) safe

/-! ## The functions -/

/-- A function that opens a database closes it again when it fails. -/
def ClosesOnFailure (program : Storage Int) : Prop :=
  ∀ state : State, program.wp
    (fun result after => result ≠ 0 → after.ws.eventDb = none)
    (fun _ => True) state

theorem eventDbExec_closes
    {update : EventDb → EventDb} (opens : EventDb.Opens update) :
    ClosesOnFailure (eventDbExec update) := by
  intro state
  rw [eventDbExec, wp_bind, wp_call]
  refine ⟨trivial, fun executed _ => wp_split (fun _ => ?_) fun _ => ?_⟩
  · exact fun _ => rfl
  · refine wp_then (wp_mono ((updateEventDb_within opens) _)
      (fun _ _ path => path) fun _ _ => trivial) ?_
    exact fun _ after _ failed => absurd rfl failed

theorem eventDbOpen_closes : ClosesOnFailure eventDbOpen := by
  intro state
  rw [eventDbOpen]
  simp only [wp_bind, wp_current, wp_call]
  refine ⟨trivial, fun opened _ => wp_split (fun _ => ?_) fun _ => ?_⟩
  · exact fun _ => rfl
  simp only [wp_bind, wp_setDisk, wp_current, wp_setWs]
  refine wp_mono (eventDbExec_closes .createSegments _)
    (fun segments state failed => ?_) fun _ => id
  refine wp_split (fun nonzero _ => failed nonzero) fun _ => ?_
  refine wp_then (eventDbExec_closes .createDetails _)
    fun details state failed => ?_
  exact wp_split (fun nonzero _ => failed nonzero) fun _ =>
    eventDbExec_closes .createIndex _

theorem openSegment_closes (config : Config) :
    ClosesOnFailure (openSegment config) := by
  intro state
  rw [openSegment]
  refine wp_then (eventDbOpen_closes state) fun db state failed => ?_
  refine wp_split (fun nonzero _ => failed nonzero) fun _ => ?_
  refine wp_then (wp_mono (eventDbAddSegment_within state)
    (fun _ _ path => path) fun _ _ => trivial) fun id state _ => ?_
  rw [wp_bind, wp_setWs]
  refine wp_split (fun _ => fun _ => rfl) fun _ => ?_
  rw [wp_bind, resetSegment, wp_setWs]
  refine wp_then (wp_mono (hlsCreate_within config _)
    (fun _ _ path => path) fun _ _ => trivial) fun hls state _ => ?_
  exact wp_split (fun _ => fun _ => rfl) fun _ failed => absurd rfl failed

/-- When `open_today` fails on a writer without an open day, none is open
afterwards. -/
theorem openToday_closes
    (config : Config) {state : State} (closed : state.ws.eventDb = none) :
    (openToday config).wp
      (fun result after => result ≠ 0 → after.ws.eventDb = none)
      (fun _ => True) state := by
  have kept : ∀ before after : State, FolderStep before after →
      after.ws.eventDb = before.ws.eventDb := by
    intro before after step
    cases step <;> rfl
  rw [openToday, wp_bind, wp_log]
  refine wp_then (wp_mono (openFolder_within.preserves kept _)
    (fun _ _ same => same) fun _ _ => trivial) fun folder state same => ?_
  refine wp_via (fun result after => result ≠ 0 → after.ws.eventDb = none)
    (wp_split (fun _ _ => same.trans closed) fun _ =>
      openSegment_closes config state) ?_
  exact fun result state failed => failed

/-- While a day is opened nothing is removed. -/
theorem openToday_openDay
    (config : Config) {state : State} (safe : state.Safe) :
    (openToday config).wp (fun _ => SafeOpening) Safe state := by
  have begun : (state.log .opening).SafeOpening := by
    intro active
    have activeBefore : EnsuresActive state.trace := by
      simpa [EnsuresActive] using active
    exact ⟨by simpa [SparesOpenDay] using (safe activeBefore).spares, rfl⟩
  rw [openToday, wp_bind, wp_log]
  refine wp_then (safe_of_steps openFolder_within safeOpening_folderStep
    (fun _ => SafeOpening.safe) begun) fun folder state opening => ?_
  refine wp_via (fun _ => SafeOpening) (wp_split (fun _ => opening) fun _ =>
    safe_of_steps (openSegment_within config) safeOpening_segmentStep
      (fun _ => SafeOpening.safe) opening) fun result state opening => ?_
  intro active
  have activeBefore : EnsuresActive state.trace := by
    simpa [EnsuresActive] using active
  simpa [SparesOpenDay, ensured] using opening activeBefore

/-- Ensuring the day restores the invariant. -/
theorem metaDbEnsureDay_openDay {state : State} (safe : state.Safe) :
    metaDbEnsureDay.wp (fun _ => SafeReady) Safe state := by
  have noted : (state.log .ensureDay).SafeReady := by
    intro active
    simp only [EnsuresActive, State.trace_log, List.forall_mem_cons,
      forall_const] at active
    obtain ⟨notPending, activeBefore⟩ := active
    refine ⟨⟨?_, fun _ => notPending⟩, fun _ => rfl⟩
    simpa [SparesOpenDay] using (safe activeBefore).spares
  rw [metaDbEnsureDay, wp_bind, wp_log]
  exact safeReady_of_view (@insertDay_within EventDb.Marks) openDayView_statementStep noted

/-- A rollover restores the invariant: without success no day is open. -/
theorem rolloverDay_openDay
    (config : Config) {state : State} (ready : state.SafeReady) :
    (rolloverDay config).wp (fun _ => SafeReady) Safe state := by
  rw [rolloverDay]
  refine wp_then (safeReady_of_view (hlsFlushAndDestroy_within config)
    openDayView_flushStep ready) fun _ state ready => ?_
  refine wp_then (safeReady_of_view eventDbUpdateTotalFrames_within
    openDayView_totalStep ready) fun _ state ready => ?_
  have safe : (state.updateWs fun ws => { ws with eventDb := none }).Safe :=
    fun active => ⟨(ready active).1.spares, (ready active).1.active⟩
  rw [wp_bind, eventDbClose, wp_setWs]
  have opened := wp_and (openToday_openDay config safe)
    (openToday_closes config rfl)
  refine wp_then (wp_mono opened (fun _ _ both => both)
    fun _ both => both.1) ?_
  rintro result state ⟨opening, closes⟩
  refine wp_via (fun _ => SafeReady) (wp_split (fun _ => ?_) fun failed => ?_)
    fun _ _ ready => ready
  · exact metaDbEnsureDay_openDay opening.safe
  · intro active
    refine ⟨opening.safe active, ?_⟩
    simp [closes failed]

theorem ingestFrame_openDay
    (config : Config) (frame : FqFrame) (state : State)
    (ready : state.SafeReady) :
    (ingestFrame config frame).wp (fun _ => SafeReady) Safe state := by
  rw [ingestFrame]
  refine wp_via (fun _ => SafeReady) ?_ fun _ state ready => ?_
  · rw [rolloverIfNewDay]
    refine wp_then (safeReady_of_view todayString_within
      openDayView_hlsStep ready) fun today state ready => ?_
    have noted : (state.log (.ingest today.1 today.2)).SafeReady := by
      refine SafeReady.of_view ?_ ready
      simp [openDayView, EnsuresActive, SparesOpenDay, ensured]
    rw [wp_bind, wp_log, wp_bind, wp_current]
    refine wp_split (fun _ => ?_) fun _ => noted
    exact wp_then (rolloverDay_openDay config noted) fun _ _ ready => ready
  refine wp_then (safeReady_of_view (passesGate_within frame)
    openDayView_frameStep ready) fun passes state ready => ?_
  refine wp_split (fun _ => ?_) fun _ => ready
  refine wp_then (safeReady_of_view (feedMuxer_within config frame)
    openDayView_frameStep ready) fun _ state ready => ?_
  refine wp_then (safeReady_of_view (recordProgress_within config)
    openDayView_progressStep ready) fun _ state ready => ?_
  exact safe_of_steps (checkAndCleanup_within config) safeReady_retentionStep
    (fun _ => SafeReady.safe) ready

theorem writerBoot_openDay
    (config : Config) (state : State) (safe : state.Safe) :
    (writerBoot config).wp
      (fun succeeded after =>
        if succeeded then after.SafeReady else after.Safe)
      Safe state.restart := by
  have restarted : state.restart.Safe := by
    intro active
    have activeBefore : EnsuresActive state.trace := by
      simpa [State.restart, EnsuresActive] using active
    refine ⟨?_, ?_⟩
    · simpa [State.restart, SparesOpenDay] using (safe activeBefore).spares
    · simp [State.restart, ensured]
  rw [writerBoot]
  refine wp_then (openToday_openDay config restarted)
    fun opened state opening => ?_
  refine wp_split (fun _ => opening.safe) fun _ => ?_
  refine wp_then (safe_of_steps (metaDbInit_within.mono fun _ _ =>
    SegmentStep.db) safeOpening_segmentStep
    (fun _ => SafeOpening.safe) opening) fun initialised state opening => ?_
  refine wp_split (fun _ => ?_) fun _ => ?_
  · refine wp_then (safe_of_steps (hlsFlushAndDestroy_within config)
      safeOpening_flushStep (fun _ => SafeOpening.safe) opening)
      fun _ state opening => ?_
    have safe := opening.safe
    exact fun active => ⟨(safe active).spares, (safe active).active⟩
  · exact wp_then (metaDbEnsureDay_openDay opening.safe) fun _ _ ready => ready

theorem writerStop_openDay
    (config : Config) (state : State) (ready : state.SafeReady) :
    (writerStop config).wp (fun _ => Safe) Safe state := by
  rw [writerStop]
  refine wp_then (safeReady_of_view (hlsFlushAndDestroy_within config)
    openDayView_flushStep ready) fun _ state ready => ?_
  refine wp_then (safeReady_of_view eventDbUpdateTotalFrames_within
    openDayView_totalStep ready) fun _ state ready => ?_
  exact fun active => ⟨(ready active).1.spares, (ready active).1.active⟩

end Storage

/-- In every history in which no day is pending when `meta_db_ensure_day` runs
for it, retention spares the day being recorded. -/
theorem writer_spares_open_day
    (config : Config) {phase : Daemon.Phase} {state : State}
    (reached : (writer config).Reach State.Unused phase state)
    (active : EnsuresActive state.trace) :
    state.SparesToday := by
  have starts : ∀ first : State, first.Unused → first.Safe := by
    intro first unused _
    have blank : first.trace = [] := unused
    exact ⟨by simp [SparesOpenDay, blank], by simp [ensured, blank]⟩
  exact Daemon.Reach.everywhere (fun _ => State.SafeReady.safe)
    starts (Storage.writerBoot_openDay config)
    (Storage.ingestFrame_openDay config)
    (Storage.writerStop_openDay config) reached active

/-- Power is lost while the first day is being removed, and the daemon comes up
again under a clock that shows that day: the next cleanup removes it under the
writer. -/
theorem writer_removes_open_day :
    let config : Config := { cleanupEveryTs := 1 }
    let keyframes : List FqFrame :=
      [⟨some ⟨0, [1]⟩, 1, true, 0⟩, ⟨some ⟨1, [2]⟩, 1, true, 40000⟩]
    let firstDay : Choice := {}
    let secondDay : Choice := { tm := { mday := 2, yday := 1 } }
    let state₁ := (((writer config).life []).run (State.restart {})
      (List.replicate 30 firstDay)).state
    let state₂ := (((writer config).life keyframes).run state₁.restart
      (List.replicate 40 secondDay)).state
    let state₃ := (((writer config).life keyframes).run state₂.restart
      (List.replicate 60 firstDay)).state
    (writer config).Reach State.Unused .off state₃ ∧
      ¬ SparesOpenDay state₃.trace := by
  intro config keyframes firstDay secondDay state₁ state₂ state₃
  have reached₁ : (writer config).Reach State.Unused .off state₁ :=
    @Daemon.Reach.life _ _ _ (writer config) State.Unused {} (.initial rfl) _ _
  have reached₂ : (writer config).Reach State.Unused .off state₂ :=
    Daemon.Reach.life reached₁ _ _
  exact ⟨Daemon.Reach.life reached₂ _ _, by decide +kernel⟩

/-- A writer that removes the day before while it records the next one. -/
theorem writer_spares_open_day_next_day :
    let config : Config := { cleanupEveryTs := 1 }
    let keyframes : List FqFrame :=
      [⟨some ⟨0, [1]⟩, 1, true, 0⟩, ⟨some ⟨1, [2]⟩, 1, true, 40000⟩]
    let firstDay : Choice := {}
    let secondDay : Choice := { tm := { mday := 2, yday := 1 } }
    let state₁ := (((writer config).life []).run (State.restart {})
      (List.replicate 30 firstDay)).state
    let state₂ := (((writer config).life keyframes).run state₁.restart
      (List.replicate 60 secondDay)).state
    (∃ moment ∈ state₂.trace, moment.event = .removing firstDay.tm.date) ∧
      state₂.SparesToday := by
  intro config keyframes firstDay secondDay state₁ state₂
  have reached₁ : (writer config).Reach State.Unused .off state₁ :=
    @Daemon.Reach.life _ _ _ (writer config) State.Unused {} (.initial rfl) _ _
  have reached₂ : (writer config).Reach State.Unused .off state₂ :=
    Daemon.Reach.life reached₁ _ _
  exact ⟨by decide +kernel,
    writer_spares_open_day config reached₂ (by decide +kernel)⟩

end MotionSense
