import MotionSense.Storage.Folders
import MotionSense.Storage.Published
import MotionSense.Storage.Rounds

/-!
# Published files stay on the card

A folder that was opened holds what was found in it, with the files published
since in place, until the removal of its day begins.  Until then no other folder
is opened in its place, since the database of the day lists it.
-/

namespace MotionSense

theorem removalsOf_cons
    {moment : Moment} (earlier : List Moment)
    (recording : moment.event.ofRecording = true) (date : CString) :
    removalsOf date (moment :: earlier) = removalsOf date earlier := by
  apply List.countP_cons_of_neg
  intro removing
  rw [of_decide_eq_true removing] at recording
  exact absurd recording Bool.false_ne_true

theorem removalsOf_le
    (moment : Moment) (earlier : List Moment) (date : CString) :
    removalsOf date earlier ≤ removalsOf date (moment :: earlier) := by
  unfold removalsOf
  rw [List.countP_cons]
  exact Nat.le_add_right _ _

/-! ## What stays on the card -/

/-- The folders of a day and the name of its database stay, and no database
forgets a folder. -/
structure Disk.Spares (before after : Disk) (date : CString) : Prop where
  folder : ∀ name folder, before.folder date name = some folder →
    after.folder date name = some folder
  eventLogs : ∀ file, before.eventLogs date = some file →
    after.eventLogs date = some file
  listed : ∀ file, (before.eventDb file).folders ⊆ (after.eventDb file).folders

namespace Disk

section

variable {disk : Disk} {date : CString}

/-- The day's directory stays, but for what is new in it. -/
theorem spares_of_day
    {after : Disk}
    (days : ∀ day, disk.day date = some day → ∃ kept,
      after.day date = some kept ∧
      (∀ name folder, day.folders.lookup name = some folder →
        kept.folders.lookup name = some folder) ∧
      ∀ file, day.eventLogs = some file → kept.eventLogs = some file)
    (listed : ∀ file,
      (disk.eventDb file).folders ⊆ (after.eventDb file).folders) :
    disk.Spares after date := by
  refine ⟨fun name folder found => ?_, fun file opened => ?_, listed⟩
  · obtain ⟨day, present, there⟩ := Option.bind_eq_some_iff.mp found
    obtain ⟨kept, still, folders, _⟩ := days day present
    rw [Disk.folder, still, Option.bind_some]
    exact folders name folder there
  · obtain ⟨day, present, itsLogs⟩ := Option.bind_eq_some_iff.mp opened
    obtain ⟨kept, still, _, logs⟩ := days day present
    rw [Disk.eventLogs, still, Option.bind_some]
    exact logs file itsLogs

theorem spares_of_same
    {after : Disk} (day : after.day date = disk.day date)
    (listed : ∀ file,
      (disk.eventDb file).folders ⊆ (after.eventDb file).folders) :
    disk.Spares after date :=
  spares_of_day (fun found present =>
    ⟨found, day.trans present, fun _ _ => id, fun _ => id⟩) listed

theorem spares_of_eq
    {after : Disk} (days : after.days = disk.days)
    (files : after.eventDbs = disk.eventDbs) :
    disk.Spares after date := by
  apply spares_of_same
  · rw [day, day, days]
  · intro file
    rw [eventDb, eventDb, files]
    exact List.Subset.refl _

theorem spares_setDay
    {written : CString} {old new : DayDir}
    (present : disk.day written = some old)
    (folders : ∀ name folder, old.folders.lookup name = some folder →
      new.folders.lookup name = some folder)
    (logs : ∀ file, old.eventLogs = some file → new.eventLogs = some file) :
    disk.Spares (disk.setDay written new) date := by
  refine spares_of_day (fun day there => ?_) fun _ => List.Subset.refl _
  rw [day_setDay]
  split
  · rename_i same
    rw [same, present] at there
    cases there
    exact ⟨new, rfl, folders, logs⟩
  · exact ⟨day, there, fun _ _ => id, fun _ => id⟩

theorem spares_mkdir {dir : Dir} (new : disk.exists? dir = false) :
    disk.Spares (disk.mkdir dir) date := by
  cases dir with
  | dcim => exact spares_of_eq rfl rfl
  | day made =>
      refine spares_of_day (fun day there => ?_) fun _ => List.Subset.refl _
      have other : date ≠ made := by
        intro same
        rw [same] at there
        rw [exists?, there] at new
        exact absurd new (by simp)
      refine ⟨day, ?_, fun _ _ => id, fun _ => id⟩
      rw [mkdir, day_setDay, if_neg other]
      exact there
  | segment dir =>
      unfold mkdir
      simp only
      split
      · exact spares_of_eq rfl rfl
      rename_i day present
      apply spares_setDay present
      · intro name folder found
        have other : name ≠ dir.name := by
          intro same
          have there : disk.folder dir.date dir.name = some folder := by
            rw [Disk.folder, present, Option.bind_some, ← same]
            exact found
          rw [exists?, there] at new
          exact absurd new (by simp)
        rw [AList.lookup_insert_ne other]
        exact found
      · exact fun _ => id

theorem spares_openEventLogs (opened : CString) :
    disk.Spares (disk.openEventLogs opened) date := by
  have listed : ∀ file, (disk.eventDb file).folders ⊆
      ((disk.openEventLogs opened).eventDb file).folders := by
    intro file
    rw [eventDb_openEventLogs]
    exact List.Subset.refl _
  refine spares_of_day (fun day there => ?_) listed
  unfold openEventLogs
  split
  · exact ⟨day, there, fun _ _ => id, fun _ => id⟩
  rename_i old present
  split
  · exact ⟨day, there, fun _ _ => id, fun _ => id⟩
  rename_i unopened
  change ∃ kept, (disk.setDay opened _).day date = some kept ∧ _
  rw [day_setDay]
  split
  · rename_i same
    rw [same, present] at there
    cases there
    refine ⟨_, rfl, fun _ _ => id, fun file itsFile => ?_⟩
    rw [unopened] at itsFile
    cases itsFile
  · exact ⟨day, there, fun _ _ => id, fun _ => id⟩

theorem spares_updateEventDb
    (file : Nat) {update : EventDb → EventDb}
    (folders : ∀ db : EventDb, db.folders ⊆ (update db).folders) :
    disk.Spares (disk.updateEventDb file update) date := by
  refine spares_of_same rfl fun other => ?_
  rw [eventDb_updateEventDb]
  split
  · exact folders _
  · exact List.Subset.refl _

theorem spares_removePart
    {removed : CString} (removal : Removal) (other : date ≠ removed) :
    disk.Spares (disk.removePart removed removal) date := by
  unfold removePart
  split
  · exact spares_of_eq rfl rfl
  · apply spares_of_same
    · rw [day_setDay, if_neg other]
    · exact fun _ => List.Subset.refl _

theorem spares_removeDay {removed : CString} (other : date ≠ removed) :
    disk.Spares (disk.removeDay removed) date := by
  apply spares_of_same
  · rw [day, removeDay, AList.lookup_erase_ne other]
    rfl
  · exact fun _ => List.Subset.refl _

end
end Disk

/-! ## Logs and the card -/

namespace FolderLog

/-- The card holds the folder as it was found, with the published files in place,
and the database of its day lists it. -/
structure Stored (disk : Disk) (log : FolderLog) : Prop where
  folder : disk.folder log.dir.date log.dir.name = some log.folder
  listed : ∃ file, disk.eventLogs log.dir.date = some file ∧
    log.dir.name.take 7 ∈ (disk.eventDb file).folders

theorem Stored.of_spares
    {before after : Disk} {log : FolderLog}
    (stored : log.Stored before) (spares : before.Spares after log.dir.date) :
    log.Stored after := by
  obtain ⟨file, opened, listed⟩ := stored.listed
  exact ⟨spares.folder _ _ stored.folder, file, spares.eventLogs file opened,
    spares.listed file listed⟩

/-- Replacing a file keeps the list. -/
theorem Stored.listed_putFile
    {disk : Disk} {log : FolderLog} (stored : log.Stored disk)
    (dir : SegmentDir) (name : CString) (data : FileData) :
    ∃ file, (disk.putFile dir name data).eventLogs log.dir.date = some file ∧
      log.dir.name.take 7 ∈
        ((disk.putFile dir name data).eventDb file).folders := by
  obtain ⟨file, itsFile, listed⟩ := stored.listed
  refine ⟨file, (Disk.eventLogs_putFile _ _ _ _ _).trans itsFile, ?_⟩
  rw [Disk.eventDb, State.eventDbs_putFile]
  exact listed

/-- Until the removal of its day begins the folder is on the card. -/
structure Tracked (state : State) (log : FolderLog) : Prop where
  since : log.removals ≤ removalsOf log.dir.date state.trace
  under : underRemoval state.trace = some log.dir.date →
    log.removals < removalsOf log.dir.date state.trace
  stored : log.Spared state.trace → log.Stored state.disk

/-- A folder that is spared later was spared before. -/
theorem Tracked.spared
    {before after : State} {log : FolderLog} (tracked : log.Tracked before)
    (grows : removalsOf log.dir.date before.trace ≤
      removalsOf log.dir.date after.trace)
    (spared : log.Spared after.trace) : log.Spared before.trace := by
  have since := tracked.since
  unfold Spared at spared ⊢
  omega

/-- What is done to other days, or to one under removal, does not matter. -/
theorem Tracked.step
    {before after : State} {log : FolderLog} (tracked : log.Tracked before)
    (grows : removalsOf log.dir.date before.trace ≤
      removalsOf log.dir.date after.trace)
    (under : underRemoval after.trace = some log.dir.date →
      underRemoval before.trace = some log.dir.date ∨
        removalsOf log.dir.date before.trace <
          removalsOf log.dir.date after.trace)
    (spares : underRemoval before.trace = some log.dir.date ∨
      before.disk.Spares after.disk log.dir.date) :
    log.Tracked after := by
  refine ⟨tracked.since.trans grows, fun removing => ?_, fun spared => ?_⟩
  · rcases under removing with earlier | more
    · exact (tracked.under earlier).trans_le grows
    · exact tracked.since.trans_lt more
  · have sparedBefore := tracked.spared grows spared
    rcases spares with removing | spares
    · have more := tracked.under removing
      unfold Spared at sparedBefore
      omega
    · exact (tracked.stored sparedBefore).of_spares spares

theorem folder_publish (log : FolderLog) (name : CString) (data : FileData) :
    (log.publish name data).folder =
      Function.update log.folder name (some data) := by
  funext other
  by_cases same : other = name
  · subst same
    simp [folder, publish]
  · simp [folder, publish, same]

end FolderLog

namespace State

/-- The folders opened so far are on the card until their days are removed, and
none was opened in the place of another that was still there. -/
structure KeepsFiles (state : State) : Prop where
  tracked : ∀ log ∈ state.logs, log.Tracked state
  apart : state.logs.Pairwise fun newer older =>
    older.Spared state.trace → newer.dir ≠ older.dir

/-- A muxer with a playlist writes to the folder opened last. -/
structure KeepsOpen (state : State) : Prop extends state.KeepsFiles where
  writing : ∀ dir, state.outlet = (true, true, dir) →
    ∃ log ∈ state.logs.head?, log.dir = dir

section

variable {before after : State}

theorem KeepsFiles.step
    (keeps : before.KeepsFiles)
    (logs : after.logs = before.logs)
    (grows : ∀ date, removalsOf date before.trace ≤
      removalsOf date after.trace)
    (under : ∀ date, underRemoval after.trace = some date →
      underRemoval before.trace = some date ∨
        removalsOf date before.trace < removalsOf date after.trace)
    (spares : ∀ date, underRemoval before.trace = some date ∨
      before.disk.Spares after.disk date) :
    after.KeepsFiles := by
  constructor
  · intro log listed
    rw [logs] at listed
    exact (keeps.tracked log listed).step (grows _) (under _) (spares _)
  · rw [logs]
    apply keeps.apart.imp_of_mem
    intro newer older _ listed apart spared
    exact apart ((keeps.tracked older listed).spared (grows _) spared)

/-- What is recorded begins no removal and ends none. -/
theorem KeepsFiles.record
    (keeps : before.KeepsFiles)
    (adds : Adds Event.ofRecording before after)
    (logs : after.logs = before.logs)
    (spares : ∀ date, before.disk.Spares after.disk date) :
    after.KeepsFiles := by
  have removals : ∀ date,
      removalsOf date after.trace = removalsOf date before.trace := fun date =>
    adds.view fun _ earlier recording =>
      removalsOf_cons earlier recording date
  have under : underRemoval after.trace = underRemoval before.trace :=
    adds.view fun _ earlier => underRemoval_cons earlier
  apply keeps.step logs (fun date => (removals date).ge)
  · intro date removing
    rw [under] at removing
    exact .inl removing
  · exact fun date => .inr (spares date)

/-- The log of the folder opened last is extended. -/
theorem KeepsFiles.extend
    (keeps : before.KeepsFiles)
    (adds : Adds Event.ofRecording before after)
    {update : FolderLog → FolderLog}
    (logs : after.logs = Moment.extendLog update before.logs)
    (account : ∀ log,
      (update log).dir = log.dir ∧ (update log).removals = log.removals)
    (first : ∀ log ∈ before.logs.head?, log.Stored before.disk →
      (update log).Stored after.disk)
    (others : ∀ newest ∈ before.logs.head?, ∀ log : FolderLog,
      newest.dir ≠ log.dir → log.Stored before.disk → log.Stored after.disk) :
    after.KeepsFiles := by
  have removals : ∀ date,
      removalsOf date after.trace = removalsOf date before.trace := fun date =>
    adds.view fun _ earlier recording =>
      removalsOf_cons earlier recording date
  have under : underRemoval after.trace = underRemoval before.trace :=
    adds.view fun _ earlier => underRemoval_cons earlier
  have spared : ∀ log : FolderLog,
      log.Spared after.trace ↔ log.Spared before.trace := by
    intro log
    unfold FolderLog.Spared
    rw [removals]
  obtain ⟨tracked, apart⟩ := keeps
  cases opened : before.logs with
  | nil =>
      rw [opened] at logs
      constructor
      · rw [logs]
        exact fun _ none => absurd none List.not_mem_nil
      · rw [logs]
        exact .nil
  | cons newest older =>
      rw [opened] at logs tracked apart first others
      obtain ⟨unlike, apart⟩ := List.pairwise_cons.mp apart
      constructor
      · rw [logs]
        intro log listed
        rcases List.mem_cons.mp listed with rfl | listed
        · obtain ⟨since, removing, stored⟩ :=
            tracked newest List.mem_cons_self
          obtain ⟨sameDir, sameRemovals⟩ := account newest
          constructor
          · rw [sameDir, sameRemovals, removals]
            exact since
          · rw [sameDir, sameRemovals, removals, under]
            exact removing
          · unfold FolderLog.Spared
            rw [sameDir, sameRemovals, removals]
            exact fun spared => first newest rfl (stored spared)
        · obtain ⟨since, removing, stored⟩ :=
            tracked log (List.mem_cons_of_mem _ listed)
          constructor
          · rw [removals]
            exact since
          · rw [removals, under]
            exact removing
          · intro isSpared
            have before := (spared log).mp isSpared
            exact others newest rfl log (unlike log listed before)
              (stored before)
      · rw [logs]
        refine List.pairwise_cons.mpr ⟨fun log listed isSpared => ?_, ?_⟩
        · rw [(account newest).1]
          exact unlike log listed ((spared log).mp isSpared)
        · exact apart.imp fun unlike isSpared =>
            unlike ((spared _).mp isSpared)

theorem KeepsOpen.record
    (keeps : before.KeepsOpen)
    (adds : Adds Event.ofRecording before after)
    (logs : after.logs = before.logs)
    (spares : ∀ date, before.disk.Spares after.disk date)
    (outlet : ∀ dir, after.outlet = (true, true, dir) →
      before.outlet = (true, true, dir)) :
    after.KeepsOpen := by
  refine ⟨keeps.toKeepsFiles.record adds logs spares, fun dir open' => ?_⟩
  rw [logs]
  exact keeps.writing dir (outlet dir open')

end

/-! ## The steps -/

/-- A file that is published goes to the folder opened last. -/
theorem KeepsOpen.replace
    {state : State} (keeps : state.KeepsOpen) {dir : SegmentDir}
    (outlet : state.outlet = (true, true, dir))
    (name : CString) (data : FileData) :
    ((state.updateDisk fun disk => disk.putFile dir name data).log
      (.renamed name data)).KeepsOpen := by
  obtain ⟨newest, first, rfl⟩ := keeps.writing dir outlet
  obtain ⟨older, opened⟩ := List.head?_eq_some_iff.mp first
  have logs : ((state.updateDisk fun disk =>
      disk.putFile newest.dir name data).log (.renamed name data)).logs =
        Moment.extendLog (fun log => log.publish name data) state.logs := rfl
  refine ⟨keeps.toKeepsFiles.extend (.inr ⟨_, rfl, rfl⟩) logs
    (fun _ => ⟨rfl, rfl⟩) ?_ ?_, fun dir still => ?_⟩
  · intro log isFirst stored
    obtain rfl : newest = log := Option.some.inj (first.symm.trans isFirst)
    refine ⟨?_, stored.listed_putFile _ _ _⟩
    rw [FolderLog.folder_publish]
    exact Disk.folder_putFile_self name data stored.folder
  · intro log isFirst other unlike stored
    obtain rfl : newest = log := Option.some.inj (first.symm.trans isFirst)
    refine ⟨?_, stored.listed_putFile _ _ _⟩
    change (state.disk.putFile newest.dir name data).folder other.dir.date
      other.dir.name = _
    rw [Disk.folder_putFile, if_neg, stored.folder]
    rintro ⟨sameDate, sameName⟩
    apply unlike
    rw [SegmentDir.mk.injEq]
    exact ⟨sameDate.symm, sameName.symm⟩
  · have same : dir = newest.dir := by
      have twice := still.symm.trans outlet
      exact congrArg (fun outlet => outlet.2.2) twice
    rw [logs, opened]
    exact ⟨_, rfl, same.symm⟩

theorem keepsOpen_hlsStep
    (before after : State) (step : HlsStep before after)
    (keeps : before.KeepsOpen) : after.KeepsOpen := by
  have adds : Adds Event.ofRecording before after :=
    records_frameStep _ _ (.hls step)
  have outlet : after.outlet = before.outlet :=
    Storage.outlet_hlsPath (.single step)
  cases step with
  | replaced dir name data open' => exact keeps.replace open' name data
  | _ =>
      exact keeps.record adds rfl (fun _ => Disk.spares_of_eq rfl rfl)
        fun _ => outlet.symm.trans

theorem keepsOpen_statementStep
    {writes : (EventDb → EventDb) → Prop}
    (folders : ∀ update, writes update →
      ∀ db : EventDb, db.folders ⊆ (update db).folders)
    (before after : State) (step : StatementStep writes before after)
    (keeps : before.KeepsOpen) : after.KeepsOpen := by
  have adds : Adds Event.ofRecording before after :=
    (adds_statementStep _ _ step).mono ofRecording_of_ofCall
  cases step with
  | write file update written =>
      exact keeps.record adds rfl
        (fun _ => Disk.spares_updateEventDb file (folders update written))
        fun _ => id
  | _ =>
      exact keeps.record adds rfl (fun _ => Disk.spares_of_eq rfl rfl)
        fun _ => id

theorem keepsOpen_totalStep
    (before after : State) (step : TotalStep before after)
    (keeps : before.KeepsOpen) : after.KeepsOpen := by
  have adds : Adds Event.ofRecording before after :=
    (adds_totalStep _ _ step).mono ofRecording_of_ofCall
  cases step with
  | called kind succeeded =>
      exact keeps.record adds rfl (fun _ => Disk.spares_of_eq rfl rfl)
        fun _ => id
  | update file opened =>
      refine keeps.record adds rfl (fun _ =>
        Disk.spares_updateEventDb file fun db => ?_) fun _ => id
      rw [EventDb.folders_updateTotalFrames]
      exact List.Subset.refl _

theorem keepsOpen_turnStep
    (before after : State) (step : TurnStep before after)
    (keeps : before.KeepsOpen) : after.KeepsOpen := by
  have adds := records_turnStep _ _ step
  cases step with
  | flush step =>
      cases step with
      | hls step => exact keepsOpen_hlsStep _ _ step keeps
      | dropMuxer =>
          refine keeps.record adds rfl (fun _ => Disk.spares_of_eq rfl rfl)
            fun dir outlet => ?_
          exact absurd (congrArg Prod.fst outlet) Bool.false_ne_true
      | dropPlaylist =>
          refine keeps.record adds rfl (fun _ => Disk.spares_of_eq rfl rfl)
            fun dir outlet => ?_
          exact absurd (congrArg (fun outlet => outlet.2.1) outlet)
            Bool.false_ne_true
  | total step => exact keepsOpen_totalStep _ _ step keeps
  | statement step =>
      exact keepsOpen_statementStep (fun _ => False.elim) _ _ step keeps
  | _ =>
      exact keeps.record adds rfl (fun _ => Disk.spares_of_eq rfl rfl)
        fun _ => id

theorem keepsOpen_frameStep
    (before after : State) (step : FrameStep before after)
    (keeps : before.KeepsOpen) : after.KeepsOpen := by
  have adds := records_frameStep _ _ step
  have fed : ∀ {event : Event} {update : FolderLog → FolderLog},
      event.ofRecording = true →
      (before.log event).logs = Moment.extendLog update before.logs →
      (∀ log, (update log).dir = log.dir ∧
        (update log).removals = log.removals ∧
        (update log).folder = log.folder) →
      (before.log event).KeepsOpen := by
    intro event update recording logs same
    refine ⟨keeps.toKeepsFiles.extend (.log recording) logs
      (fun log => ⟨(same log).1, (same log).2.1⟩) ?_ fun _ _ _ _ => id, ?_⟩
    · intro log _ stored
      constructor
      · rw [(same log).1, (same log).2.2]
        exact stored.folder
      · rw [(same log).1]
        exact stored.listed
    · intro dir outlet
      obtain ⟨newest, first, own⟩ := keeps.writing dir outlet
      obtain ⟨older, opened⟩ := List.head?_eq_some_iff.mp first
      rw [logs, opened]
      exact ⟨_, rfl, (same newest).1.trans own⟩
  cases step with
  | hls step => exact keepsOpen_hlsStep _ _ step keeps
  | discarded frame => exact fed rfl rfl fun _ => ⟨rfl, rfl, rfl⟩
  | fed frame => exact fed rfl rfl fun _ => ⟨rfl, rfl, rfl⟩
  | _ =>
      exact keeps.record adds rfl (fun _ => Disk.spares_of_eq rfl rfl)
        fun _ => id

theorem keepsOpen_progressStep
    (before after : State) (step : ProgressStep before after)
    (keeps : before.KeepsOpen) : after.KeepsOpen := by
  have adds := records_progressStep _ _ step
  cases step with
  | marks step =>
      cases step with
      | statement step =>
          apply keepsOpen_statementStep _ _ _ step keeps
          rintro update ⟨videoId, motionFrame⟩ db
          rw [EventDb.folders_insertDetail]
          exact List.Subset.refl _
      | _ =>
          exact keeps.record adds rfl (fun _ => Disk.spares_of_eq rfl rfl)
            fun _ => id
  | total step => exact keepsOpen_totalStep _ _ step keeps
  | _ =>
      exact keeps.record adds rfl (fun _ => Disk.spares_of_eq rfl rfl)
        fun _ => id

theorem keepsFiles_removalStep
    (before after : State) (step : RemovalStep before after)
    (keeps : before.KeepsFiles) : after.KeepsFiles := by
  cases step with
  | called kind succeeded =>
      exact keeps.record (.log rfl) rfl fun _ => Disk.spares_of_eq rfl rfl
  | removing date pending =>
      have counted : ∀ other,
          removalsOf other (before.log (.removing date)).trace =
            removalsOf other before.trace + if date = other then 1 else 0 := by
        intro other
        rw [trace_log, removalsOf, List.countP_cons]
        congr 1
        by_cases same : date = other <;> simp [same]
      refine keeps.step rfl ?_ ?_ ?_
      · intro other
        rw [counted]
        exact Nat.le_add_right _ _
      · intro other under
        obtain rfl : date = other := Option.some.inj under
        rw [counted, if_pos rfl]
        exact .inr (Nat.lt_succ_self _)
      · exact fun _ => .inr (Disk.spares_of_eq rfl rfl)
  | removePart date removal under =>
      refine keeps.step rfl (fun _ => le_rfl) (fun _ => .inl)
        fun other => ?_
      by_cases same : other = date
      · rw [same]
        exact .inl under
      · exact .inr (Disk.spares_removePart removal same)
  | removeDay date under =>
      refine keeps.step rfl (fun _ => le_rfl) (fun _ => .inl)
        fun other => ?_
      by_cases same : other = date
      · rw [same]
        exact .inl under
      · exact .inr (Disk.spares_removeDay same)
  | removed date result under gone =>
      refine keeps.step rfl ?_ ?_ ?_
      · exact removalsOf_le _ _
      · intro other removing
        cases removing
      · exact fun _ => .inr (Disk.spares_of_eq rfl rfl)
  | delete date idle gone =>
      refine keeps.step rfl ?_ ?_ ?_
      · exact removalsOf_le _ _
      · exact fun _ => .inl
      · exact fun _ => .inr (Disk.spares_of_eq rfl rfl)

theorem keepsOpen_cleanupStep
    (config : Config)
    (before after : State) (step : CleanupStep config before after)
    (keeps : before.KeepsOpen) : after.KeepsOpen := by
  have logs : after.logs = before.logs := by
    cases step with
    | removal step => cases step <;> rfl
    | _ => rfl
  have outlet : after.outlet = before.outlet := by
    cases step with
    | removal step => cases step <;> rfl
    | _ => rfl
  refine ⟨?_, fun dir open' => ?_⟩
  · cases step with
    | removal step => exact keepsFiles_removalStep _ _ step keeps.toKeepsFiles
    | scheduling date freeMb low oldest =>
        refine keeps.toKeepsFiles.step rfl ?_ ?_ ?_
        · exact removalsOf_le _ _
        · exact fun _ => .inl
        · exact fun _ => .inr (Disk.spares_of_eq rfl rfl)
    | notDue early =>
        exact keeps.toKeepsFiles.record (.log rfl) rfl
          fun _ => Disk.spares_of_eq rfl rfl
    | reset =>
        exact keeps.toKeepsFiles.record (.inr ⟨_, rfl, rfl⟩) rfl
          fun _ => Disk.spares_of_eq rfl rfl
    | schedule date announced =>
        exact keeps.toKeepsFiles.record (.inl rfl) rfl
          fun _ => Disk.spares_of_eq rfl rfl
  · rw [logs]
    rw [outlet] at open'
    exact keeps.writing dir open'

theorem KeepsFiles.restart
    {state : State} (keeps : state.KeepsFiles) :
    state.restart.KeepsOpen := by
  refine ⟨keeps.step rfl ?_ ?_ ?_, fun dir outlet => ?_⟩
  · exact removalsOf_le _ _
  · intro date removing
    cases removing
  · exact fun _ => .inr (Disk.spares_of_eq rfl rfl)
  · exact absurd (congrArg Prod.fst outlet) Bool.false_ne_true

theorem keepsFiles_folderStep
    (before after : State) (step : FolderStep before after)
    (keeps : before.KeepsFiles) : after.KeepsFiles := by
  have adds := records_dayStep _ _ (.folder step)
  cases step with
  | mkdir dir parent new =>
      exact keeps.record adds rfl fun _ => Disk.spares_mkdir new
  | _ => exact keeps.record adds rfl fun _ => Disk.spares_of_eq rfl rfl

end State

/-! ## Opening a folder -/

namespace EventDb

theorem folders_insertSegment
    {db : EventDb} (ready : db.videoSegments.isSome = true)
    (folder startTime : CString) :
    (db.insertSegment folder startTime).folders = db.folders ++ [folder] := by
  obtain ⟨rows, present⟩ := Option.isSome_iff_exists.mp ready
  simp [folders, insertSegment, present]

theorem subset_folders_insertSegment
    (db : EventDb) (folder startTime : CString) :
    db.folders ⊆ (db.insertSegment folder startTime).folders := by
  cases present : db.videoSegments with
  | none => simp [folders, present]
  | some rows =>
      rw [folders_insertSegment (by rw [present]; rfl)]
      exact List.subset_append_left _ _

/-- A database takes only folders that it does not list. -/
theorem notMem_folders_of_accepts
    {db : EventDb} {folder : CString} (accepted : db.accepts folder = true) :
    folder ∉ db.folders := by
  intro listed
  obtain ⟨row, member, same⟩ := List.mem_map.mp listed
  unfold accepts at accepted
  cases present : db.videoSegments with
  | none =>
      rw [present] at member
      exact absurd member List.not_mem_nil
  | some rows =>
      rw [present] at member accepted
      simp only [Bool.not_eq_true', List.any_eq_false,
        decide_eq_true_eq] at accepted
      exact accepted row member same

end EventDb

namespace Storage

open Program State

/-- The directories of a folder have been made. -/
structure Chosen (state : State) : Prop where
  keeps : state.KeepsFiles
  idle : underRemoval state.trace = none
  named : state.ws.segmentDir =
    ⟨state.ws.dateDir, zeroPadded 5 state.ws.interruptIdx⟩
  made : state.disk.exists? (.segment state.ws.segmentDir) = true

/-- The folder is listed, and it is none of those that are there. -/
structure Enlisted (state : State) : Prop extends Chosen state where
  listed : ∃ file,
    state.disk.eventLogs state.ws.segmentDir.date = some file ∧
      state.ws.segmentDir.name.take 7 ∈ (state.disk.eventDb file).folders
  new : ∀ log ∈ state.logs, log.Spared state.trace →
    state.ws.segmentDir ≠ log.dir

/-- The fields that name the folder. -/
def folderView (state : State) : SegmentDir × CString × Nat :=
  (state.ws.segmentDir, state.ws.dateDir, state.ws.interruptIdx)

theorem Chosen.record
    {before after : State} (chosen : Chosen before)
    (adds : Adds Event.ofRecording before after)
    (logs : after.logs = before.logs)
    (spares : ∀ date, before.disk.Spares after.disk date)
    (view : folderView after = folderView before) : Chosen after := by
  simp only [folderView, Prod.mk.injEq] at view
  obtain ⟨sameDir, sameDate, sameIndex⟩ := view
  constructor
  · exact chosen.keeps.record adds logs spares
  · rw [adds.view fun _ earlier => underRemoval_cons earlier]
    exact chosen.idle
  · rw [sameDir, sameDate, sameIndex]
    exact chosen.named
  · obtain ⟨folder, found⟩ := Option.isSome_iff_exists.mp chosen.made
    rw [sameDir, Disk.exists?, (spares _).folder _ _ found]
    rfl

theorem Enlisted.record
    {before after : State} (enlisted : Enlisted before)
    (adds : Adds Event.ofRecording before after)
    (logs : after.logs = before.logs)
    (disk : after.disk = before.disk)
    (view : folderView after = folderView before) : Enlisted after := by
  have chosen := enlisted.toChosen.record adds logs
    (fun _ => disk ▸ Disk.spares_of_eq rfl rfl) view
  have sameDir : after.ws.segmentDir = before.ws.segmentDir :=
    congrArg Prod.fst view
  refine ⟨chosen, ?_, fun log listed spared => ?_⟩
  · rw [disk, sameDir]
    exact enlisted.listed
  · rw [sameDir]
    rw [logs] at listed
    apply enlisted.new log listed
    unfold FolderLog.Spared at spared ⊢
    rw [← spared]
    exact (adds.view fun _ earlier recording =>
      removalsOf_cons earlier recording log.dir.date).symm

theorem Chosen.dbStep
    (before after : State) (step : DbStep before after)
    (chosen : Chosen before) : Chosen after := by
  have adds := records_dayStep _ _ (.segment (.db step))
  cases step with
  | statement step =>
      cases step with
      | write file update opens =>
          refine chosen.record adds rfl (fun _ =>
            Disk.spares_updateEventDb file fun db => ?_) rfl
          cases opens <;> exact List.Subset.refl _
      | _ => exact chosen.record adds rfl (fun _ => Disk.spares_of_eq rfl rfl) rfl
  | createLogs date =>
      exact chosen.record adds rfl (fun _ => Disk.spares_openEventLogs date) rfl
  | stamp file folder time clock opened accepted =>
      exact chosen.record adds rfl (fun _ => Disk.spares_updateEventDb file
        fun db => db.subset_folders_insertSegment _ _) rfl
  | _ => exact chosen.record adds rfl (fun _ => Disk.spares_of_eq rfl rfl) rfl

theorem m3u_dbStep
    (before after : State) (step : DbStep before after) :
    after.ws.m3u = before.ws.m3u := by
  cases step with
  | statement step => cases step <;> rfl
  | _ => rfl

/-- A directory for which `ensure_dir` succeeds is there. -/
theorem ensureDir_makes (dir : SegmentDir) (state : State) :
    (ensureDir (.segment dir)).wp
      (fun result after => after.ws = state.ws ∧
        (result = 0 → after.disk.exists? (.segment dir) = true))
      (fun _ => True) state := by
  apply wp_ensureDir trivial
  · exact fun found => ⟨rfl, fun _ => found⟩
  · exact ⟨rfl, fun failed => absurd failed (by decide)⟩
  · intro parent _
    refine ⟨rfl, fun _ => ?_⟩
    obtain ⟨day, present⟩ := Option.isSome_iff_exists.mp parent
    change (state.disk.mkdir (.segment dir)).exists? (.segment dir) = true
    simp only [Disk.mkdir, present, Disk.exists?, Disk.folder]
    rw [Disk.day_setDay, if_pos rfl, Option.bind_some, AList.lookup_insert]
    rfl

/-- A folder is chosen and made, or none. -/
theorem openFolder_chooses
    {state : State} (keeps : state.KeepsFiles)
    (idle : underRemoval state.trace = none) (silent : state.ws.m3u = none) :
    openFolder.wp
      (fun result after => after.KeepsFiles ∧ after.ws.m3u = none ∧
        (result = 0 → Chosen after))
      KeepsFiles state := by
  have kept := keeps_recording openFolder_within
    (fun _ _ step => records_dayStep _ _ (.folder step))
    (fun before after step _ => keepsFiles_folderStep before after step)
    keeps idle
  have same := @Within.preserves _ _ _ _ _ _ openFolder_within
    (fun after => after.ws.m3u) (fun _ _ step => by cases step <;> rfl) state
  have named : openFolder.wp
      (fun result after => after.ws.segmentDir =
          ⟨after.ws.dateDir, zeroPadded 5 after.ws.interruptIdx⟩ ∧
        (result = 0 →
          after.disk.exists? (.segment after.ws.segmentDir) = true))
      (fun _ => True) state := by
    rw [openFolder, wp_bind, todayString, wp_bind, wp_answer]
    refine ⟨trivial, fun today => ?_⟩
    rw [wp_pure]
    simp only
    rw [wp_bind, wp_setWs]
    have ensured : ∀ (dir : Dir) (before : State), (ensureDir dir).wp
        (fun _ after => after.ws = before.ws) (fun _ => True) before :=
      fun dir before => wp_ensureDir trivial (fun _ => rfl) rfl fun _ _ => rfl
    refine wp_then (ensured _ _) fun _ reached sameWs => ?_
    refine wp_then (ensured _ _) fun _ later again => ?_
    rw [wp_bind]
    apply wp_countSubdirs trivial
    intro ok total _
    rw [wp_bind, wp_setWs, wp_bind, wp_log]
    refine wp_mono (ensureDir_makes _ _) ?_ fun _ => id
    rintro result after ⟨own, made⟩
    rw [own]
    refine ⟨?_, made⟩
    change SegmentDir.mk _ _ = ⟨later.ws.dateDir, _⟩
    rw [again, sameWs]
    rfl
  refine wp_mono (wp_and (wp_and kept same) named) ?_ fun _ all => all.1.1.1
  rintro result after ⟨⟨⟨keeps, idle⟩, sameM3u⟩, named, made⟩
  exact ⟨keeps, sameM3u.trans silent,
    fun succeeded => ⟨keeps, idle, named, made succeeded⟩⟩

theorem eventDbExec_names
    {update : EventDb → EventDb} {state : State}
    (named : state.ws.eventDb = state.disk.eventLogs state.ws.dateDir) :
    (eventDbExec update).wp
      (fun result after => result = 0 →
        after.ws.eventDb = after.disk.eventLogs after.ws.dateDir)
      (fun _ => True) state := by
  rw [eventDbExec, wp_bind, wp_call]
  refine ⟨trivial, fun executed _ => wp_split (fun _ => ?_) fun _ => ?_⟩
  · exact fun failed => absurd failed (by decide)
  rw [wp_bind, updateEventDb, wp_bind, wp_current]
  cases (state.log (.called .sql executed.ok)).ws.eventDb with
  | none => exact fun _ => named
  | some file => exact fun _ => named

/-- The database that is opened is the one of the day. -/
theorem eventDbOpen_names (state : State) :
    eventDbOpen.wp
      (fun result after => result = 0 →
        after.ws.eventDb = after.disk.eventLogs after.ws.dateDir)
      (fun _ => True) state := by
  rw [eventDbOpen, wp_bind, wp_current, wp_bind, wp_call]
  refine ⟨trivial, fun opened _ => wp_split (fun _ => ?_) fun _ => ?_⟩
  · exact fun failed => absurd failed (by decide)
  rw [wp_bind, wp_setDisk, wp_bind, wp_current, wp_bind, wp_setWs]
  refine wp_then (eventDbExec_names rfl) fun segments reached named => ?_
  refine wp_split (fun _ => fun failed => absurd failed (by decide))
    fun succeeded => ?_
  refine wp_then (eventDbExec_names (named (not_not.mp succeeded)))
    fun details reached named => ?_
  refine wp_split (fun _ => fun failed => absurd failed (by decide))
    fun succeeded => ?_
  exact eventDbExec_names (named (not_not.mp succeeded))

/-- A folder that gets a row is none of those that are there. -/
theorem eventDbAddSegment_enlists
    {state : State} (chosen : Chosen state)
    (opened : state.ws.eventDb = state.disk.eventLogs state.ws.dateDir) :
    eventDbAddSegment.wp
      (fun id after => Chosen after ∧ (0 ≤ id → Enlisted after))
      KeepsFiles state := by
  rw [eventDbAddSegment, wp_bind, wp_current]
  refine wp_split (fun _ => ⟨chosen, fun valid => by omega⟩) fun _ => ?_
  rw [wp_bind, wp_answer]
  refine ⟨chosen.keeps, fun time => ?_⟩
  rw [wp_bind, wp_answer]
  refine ⟨chosen.keeps, fun clock => ?_⟩
  rw [wp_bind, wp_call]
  refine ⟨chosen.keeps, fun inserted possible => ?_⟩
  have called := Chosen.dbStep _ _
    (.statement (.called state .sql inserted.ok)) chosen
  refine wp_split (fun _ => ⟨called, fun valid => by omega⟩) fun worked => ?_
  have ready := possible (by simpa using worked)
  rw [wp_bind, wp_current, wp_bind, updateEventDb, wp_bind, wp_current]
  cases found : state.ws.eventDb with
  | none => simp [State.eventReady, found] at ready
  | some file =>
      rw [State.eventReady, found] at ready
      simp only [State.ws_log, found]
      rw [wp_setDisk, wp_bind, wp_log]
      have stamped := Chosen.dbStep _ _
        (.stamp (state.log (.called .sql inserted.ok)) file _ time.reading
          clock.reading found ready) called
      have itsFile : state.disk.eventLogs state.ws.segmentDir.date =
          some file := by
        rw [chosen.named]
        exact opened.symm.trans found
      refine ⟨stamped, fun _ => ⟨stamped, ⟨file, itsFile, ?_⟩, ?_⟩⟩
      · have isReady := EventDb.isSome_of_accepts ready
        change _ ∈ ((state.disk.updateEventDb file _).eventDb file).folders
        rw [Disk.eventDb_updateEventDb,
          if_pos ⟨rfl, Disk.lt_of_segments isReady⟩,
          EventDb.folders_insertSegment isReady]
        apply List.mem_append_right
        change state.ws.segmentDir.name.take 7 ∈ _
        rw [chosen.named]
        exact List.mem_cons_self
      · intro log listed spared same
        change state.ws.segmentDir = log.dir at same
        have stored := (chosen.keeps.tracked log listed).stored spared
        obtain ⟨other, otherFile, there⟩ := stored.listed
        rw [← same] at otherFile there
        obtain rfl : file = other :=
          Option.some.inj (itsFile.symm.trans otherFile)
        rw [chosen.named] at there
        exact EventDb.notMem_folders_of_accepts ready there

/-- The log of a folder that was enlisted is on the card. -/
theorem Enlisted.opens
    {state : State} (enlisted : Enlisted state) :
    (state.log (.opened 0)).KeepsOpen := by
  have logs : (state.log (.opened 0)).logs =
      Moment.openLog ⟨.opened 0, state.ws, state.disk⟩ state.trace ::
        state.logs := rfl
  have keeps : (state.log (.opened 0)).KeepsFiles := by
    have older : ∀ log ∈ state.logs, log.Tracked (state.log (.opened 0)) := by
      intro log listed
      apply (enlisted.keeps.tracked log listed).step
      · rw [trace_log, removalsOf_cons _ rfl]
      · exact .inl
      · exact .inr (Disk.spares_of_eq rfl rfl)
    have spared : ∀ log : FolderLog, log.Spared (state.log (.opened 0)).trace →
        log.Spared state.trace := by
      intro log spared
      unfold FolderLog.Spared at spared ⊢
      rw [trace_log, removalsOf_cons _ rfl] at spared
      exact spared
    constructor
    · rw [logs]
      refine List.forall_mem_cons.mpr ⟨⟨?_, fun removing => ?_,
        fun _ => ⟨?_, enlisted.listed⟩⟩, older⟩
      · rw [trace_log, removalsOf_cons _ rfl]
        exact le_rfl
      · exact absurd (enlisted.idle.symm.trans removing) (by simp)
      · obtain ⟨folder, found⟩ := Option.isSome_iff_exists.mp enlisted.made
        change state.disk.folder state.ws.segmentDir.date
          state.ws.segmentDir.name = _
        rw [found]
        congr 1
        funext name
        simp [FolderLog.folder, Moment.openLog, found]
    · rw [logs]
      refine List.pairwise_cons.mpr ⟨fun log listed isSpared => ?_, ?_⟩
      · exact enlisted.new log listed (spared log isSpared)
      · exact enlisted.keeps.apart.imp fun unlike isSpared =>
          unlike (spared _ isSpared)
  refine ⟨keeps, fun dir outlet => ⟨_, rfl, ?_⟩⟩
  exact congrArg (fun outlet => outlet.2.2) outlet

/-- A folder was opened, or no muxer with a playlist is there. -/
def Opens (result : Int) (state : State) : Prop :=
  state.KeepsFiles ∧ (result = 0 → Enlisted state) ∧
    (result ≠ 0 → ∀ dir, state.outlet ≠ (true, true, dir))

theorem outlet_of_silent
    {state : State} (silent : state.ws.m3u = none) (dir : SegmentDir) :
    state.outlet ≠ (true, true, dir) := by
  intro outlet
  have missing := congrArg (fun outlet => outlet.2.1) outlet
  rw [State.outlet, silent] at missing
  exact absurd missing Bool.false_ne_true

/-- Without both allocations there is no muxer with a playlist. -/
theorem hlsCreate_opens
    (config : Config) {state : State} (enlisted : Enlisted state) :
    (hlsCreate config).wp
      (fun result after => Enlisted after ∧
        (result ≠ 0 → ∀ dir, after.outlet ≠ (true, true, dir)))
      KeepsFiles state := by
  rw [hlsCreate, wp_bind, wp_call]
  refine ⟨enlisted.keeps, fun m3u _ => ?_⟩
  rw [wp_bind, wp_setWs, wp_bind, wp_call]
  have called : Enlisted (state.log (.called .alloc m3u.ok)) :=
    enlisted.record (.log rfl) rfl rfl rfl
  have first : Enlisted ((state.log (.called .alloc m3u.ok)).updateWs fun ws =>
      { ws with m3u := if m3u.ok then some [] else none }) :=
    called.record (.inl rfl) rfl rfl rfl
  refine ⟨first.keeps, fun hls _ => ?_⟩
  rw [wp_bind, wp_setWs, wp_pure]
  have second : Enlisted (((state.log (.called .alloc m3u.ok)).updateWs
      fun ws => { ws with m3u := if m3u.ok then some [] else none }).log
        (.called .alloc hls.ok)) :=
    first.record (.log rfl) rfl rfl rfl
  refine ⟨second.record (.inl rfl) rfl rfl rfl, fun failed dir outlet => ?_⟩
  simp only [State.outlet, State.ws_updateWs, State.ws_log,
    Prod.mk.injEq] at outlet
  obtain ⟨hasMuxer, hasPlaylist, _⟩ := outlet
  apply failed
  rw [if_pos]
  rw [Bool.and_eq_true]
  constructor
  · by_contra refused
    simp [refused] at hasMuxer
  · by_contra refused
    simp [refused] at hasPlaylist

theorem openSegment_opens
    (config : Config) {state : State} (chosen : Chosen state)
    (silent : state.ws.m3u = none) :
    (openSegment config).wp Opens KeepsFiles state := by
  rw [openSegment]
  have same := @Within.preserves _ _ _ _ _ _ eventDbOpen_within
    (fun after => after.ws.m3u) m3u_dbStep state
  have kept := eventDbOpen_within.keeps Chosen.dbStep state chosen
  refine wp_then (wp_mono (wp_and (wp_and kept same) (eventDbOpen_names state))
    (fun _ _ all => all) fun _ all => all.1.1.keeps) ?_
  rintro db reached ⟨⟨chosen, sameM3u⟩, named⟩
  have silent := sameM3u.trans silent
  refine wp_split (fun _ => ?_) fun succeeded => ?_
  · exact ⟨chosen.keeps, fun zero => absurd zero (by decide),
      fun _ => outlet_of_silent silent⟩
  have same := @Within.preserves _ _ _ _ _ _ eventDbAddSegment_within
    (fun after => after.ws.m3u) m3u_dbStep reached
  refine wp_then (wp_mono (wp_and (eventDbAddSegment_enlists chosen
    (named (not_not.mp succeeded))) same) (fun _ _ both => both)
    fun _ both => both.1) ?_
  rintro id reached ⟨⟨chosen, enlisted⟩, sameM3u⟩
  have silent := sameM3u.trans silent
  have identified : (reached.updateWs fun ws =>
      { ws with currentSegmentId := id }).KeepsFiles :=
    chosen.keeps.record (.inl rfl) rfl fun _ => Disk.spares_of_eq rfl rfl
  rw [wp_bind, wp_setWs]
  refine wp_split (fun _ => ?_) fun valid => ?_
  · rw [wp_bind, eventDbClose, wp_setWs]
    have closed : ((reached.updateWs fun ws =>
        { ws with currentSegmentId := id }).updateWs fun ws =>
          { ws with eventDb := none }).KeepsFiles :=
      identified.record (.inl rfl) rfl fun _ => Disk.spares_of_eq rfl rfl
    exact ⟨closed, fun zero => absurd zero (by decide),
      fun _ => outlet_of_silent silent⟩
  have enlisted := enlisted (by omega)
  have ready : Enlisted ((reached.updateWs fun ws =>
      { ws with currentSegmentId := id }).updateWs fun ws =>
        { ws with
          frameCount := 0
          motionCount := 0
          lastFps := config.fpsLow
          ptsMs := 0
          seenKeyframe := false }) :=
    enlisted.record (.inl rfl) rfl rfl rfl
  rw [wp_bind, resetSegment, wp_setWs]
  refine wp_then (hlsCreate_opens config ready) ?_
  rintro hls reached ⟨enlisted, silent⟩
  refine wp_split (fun failed => ?_) fun _ => ?_
  · rw [wp_bind, eventDbClose, wp_setWs]
    have closed : (reached.updateWs fun ws =>
        { ws with eventDb := none }).KeepsFiles :=
      enlisted.keeps.record (.inl rfl) rfl fun _ => Disk.spares_of_eq rfl rfl
    exact ⟨closed, fun zero => absurd zero (by decide), fun _ => silent failed⟩
  · exact ⟨enlisted.keeps, fun _ => enlisted,
      fun nonzero => absurd rfl nonzero⟩

/-- Opening a day opens a folder, or leaves no muxer with a playlist. -/
theorem openToday_keepsOpen
    (config : Config) {state : State} (keeps : state.KeepsFiles)
    (idle : underRemoval state.trace = none) (silent : state.ws.m3u = none) :
    (openToday config).wp (fun _ => KeepsOpen) KeepsFiles state := by
  have begun : (state.log .opening).KeepsFiles :=
    keeps.record (.log rfl) rfl fun _ => Disk.spares_of_eq rfl rfl
  rw [openToday, wp_bind, wp_log]
  refine wp_then (openFolder_chooses begun idle silent) ?_
  rintro folder reached ⟨keeps, silent, chosen⟩
  refine wp_via Opens (wp_split (fun _ => ?_) fun succeeded =>
    openSegment_opens config (chosen (not_not.mp succeeded)) silent) ?_
  · exact ⟨keeps, fun zero => absurd zero (by decide),
      fun _ => outlet_of_silent silent⟩
  rintro result reached ⟨keeps, enlisted, silent⟩
  rw [wp_bind, wp_log]
  by_cases succeeded : result = 0
  · subst succeeded
    exact (enlisted rfl).opens
  · have logs : (reached.log (.opened result)).logs = reached.logs := by
      simp [State.logs, Moment.folderLogs, succeeded]
    exact ⟨keeps.record (.log rfl) logs fun _ => Disk.spares_of_eq rfl rfl,
      fun dir outlet => absurd outlet (silent succeeded dir)⟩

end Storage

/-- In every history, whatever fails in it, a folder that was opened holds what was
found in it with the files published since, until the removal of its day begins. -/
theorem writer_keeps_files
    (config : Config) {phase : Daemon.Phase} {state : State}
    (reached : (writer config).Reach State.Unused phase state)
    {log : FolderLog} (listed : log ∈ state.logs)
    (spared : log.Spared state.trace) :
    state.disk.folder log.dir.date log.dir.name = some log.folder := by
  have maintains : Maintains config State.Unused State.KeepsFiles
      State.KeepsOpen := by
    refine ⟨fun _ keeps => keeps.toKeepsFiles, fun first unused => ?_,
      fun _ => State.KeepsFiles.restart, fun _ keeps idle _ silent =>
        Storage.openToday_keepsOpen config keeps.toKeepsFiles idle silent,
      fun before after step _ => State.keepsOpen_turnStep before after step,
      fun before after step _ => State.keepsOpen_frameStep before after step,
      fun state keeps idle _ => ?_, fun state keeps idle => ?_⟩
    · have none : first.logs = [] := by rw [State.logs, unused]; rfl
      constructor
      · rw [none]
        exact fun _ absent => absurd absent List.not_mem_nil
      · rw [none]
        exact .nil
    · exact Program.wp_mono (Storage.keeps_recording
        (Storage.recordProgress_within config) State.records_progressStep
        (fun before after step _ =>
          State.keepsOpen_progressStep before after step) keeps idle)
        (fun _ _ both => both.1) fun _ both => both.1.toKeepsFiles
    · exact Program.wp_mono (Storage.keeps_cleanup config
        (State.keepsOpen_cleanupStep config) keeps idle)
        (fun _ _ both => both.1) fun _ keeps => keeps.toKeepsFiles
  have keeps := maintains.everywhere reached
  exact ((keeps.tracked log listed).stored spared).folder

end MotionSense
