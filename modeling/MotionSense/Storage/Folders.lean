import MotionSense.Storage.FolderLog
import MotionSense.Storage.Paths

/-!
# Folders and the databases that list them

Which changes of the card bring no new folder and list none, and which keep the
folders of a day.
-/

namespace MotionSense

/-- The names of a day's folders. -/
def Disk.folderNames (disk : Disk) (date : CString) : List CString :=
  match disk.day date with
  | none => []
  | some day => day.folders.keys

/-- The folders that a database lists. -/
def EventDb.folders (db : EventDb) : List CString :=
  (db.videoSegments.getD []).map SegmentRow.folder

/-! ## Databases and their folders -/

namespace EventDb

theorem folders_createSegments (db : EventDb) :
    db.createSegments.folders = db.folders := rfl

theorem folders_createDetails (db : EventDb) :
    db.createDetails.folders = db.folders := rfl

theorem folders_insertDetail (db : EventDb) (videoId motionFrame : Int) :
    (db.insertDetail videoId motionFrame).folders = db.folders := rfl

theorem folders_updateTotalFrames (db : EventDb) (id totalFrames : Int) :
    (db.updateTotalFrames id totalFrames).folders = db.folders := by
  unfold updateTotalFrames folders
  cases db.videoSegments with
  | none => rfl
  | some rows =>
      simp only [Option.map_some, Option.getD_some]
      split
      · apply List.ext_getElem?
        intro place
        rw [List.getElem?_map, List.getElem?_map, List.getElem?_modify]
        cases rows[place]? with
        | none => rfl
        | some row =>
            simp only [Option.map_some]
            split <;> rfl
      · rfl

theorem mem_folders_insertSegment
    {db : EventDb} {folder startTime name : CString}
    (listed : name ∈ (db.insertSegment folder startTime).folders) :
    name ∈ db.folders ∨ name = folder := by
  unfold insertSegment folders at listed
  unfold folders
  cases present : db.videoSegments with
  | none =>
      rw [present] at listed
      exact absurd listed List.not_mem_nil
  | some rows =>
      rw [present, Option.map_some, Option.getD_some, List.map_append,
        List.mem_append] at listed
      rcases listed with old | new
      · exact .inl old
      · exact .inr (List.mem_singleton.mp new)

theorem accepts_createSegments (db : EventDb) (folder : CString) :
    db.createSegments.accepts folder = true ↔ folder ∉ db.folders := by
  unfold accepts createSegments folders
  simp only [Bool.not_eq_true', List.any_eq_false, decide_eq_true_eq,
    List.mem_map, not_exists, not_and]

end EventDb

/-! ## Folders that stay -/

/-- The folders of a day are as many as the numbers that no folder from then on
has, and its database lists only folders below that. -/
def DayDir.Numbered (day : DayDir) (disk : Disk) (size : Nat) : Prop :=
  day.Filled size ∧ ∀ file, day.eventLogs = some file →
    ∀ name ∈ (disk.eventDb file).folders, ∃ index < size,
      name = zeroPadded 5 index

/-- The same folders are numbered alike. -/
theorem DayDir.Filled.of_subset
    {earlier day : DayDir} {size : Nat} (filled : earlier.Filled size)
    (fewer : day.folders.keys ⊆ earlier.folders.keys)
    (kept : earlier.folders.keys ⊆ day.folders.keys) :
    day.Filled size := by
  refine ⟨?_, fun index large member => ?_⟩
  · rw [← filled.length]
    apply le_antisymm
    · exact (List.subperm_of_subset day.folders.keys_nodup fewer).length_le
    · exact (List.subperm_of_subset earlier.folders.keys_nodup kept).length_le
  · exact filled.free index large
      (AList.mem_keys.mpr (fewer (AList.mem_keys.mp member)))

namespace Disk

theorem folderNames_of_day
    {disk : Disk} {date : CString} {day : DayDir}
    (present : disk.day date = some day) :
    disk.folderNames date = day.folders.keys := by
  rw [folderNames, present]

theorem eventLogs_of_day
    {disk : Disk} {date : CString} {day : DayDir}
    (present : disk.day date = some day) :
    disk.eventLogs date = day.eventLogs := by
  rw [eventLogs, present]
  rfl

theorem day_setDay
    (disk : Disk) (written : CString) (day : DayDir) (date : CString) :
    (disk.setDay written day).day date =
      if date = written then some day else disk.day date := by
  split
  · rename_i same
    rw [same, Disk.day, setDay, AList.lookup_insert]
  · rename_i different
    rw [Disk.day, setDay, AList.lookup_insert_ne different]
    rfl

/-- Days have different databases, and every database is there. -/
structure FilesApart (disk : Disk) : Prop where
  lt : ∀ date file, disk.eventLogs date = some file →
    file < disk.eventDbs.length
  apart : ∀ date other file, disk.eventLogs date = some file →
    disk.eventLogs other = some file → date = other

/-- Databases are lost at most. -/
theorem FilesApart.of_subset
    {before after : Disk} (apart : before.FilesApart)
    (fewer : ∀ date file, after.eventLogs date = some file →
      before.eventLogs date = some file)
    (kept : before.eventDbs.length ≤ after.eventDbs.length) :
    after.FilesApart :=
  ⟨fun date file opened =>
      (apart.lt date file (fewer date file opened)).trans_le kept,
    fun date other file opened openedToo =>
      apart.apart date other file (fewer date file opened)
        (fewer other file openedToo)⟩

/-- No day is new, no folder is, and no folder is newly listed. -/
structure NoNewFolders (before after : Disk) : Prop where
  days : ∀ date day, after.day date = some day →
    ∃ earlier, before.day date = some earlier ∧
      day.folders.keys ⊆ earlier.folders.keys
  listed : ∀ date file, after.eventLogs date = some file →
    ∀ name ∈ (after.eventDb file).folders,
      before.eventLogs date = some file ∧ name ∈ (before.eventDb file).folders
  apart : after.FilesApart

/-- The folders of a day that stays are all there. -/
def KeepsFolders (before after : Disk) (date : CString) : Prop :=
  ∀ earlier day, before.day date = some earlier →
    after.day date = some day → earlier.folders.keys ⊆ day.folders.keys

theorem NoNewFolders.names
    {before after : Disk} (same : before.NoNewFolders after)
    {date name : CString} (there : name ∈ after.folderNames date) :
    name ∈ before.folderNames date := by
  cases present : after.day date with
  | none =>
      rw [folderNames, present] at there
      exact absurd there List.not_mem_nil
  | some day =>
      obtain ⟨earlier, existed, fewer⟩ := same.days date day present
      rw [folderNames_of_day present] at there
      rw [folderNames_of_day existed]
      exact fewer there

theorem NoNewFolders.numbered
    {before after : Disk} (same : before.NoNewFolders after)
    {date : CString} (kept : before.KeepsFolders after date)
    {earlier day : DayDir} (existed : before.day date = some earlier)
    (present : after.day date = some day) {size : Nat}
    (numbered : earlier.Numbered before size) :
    day.Numbered after size := by
  obtain ⟨older, found, fewer⟩ := same.days date day present
  obtain rfl : older = earlier := Option.some.inj (found.symm.trans existed)
  refine ⟨numbered.1.of_subset fewer (kept older day existed present),
    fun file opened name member => ?_⟩
  rw [← eventLogs_of_day present] at opened
  obtain ⟨sameFile, wasMember⟩ := same.listed date file opened name member
  rw [eventLogs_of_day existed] at sameFile
  exact numbered.2 file sameFile name wasMember

/-- The same days, each with the same folders and the same database. -/
theorem noNewFolders_of_days
    {before after : Disk} (apart : before.FilesApart)
    (days : ∀ date day, after.day date = some day →
      ∃ earlier, before.day date = some earlier ∧
        day.folders.keys ⊆ earlier.folders.keys ∧
        ∀ file, day.eventLogs = some file → earlier.eventLogs = some file)
    (length : after.eventDbs.length = before.eventDbs.length)
    (folders : ∀ file,
      (after.eventDb file).folders = (before.eventDb file).folders) :
    before.NoNewFolders after := by
  have logs : ∀ date file, after.eventLogs date = some file →
      before.eventLogs date = some file := by
    intro date file opened
    obtain ⟨day, present, itsLogs⟩ := Option.bind_eq_some_iff.mp opened
    obtain ⟨earlier, existed, _, sameLogs⟩ := days date day present
    rw [eventLogs_of_day existed]
    exact sameLogs file itsLogs
  refine ⟨fun date day present => ?_, fun date file opened name member => ?_,
    apart.of_subset logs length.ge⟩
  · obtain ⟨earlier, existed, fewer, _⟩ := days date day present
    exact ⟨earlier, existed, fewer⟩
  · rw [folders] at member
    exact ⟨logs date file opened, member⟩

/-- A change that leaves the days and the databases alone. -/
theorem noNewFolders_of_eq
    {before after : Disk} (apart : before.FilesApart)
    (days : after.days = before.days)
    (files : after.eventDbs = before.eventDbs) :
    before.NoNewFolders after := by
  apply noNewFolders_of_days apart
  · intro date day present
    rw [Disk.day, days] at present
    exact ⟨day, present, List.Subset.refl _, fun _ => id⟩
  · rw [files]
  · intro file
    rw [eventDb, files, eventDb]

theorem keepsFolders_of_eq
    {before after : Disk} (days : after.days = before.days)
    (date : CString) : before.KeepsFolders after date := by
  intro earlier day existed present
  rw [Disk.day, days, ← Disk.day, existed] at present
  cases present
  exact List.Subset.refl _

/-- Writing the directory of a day with the same folders and database. -/
theorem noNewFolders_setDay
    {disk : Disk} (apart : disk.FilesApart)
    {written : CString} {found day : DayDir}
    (existed : disk.day written = some found)
    (fewer : day.folders.keys ⊆ found.folders.keys)
    (logs : ∀ file, day.eventLogs = some file →
      found.eventLogs = some file) :
    disk.NoNewFolders (disk.setDay written day) := by
  refine noNewFolders_of_days apart (fun date there present => ?_) rfl
    fun _ => rfl
  rw [day_setDay] at present
  split at present
  · rename_i same
    cases present
    exact ⟨found, same ▸ existed, fewer, logs⟩
  · exact ⟨there, present, List.Subset.refl _, fun _ => id⟩

theorem keepsFolders_setDay
    {disk : Disk} {written : CString} {found day : DayDir}
    (existed : disk.day written = some found)
    (date : CString)
    (kept : date = written → found.folders.keys ⊆ day.folders.keys) :
    disk.KeepsFolders (disk.setDay written day) date := by
  intro earlier there before after
  rw [day_setDay] at after
  split at after
  · rename_i same
    subst same
    cases after
    obtain rfl := Option.some.inj (before.symm.trans existed)
    exact kept rfl
  · cases before.symm.trans after
    exact List.Subset.refl _

/-- Writing a folder that there is. -/
theorem mem_keys_insert
    {folders : AList (fun _ : CString => Folder)}
    {name : CString} {found : Folder}
    (there : folders.lookup name = some found) (folder : Folder)
    (other : CString) :
    other ∈ (folders.insert name folder).keys ↔ other ∈ folders.keys := by
  rw [← AList.mem_keys, AList.mem_insert, AList.mem_keys]
  refine or_iff_right_of_imp fun same => ?_
  rw [same, ← AList.mem_keys]
  exact AList.lookup_isSome.mp (Option.isSome_of_mem there)

section PutFile

variable (disk : Disk) (dir : SegmentDir) (name : CString) (data : FileData)

theorem noNewFolders_putFile (apart : disk.FilesApart) :
    disk.NoNewFolders (disk.putFile dir name data) := by
  unfold putFile
  split
  · exact noNewFolders_of_eq apart rfl rfl
  · rename_i day present
    split
    · exact noNewFolders_of_eq apart rfl rfl
    · rename_i folder found
      exact noNewFolders_setDay apart present
        (fun other => (mem_keys_insert found _ other).mp) fun _ => id

theorem keepsFolders_putFile (date : CString) :
    disk.KeepsFolders (disk.putFile dir name data) date := by
  unfold putFile
  split
  · exact keepsFolders_of_eq rfl date
  · rename_i day present
    split
    · exact keepsFolders_of_eq rfl date
    · rename_i folder found
      exact keepsFolders_setDay present date fun _ other =>
        (mem_keys_insert found _ other).mpr

theorem eventLogs_putFile (date : CString) :
    (disk.putFile dir name data).eventLogs date = disk.eventLogs date := by
  unfold putFile
  split
  · rfl
  rename_i day present
  split
  · rfl
  rw [eventLogs, day_setDay]
  split
  · rename_i same
    rw [same, eventLogs_of_day present]
    rfl
  · rfl

/-- One file of one folder is replaced. -/
theorem folder_putFile (date other : CString) :
    (disk.putFile dir name data).folder date other =
      if date = dir.date ∧ other = dir.name then
        (disk.folder date other).map fun folder =>
          Function.update folder name (some data)
      else disk.folder date other := by
  by_cases own : date = dir.date ∧ other = dir.name
  · obtain ⟨rfl, rfl⟩ := own
    rw [if_pos ⟨rfl, rfl⟩]
    cases present : disk.day dir.date with
    | none => simp [putFile, folder, present]
    | some day =>
        cases found : day.folders.lookup dir.name with
        | none => simp [putFile, folder, present, found]
        | some old =>
            simp only [putFile, present, found]
            rw [folder, day_setDay, if_pos rfl, folder, present]
            simp [found]
  · rw [if_neg own]
    cases present : disk.day dir.date with
    | none => simp [putFile, present]
    | some day =>
        cases found : day.folders.lookup dir.name with
        | none => simp [putFile, present, found]
        | some old =>
            simp only [putFile, present, found]
            rw [folder, day_setDay]
            split
            · rename_i same
              have unlike : other ≠ dir.name := fun equal => own ⟨same, equal⟩
              rw [folder, same, present, Option.bind_some, Option.bind_some,
                AList.lookup_insert_ne unlike]
            · rfl

end PutFile

theorem folder_putFile_self
    {disk : Disk} {dir : SegmentDir} (name : CString) (data : FileData)
    {folder : Folder} (found : disk.folder dir.date dir.name = some folder) :
    (disk.putFile dir name data).folder dir.date dir.name =
      some (Function.update folder name (some data)) := by
  rw [folder_putFile, if_pos ⟨rfl, rfl⟩, found, Option.map_some]

/-- A statement that adds no folder. -/
theorem noNewFolders_updateEventDb
    {disk : Disk} (apart : disk.FilesApart) (file : Nat)
    {update : EventDb → EventDb}
    (folders : ∀ db, (update db).folders = db.folders) :
    disk.NoNewFolders (disk.updateEventDb file update) := by
  apply noNewFolders_of_days apart
  · exact fun date day present =>
      ⟨day, present, List.Subset.refl _, fun _ => id⟩
  · exact List.length_modify _ _ _
  · intro other
    rw [eventDb_updateEventDb]
    split
    · exact folders _
    · rfl

section NewDatabase

variable {disk : Disk} {opened : CString} {day : DayDir}
  (present : disk.day opened = some day) (unopened : day.eventLogs = none)

include present unopened

theorem openEventLogs_new :
    disk.openEventLogs opened =
      { disk.setDay opened
          { day with eventLogs := some disk.eventDbs.length } with
        eventDbs := disk.eventDbs ++ [{}] } := by
  rw [openEventLogs, present]
  simp only [unopened]

theorem day_openEventLogs_new (date : CString) :
    (disk.openEventLogs opened).day date =
      if date = opened then
        some { day with eventLogs := some disk.eventDbs.length }
      else disk.day date := by
  rw [openEventLogs_new present unopened]
  exact day_setDay disk opened _ date

theorem eventDbs_openEventLogs_new :
    (disk.openEventLogs opened).eventDbs =
      disk.eventDbs ++ [({} : EventDb)] := by
  rw [openEventLogs_new present unopened]

/-- Every database is an old one or the new one. -/
theorem eventLogs_openEventLogs_new
    {date : CString} {file : Nat}
    (itsFile : (disk.openEventLogs opened).eventLogs date = some file) :
    disk.eventLogs date = some file ∨
      date = opened ∧ file = disk.eventDbs.length := by
  obtain ⟨there, found, itsLogs⟩ := Option.bind_eq_some_iff.mp itsFile
  rw [day_openEventLogs_new present unopened] at found
  split at found
  · rename_i same
    cases found
    exact .inr ⟨same, (Option.some.inj itsLogs).symm⟩
  · exact .inl (by rw [eventLogs_of_day found, itsLogs])

theorem filesApart_openEventLogs_new (apart : disk.FilesApart) :
    (disk.openEventLogs opened).FilesApart := by
  have logs := @eventLogs_openEventLogs_new _ _ _ present unopened
  refine ⟨fun date file itsFile => ?_,
    fun date other file itsFile otherFile => ?_⟩
  · rw [eventDbs_openEventLogs_new present unopened, List.length_append,
      List.length_singleton]
    rcases logs itsFile with old | ⟨_, new⟩
    · exact (apart.lt date file old).trans (Nat.lt_succ_self _)
    · omega
  · rcases logs itsFile with old | ⟨same, new⟩ <;>
      rcases logs otherFile with older | ⟨again, newer⟩
    · exact apart.apart date other file old older
    · exact absurd (apart.lt date file old) (by omega)
    · exact absurd (apart.lt other file older) (by omega)
    · rw [same, again]

theorem noNewFolders_openEventLogs_new (apart : disk.FilesApart) :
    disk.NoNewFolders (disk.openEventLogs opened) := by
  refine ⟨fun date there found => ?_, fun date file itsFile name member => ?_,
    filesApart_openEventLogs_new present unopened apart⟩
  · rw [day_openEventLogs_new present unopened] at found
    split at found
    · rename_i same
      cases found
      exact ⟨day, same ▸ present, List.Subset.refl _⟩
    · exact ⟨there, found, List.Subset.refl _⟩
  · rw [eventDb, eventDbs_openEventLogs_new present unopened] at member
    rcases eventLogs_openEventLogs_new present unopened itsFile with
      old | ⟨_, new⟩
    · rw [List.getD_append _ _ _ _ (apart.lt date file old)] at member
      exact ⟨old, member⟩
    · rw [new, List.getD_append_right _ _ _ _ le_rfl, Nat.sub_self] at member
      exact absurd member List.not_mem_nil

end NewDatabase

/-- A new database lists nothing. -/
theorem noNewFolders_openEventLogs
    {disk : Disk} (apart : disk.FilesApart) (opened : CString) :
    disk.NoNewFolders (disk.openEventLogs opened) := by
  cases present : disk.day opened with
  | none =>
      rw [openEventLogs, present]
      exact noNewFolders_of_eq apart rfl rfl
  | some day =>
      cases unopened : day.eventLogs with
      | some file =>
          rw [openEventLogs, present]
          simp only [unopened]
          exact noNewFolders_of_eq apart rfl rfl
      | none => exact noNewFolders_openEventLogs_new present unopened apart

theorem keepsFolders_openEventLogs
    (disk : Disk) (opened date : CString) :
    disk.KeepsFolders (disk.openEventLogs opened) date := by
  unfold openEventLogs
  split
  · exact keepsFolders_of_eq rfl date
  · rename_i day present
    split
    · exact keepsFolders_of_eq rfl date
    · exact keepsFolders_setDay present date fun _ => List.Subset.refl _

/-! ## Removals -/

theorem noNewFolders_removeDay
    {disk : Disk} (apart : disk.FilesApart) (removed : CString) :
    disk.NoNewFolders (disk.removeDay removed) := by
  refine noNewFolders_of_days apart (fun date day present => ?_) rfl
    fun _ => rfl
  by_cases same : date = removed
  · rw [same, Disk.day, removeDay, AList.lookup_erase] at present
    exact nomatch present
  · rw [Disk.day, removeDay, AList.lookup_erase_ne same] at present
    exact ⟨day, present, List.Subset.refl _, fun _ => id⟩

theorem keepsFolders_removeDay (disk : Disk) (removed date : CString) :
    disk.KeepsFolders (disk.removeDay removed) date := by
  intro earlier day existed present
  by_cases same : date = removed
  · rw [same, Disk.day, removeDay, AList.lookup_erase] at present
    exact nomatch present
  · rw [Disk.day, removeDay, AList.lookup_erase_ne same] at present
    cases existed.symm.trans present
    exact List.Subset.refl _

/-- Steps that add no name, one for each of a list of names. -/
theorem keys_foldl_subset
    {step : AList (fun _ : CString => Folder) → CString →
      AList (fun _ : CString => Folder)}
    (fewer : ∀ folders name, (step folders name).keys ⊆ folders.keys)
    (names : List CString) (folders : AList (fun _ : CString => Folder)) :
    (names.foldl step folders).keys ⊆ folders.keys := by
  induction names generalizing folders with
  | nil => exact List.Subset.refl _
  | cons name names inductionHypothesis =>
      rw [List.foldl_cons]
      exact List.Subset.trans (inductionHypothesis _) (fewer folders name)

/-- A removal takes folders away only. -/
theorem keys_remove_subset (day : DayDir) (removal : Removal) :
    (day.remove removal).folders.keys ⊆ day.folders.keys := by
  unfold DayDir.remove
  apply keys_foldl_subset
  intro folders name
  split
  · exact fun other there => AList.mem_keys.mp
      (AList.mem_erase.mp (AList.mem_keys.mpr there)).2
  split
  · exact List.Subset.refl _
  · rw [AList.keys_replace]
    exact List.Subset.refl _

theorem noNewFolders_removePart
    {disk : Disk} (apart : disk.FilesApart)
    (removed : CString) (removal : Removal) :
    disk.NoNewFolders (disk.removePart removed removal) := by
  unfold removePart
  split
  · exact noNewFolders_of_eq apart rfl rfl
  · rename_i day present
    apply noNewFolders_setDay apart present (keys_remove_subset day removal)
    intro file itsFile
    change (if removal.eventLogs then none else day.eventLogs) = _ at itsFile
    split at itsFile
    · exact nomatch itsFile
    · exact itsFile

/-- Other days keep their folders. -/
theorem keepsFolders_removePart
    (disk : Disk) {removed date : CString} (removal : Removal)
    (other : date ≠ removed) :
    disk.KeepsFolders (disk.removePart removed removal) date := by
  unfold removePart
  split
  · exact keepsFolders_of_eq rfl date
  · rename_i day present
    exact keepsFolders_setDay present date fun same => absurd same other

end Disk
end MotionSense
