import MotionSense.Storage.Folders
import MotionSense.Storage.Marks

/-!
# Counts of motion on the card

`motion_count` of a day in `VideoMetadata` and the rows of `EventDetails` in the
day's `EventLogs.db`: which changes of the card keep the two the same, which take
them apart, and what brings them together again.
-/

namespace MotionSense

namespace Disk

/-- `motion_count` of a day; a day without a row has none. -/
def motionCount (disk : Disk) (date : CString) : Int :=
  ((disk.metaRow date).map MetaRow.motionCount).getD 0

/-- The rows of `EventDetails` in the day's `EventLogs.db`. -/
def dayMarks (disk : Disk) (date : CString) : List EventRow :=
  match disk.eventLogs date with
  | none => []
  | some file => (disk.eventDb file).marks

/-- The count of a day is the number of its marks. -/
def RolledUpAt (disk : Disk) (date : CString) : Prop :=
  disk.motionCount date = (disk.dayMarks date).length

/-- `VideoMetadata` counts the marks of every day. -/
def RolledUp (disk : Disk) : Prop := ∀ date, disk.RolledUpAt date

/-- Every day with a count has its `EventLogs.db`. -/
def KeepsLogs (disk : Disk) : Prop :=
  ∀ row ∈ disk.metaRows, row.motionCount ≠ 0 →
    (disk.eventLogs row.date).isSome = true

instance (disk : Disk) : Decidable disk.KeepsLogs :=
  inferInstanceAs (Decidable (∀ row ∈ disk.metaRows, row.motionCount ≠ 0 →
    (disk.eventLogs row.date).isSome = true))

end Disk

/-! ## The card -/

namespace Disk

/-- What the card is like between two frames. -/
structure Tallied (disk : Disk) : Prop where
  apart : disk.FilesApart
  rolledUp : disk.RolledUp

/-- The marks of a day and its count are the same. -/
structure SameMarks (before after : Disk) : Prop where
  logs : after.eventLogs = before.eventLogs
  length : after.eventDbs.length = before.eventDbs.length
  marks : ∀ file, (after.eventDb file).marks = (before.eventDb file).marks

theorem SameMarks.dayMarks
    {before after : Disk} (same : before.SameMarks after) (date : CString) :
    after.dayMarks date = before.dayMarks date := by
  unfold Disk.dayMarks
  rw [same.logs]
  cases before.eventLogs date with
  | none => rfl
  | some file => exact same.marks file

theorem SameMarks.filesApart
    {before after : Disk} (same : before.SameMarks after)
    (apart : before.FilesApart) : after.FilesApart :=
  apart.of_subset (fun date file opened => by rwa [same.logs] at opened)
    same.length.ge

theorem SameMarks.of_days
    {before after : Disk}
    (days : after.days = before.days)
    (files : after.eventDbs = before.eventDbs) :
    before.SameMarks after := by
  refine ⟨?_, by rw [files], fun file => by rw [eventDb, files, eventDb]⟩
  funext date
  rw [eventLogs, Disk.day, days, eventLogs, Disk.day]

theorem motionCount_of_meta
    {before after : Disk}
    (same : after.videoMetadata = before.videoMetadata) (date : CString) :
    after.motionCount date = before.motionCount date := by
  rw [motionCount, metaRow, metaRows, same, motionCount, metaRow, metaRows]

theorem Tallied.keep
    {before after : Disk} (tallied : before.Tallied)
    (same : before.SameMarks after)
    (counts : ∀ date, after.motionCount date = before.motionCount date) :
    after.Tallied := by
  refine ⟨same.filesApart tallied.apart, fun date => ?_⟩
  rw [RolledUpAt, counts, same.dayMarks]
  exact tallied.rolledUp date

/-- A directory of a day is written with the database that it has. -/
theorem sameMarks_setDay
    {disk : Disk} {date : CString} {day : DayDir}
    (logs : day.eventLogs = disk.eventLogs date) :
    disk.SameMarks (disk.setDay date day) := by
  refine ⟨?_, rfl, fun _ => rfl⟩
  funext other
  rw [eventLogs, day_setDay]
  split_ifs with same
  · rw [same]
    exact logs
  · rfl

theorem sameMarks_mkdir
    {disk : Disk} {dir : Dir} (new : disk.exists? dir = false) :
    disk.SameMarks (disk.mkdir dir) := by
  cases dir with
  | dcim => exact .of_days rfl rfl
  | day date =>
      refine sameMarks_setDay ?_
      have absent : disk.day date = none := by
        simpa [exists?] using new
      rw [eventLogs, absent]
      rfl
  | segment dir =>
      unfold Disk.mkdir
      simp only
      split
      · exact .of_days rfl rfl
      · rename_i day present
        exact sameMarks_setDay (eventLogs_of_day present).symm

theorem sameMarks_putFile
    (disk : Disk) (dir : SegmentDir) (name : CString) (data : FileData) :
    disk.SameMarks (disk.putFile dir name data) := by
  unfold putFile
  split
  · exact .of_days rfl rfl
  · rename_i day present
    split
    · exact .of_days rfl rfl
    · exact sameMarks_setDay (eventLogs_of_day present).symm

/-- A statement that leaves the marks alone. -/
theorem sameMarks_updateEventDb
    (disk : Disk) (file : Nat) {update : EventDb → EventDb}
    (marks : ∀ db, (update db).marks = db.marks) :
    disk.SameMarks (disk.updateEventDb file update) := by
  refine ⟨rfl, List.length_modify _ _ _, fun other => ?_⟩
  rw [eventDb_updateEventDb]
  split_ifs
  · exact marks _
  · rfl

/-- A new database has no marks. -/
theorem Tallied.openEventLogs
    {disk : Disk} (tallied : disk.Tallied) (opened : CString) :
    (disk.openEventLogs opened).Tallied := by
  refine ⟨(noNewFolders_openEventLogs tallied.apart opened).apart,
    fun date => ?_⟩
  have counts : (disk.openEventLogs opened).motionCount date =
      disk.motionCount date := by
    refine motionCount_of_meta ?_ date
    unfold Disk.openEventLogs
    split
    · rfl
    · split <;> rfl
  have marks : (disk.openEventLogs opened).dayMarks date =
      disk.dayMarks date := by
    cases present : disk.day opened with
    | none => rw [Disk.openEventLogs, present]
    | some day =>
        cases unopened : day.eventLogs with
        | some file =>
            rw [Disk.openEventLogs, present]
            simp only [unopened]
        | none =>
            unfold Disk.dayMarks
            rw [eventLogs, day_openEventLogs_new present unopened]
            split_ifs with same
            · rw [same, eventLogs_of_day present, unopened]
              change ((disk.openEventLogs opened).eventDb _).marks = []
              rw [eventDb_openEventLogs, eventDb,
                List.getD_eq_default _ _ le_rfl]
              rfl
            · change (match disk.eventLogs date with
                | none => []
                | some file =>
                    ((disk.openEventLogs opened).eventDb file).marks) = _
              simp only [eventDb_openEventLogs]
  rw [RolledUpAt, counts, marks]
  exact tallied.rolledUp date

end Disk

/-! ## Statements on `VideoMetadata` -/

namespace MetaRow

/-- The count in the first row of a day. -/
def countOf (date : CString) (rows : List MetaRow) : Int :=
  ((rows.find? fun row => row.date = date).map MetaRow.motionCount).getD 0

/-- Changing rows and no date. -/
theorem countOf_map
    {change : MetaRow → MetaRow} (date : CString)
    (dates : ∀ row, (change row).date = row.date) (rows : List MetaRow) :
    countOf date (rows.map change) =
      ((rows.find? fun row => row.date = date).map fun row =>
        (change row).motionCount).getD 0 := by
  have same : ((fun row : MetaRow => decide (row.date = date)) ∘ change) =
      fun row => decide (row.date = date) := by
    funext row
    rw [Function.comp_apply, dates]
  rw [countOf, List.find?_map, same, Option.map_map]
  rfl

/-- A new row of a day without one. -/
theorem countOf_append
    {rows : List MetaRow} {row : MetaRow}
    (absent : ¬(rows.any fun other => other.date = row.date) = true)
    (date : CString) :
    countOf date (rows ++ [row]) =
      if date = row.date then row.motionCount else countOf date rows := by
  rw [countOf, List.find?_append]
  split_ifs with same
  · have none : rows.find? (fun other => other.date = date) = none := by
      rw [List.find?_eq_none, same]
      intro other member found
      exact absent (List.any_eq_true.mpr ⟨other, member, found⟩)
    rw [none, Option.none_or, List.find?_singleton]
    rw [if_pos (decide_eq_true same.symm)]
    rfl
  · rw [List.find?_singleton, if_neg (by simpa using Ne.symm same),
      Option.or_none]
    rfl

/-- The row that ensures a day counts nothing. -/
theorem countOf_insert (inserted date : CString) (rows : List MetaRow) :
    countOf date (insertOrIgnore { date := inserted, motionCount := 0 } rows) =
      countOf date rows := by
  unfold insertOrIgnore
  split_ifs with present
  · rfl
  · rw [countOf_append present]
    split_ifs with same
    · rw [countOf, List.find?_eq_none.mpr]
      · rfl
      · intro other member found
        exact present (List.any_eq_true.mpr ⟨other, member, same ▸ found⟩)
    · rfl

theorem countOf_upsert
    (counted date : CString) (count : Int) (rows : List MetaRow) :
    countOf date (upsertMotionCount counted count rows) =
      if date = counted then count else countOf date rows := by
  unfold upsertMotionCount
  split_ifs with present same same
  · obtain ⟨row, member, itsDate⟩ := List.any_eq_true.mp present
    rw [countOf_map date (fun row => by split_ifs <;> rfl)]
    cases found : rows.find? fun row => row.date = date with
    | none =>
        exact absurd itsDate (same ▸ List.find?_eq_none.mp found row member)
    | some first =>
        have its := List.find?_some found
        rw [Option.map_some, if_pos (same ▸ of_decide_eq_true its)]
        rfl
  · rw [countOf_map date (fun row => by split_ifs <;> rfl), countOf]
    cases found : rows.find? fun row => row.date = date with
    | none => rfl
    | some first =>
        have its : first.date = date := by simpa using List.find?_some found
        rw [Option.map_some, if_neg (by rw [its]; exact same)]
        rfl
  · rw [countOf_append present, if_pos same]
  · rw [countOf_append present, if_neg same]

theorem countOf_schedule (scheduled date : CString) (rows : List MetaRow) :
    countOf date (schedule scheduled rows) = countOf date rows := by
  rw [schedule, countOf_map date (fun row => by split_ifs <;> rfl), countOf]
  congr 2
  funext row
  split_ifs <;> rfl

theorem countOf_delete (deleted date : CString) (rows : List MetaRow) :
    countOf date (delete deleted rows) =
      if date = deleted then 0 else countOf date rows := by
  rw [countOf, delete, List.find?_filter]
  split_ifs with same
  · rw [List.find?_eq_none.mpr]
    · rfl
    · intro row _
      simp [same]
  · rw [countOf]
    congr 3
    funext row
    by_cases its : row.date = date
    · simp [its, same]
    · simp [its]

end MetaRow

namespace Disk

variable {disk : Disk} {date : CString}

theorem motionCount_eq (disk : Disk) (date : CString) :
    disk.motionCount date = MetaRow.countOf date disk.metaRows := rfl

/-- A statement that leaves all counts alone. -/
theorem motionCount_updateMeta
    {update : List MetaRow → List MetaRow}
    (same : ∀ date rows, MetaRow.countOf date (update rows) =
      MetaRow.countOf date rows) :
    (disk.updateMeta update).motionCount date = disk.motionCount date := by
  rw [motionCount_eq, motionCount_eq]
  cases found : disk.videoMetadata with
  | none => rw [metaRows, updateMeta, found, metaRows, found]; rfl
  | some rows =>
      rw [metaRows_updateMeta disk (by rw [found]; rfl)]
      exact same date _

theorem sameMarks_updateMeta (update : List MetaRow → List MetaRow) :
    disk.SameMarks (disk.updateMeta update) :=
  .of_days rfl rfl

/-! ## Removals -/

/-- All days but one are counted right, and that one is or has lost its
database. -/
structure TalliedBut (date : CString) (disk : Disk) : Prop where
  apart : disk.FilesApart
  others : ∀ other, other ≠ date → disk.RolledUpAt other
  day : disk.RolledUpAt date ∨ disk.eventLogs date = none

theorem dayMarks_of_none (gone : disk.eventLogs date = none) :
    disk.dayMarks date = [] := by
  rw [dayMarks, gone]

theorem Tallied.but (tallied : disk.Tallied) (date : CString) :
    disk.TalliedBut date :=
  ⟨tallied.apart, fun other _ => tallied.rolledUp other,
    Or.inl (tallied.rolledUp date)⟩

/-- When every day with a count has its database, no day is counted wrong. -/
theorem TalliedBut.tallied
    (but : disk.TalliedBut date) (keeps : disk.KeepsLogs) :
    disk.Tallied := by
  refine ⟨but.apart, fun other => ?_⟩
  by_cases same : other = date
  · rw [same]
    rcases but.day with right | gone
    · exact right
    · rw [RolledUpAt, dayMarks_of_none gone, motionCount_eq, MetaRow.countOf]
      cases found : disk.metaRows.find? fun row => row.date = date with
      | none => rfl
      | some row =>
          have its : row.date = date := by simpa using List.find?_some found
          by_contra counted
          have there := keeps row (List.mem_of_find?_eq_some found) counted
          rw [its, gone] at there
          cases there
  · exact but.others other same

/-- Only the database of one day may be lost. -/
theorem TalliedBut.lose
    {after : Disk} (but : disk.TalliedBut date)
    (others : ∀ other, other ≠ date →
      after.eventLogs other = disk.eventLogs other)
    (day : after.eventLogs date = disk.eventLogs date ∨
      after.eventLogs date = none)
    (files : after.eventDbs = disk.eventDbs)
    (rows : after.videoMetadata = disk.videoMetadata) :
    after.TalliedBut date := by
  have marks : ∀ other, after.eventLogs other = disk.eventLogs other →
      after.dayMarks other = disk.dayMarks other := by
    intro other same
    rw [dayMarks, same, dayMarks]
    simp only [eventDb, files]
  have fewer : ∀ other file, after.eventLogs other = some file →
      disk.eventLogs other = some file := by
    intro other file opened
    by_cases same : other = date
    · rw [same] at opened ⊢
      rcases day with kept | gone
      · rw [← kept, opened]
      · rw [gone] at opened
        cases opened
    · rw [← others other same, opened]
  refine ⟨but.apart.of_subset fewer (by rw [files]), fun other different => ?_,
    ?_⟩
  · rw [RolledUpAt, motionCount_of_meta rows, marks other
      (others other different)]
    exact but.others other different
  · rcases day with kept | gone
    · refine but.day.imp (fun right => ?_) fun gone => kept.trans gone
      rw [RolledUpAt, motionCount_of_meta rows, marks date kept]
      exact right
    · exact Or.inr gone

theorem TalliedBut.removePart
    (but : disk.TalliedBut date) (removal : Removal) :
    (disk.removePart date removal).TalliedBut date := by
  unfold Disk.removePart
  split
  · exact but
  · rename_i day present
    refine but.lose (fun other different => ?_) ?_ rfl rfl
    · rw [eventLogs, day_setDay, if_neg different]
      rfl
    · rw [eventLogs, day_setDay, if_pos rfl, eventLogs_of_day present]
      change (if removal.eventLogs = true then none else day.eventLogs) = _ ∨
        (if removal.eventLogs = true then none else day.eventLogs) = none
      split_ifs
      · exact Or.inr rfl
      · exact Or.inl rfl

theorem eventLogs_removeDay (disk : Disk) (date : CString) :
    (disk.removeDay date).eventLogs date = none := by
  rw [eventLogs, Disk.day, removeDay, AList.lookup_erase]
  rfl

theorem TalliedBut.removeDay (but : disk.TalliedBut date) :
    (disk.removeDay date).TalliedBut date := by
  refine but.lose (fun other different => ?_)
    (Or.inr (eventLogs_removeDay disk date)) rfl rfl
  rw [eventLogs, Disk.day, Disk.removeDay, AList.lookup_erase_ne different]
  rfl

/-- The row of a removed day goes. -/
theorem TalliedBut.delete
    (but : disk.TalliedBut date) (gone : disk.eventLogs date = none) :
    (disk.updateMeta (MetaRow.delete date)).Tallied := by
  have counts : ∀ other,
      (disk.updateMeta (MetaRow.delete date)).motionCount other =
        if other = date then 0 else disk.motionCount other := by
    intro other
    rw [motionCount_eq, motionCount_eq]
    cases found : disk.videoMetadata with
    | none =>
        rw [metaRows, updateMeta, found, metaRows, found]
        exact (ite_self _).symm
    | some rows =>
        rw [metaRows_updateMeta disk (by rw [found]; rfl)]
        exact MetaRow.countOf_delete date other _
  have same := @sameMarks_updateMeta disk (MetaRow.delete date)
  refine ⟨same.filesApart but.apart, fun other => ?_⟩
  rw [RolledUpAt, counts, same.dayMarks]
  split_ifs with its
  · rw [its, dayMarks_of_none gone]
    rfl
  · exact but.others other its

/-! ## A mark -/

/-- A mark is in the day's database, and its count is still to come. -/
structure Marked (disk : Disk) (date : CString) (count : Int) : Prop where
  apart : disk.FilesApart
  others : ∀ other, other ≠ date → disk.RolledUpAt other
  marks : count = (disk.dayMarks date).length

/-- The day of a database is the only one that it counts for. -/
theorem Tallied.insertDetail
    (tallied : disk.Tallied) {file : Nat}
    (opened : disk.eventLogs date = some file)
    (ready : (disk.eventDb file).eventDetails.isSome = true)
    (videoId motionFrame : Int) :
    (disk.updateEventDb file (EventDb.insertDetail videoId
      motionFrame)).Marked date ((disk.dayMarks date).length + 1) := by
  have inside := tallied.apart.lt date file opened
  have others : ∀ other, other ≠ date →
      (disk.updateEventDb file (EventDb.insertDetail videoId
        motionFrame)).dayMarks other = disk.dayMarks other := by
    intro other different
    unfold Disk.dayMarks
    change (match disk.eventLogs other with
      | none => []
      | some found => ((disk.updateEventDb file _).eventDb found).marks) = _
    cases itsLogs : disk.eventLogs other with
    | none => rfl
    | some found =>
        change ((disk.updateEventDb file _).eventDb found).marks = _
        rw [eventDb_updateEventDb, if_neg]
        rintro ⟨rfl, -⟩
        exact different (tallied.apart.apart other date file itsLogs opened)
  refine ⟨tallied.apart.of_subset (fun _ _ => id) ?_, fun other different => ?_,
    ?_⟩
  · exact (List.length_modify _ _ _).ge
  · rw [RolledUpAt, others other different]
    exact tallied.rolledUp other
  · have there : (disk.updateEventDb file (EventDb.insertDetail videoId
        motionFrame)).dayMarks date = disk.dayMarks date ++
          [⟨videoId, motionFrame⟩] := by
      unfold Disk.dayMarks
      change (match disk.eventLogs date with
        | none => []
        | some found => ((disk.updateEventDb file _).eventDb found).marks) = _
      rw [opened]
      change ((disk.updateEventDb file _).eventDb file).marks = _
      rw [eventDb_updateEventDb, if_pos ⟨rfl, inside⟩]
      obtain ⟨rows, present⟩ := Option.isSome_iff_exists.mp ready
      simp only [EventDb.marks, EventDb.insertDetail, present,
        Option.map_some, Option.getD_some]
    rw [there, List.length_append]
    rfl

theorem Marked.upsert
    {count : Int} (marked : disk.Marked date count)
    (ready : disk.videoMetadata.isSome = true) :
    (disk.updateMeta (MetaRow.upsertMotionCount date count)).Tallied := by
  have same := @sameMarks_updateMeta disk
    (MetaRow.upsertMotionCount date count)
  refine ⟨same.filesApart marked.apart, fun other => ?_⟩
  rw [RolledUpAt, motionCount_eq, metaRows_updateMeta disk ready,
    MetaRow.countOf_upsert, same.dayMarks]
  split_ifs with its
  · rw [its]
    exact marked.marks
  · exact marked.others other its

end Disk
end MotionSense
