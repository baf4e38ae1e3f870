import MotionSense.Storage.Retention

/-!
# Days on the card and their rows

`open_today` makes the directory of a day before `meta_db_ensure_day` inserts
its row, and what comes between the two can fail or lose power.  The next start
makes up for it on the same date only: on another date the directory stays
without a row, and no retention candidate ever names it.
-/

namespace MotionSense

/-- `open_today` has made the directory of a day. -/
def MadeDay (date : CString) (trace : List Moment) : Prop :=
  ∃ moment ∈ trace, moment.event = .made (.day date)

instance (date : CString) (trace : List Moment) :
    Decidable (MadeDay date trace) :=
  inferInstanceAs (Decidable (∃ moment ∈ trace,
    moment.event = .made (.day date)))

/-- The directory of a day has been made while the day had no row, and no
statement has given it one since. -/
def Unlisted (date : CString) : List Moment → Prop
  | [] => False
  | moment :: older =>
      moment.event ≠ .listed date ∧
        (moment.event = .made (.day date) ∧ ¬moment.disk.hasRow date ∨
          Unlisted date older)

instance (date : CString) : (trace : List Moment) →
    Decidable (Unlisted date trace)
  | [] => inferInstanceAs (Decidable False)
  | moment :: older =>
      have := instDecidableUnlisted date older
      inferInstanceAs (Decidable (moment.event ≠ .listed date ∧
        (moment.event = .made (.day date) ∧ ¬moment.disk.hasRow date ∨
          Unlisted date older)))

/-- Every day directory that `open_today` has made and that still exists has a
row. -/
def State.DaysListed (state : State) : Prop :=
  ∀ date, MadeDay date state.trace → (state.disk.day date).isSome = true →
    state.disk.hasRow date

theorem MadeDay.of_unlisted
    {date : CString} {trace : List Moment}
    (unlisted : Unlisted date trace) : MadeDay date trace := by
  induction trace with
  | nil => exact absurd unlisted id
  | cons moment older inductionHypothesis =>
      rcases unlisted.2 with ⟨made, _⟩ | earlier
      · exact ⟨moment, List.mem_cons_self, made⟩
      · obtain ⟨first, member, made⟩ := inductionHypothesis earlier
        exact ⟨first, List.mem_cons_of_mem moment member, made⟩

/-- Events that neither make a day's directory nor list a day. -/
def Event.ofNoDay : Event → Bool
  | .made (.day _) | .listed _ => false
  | _ => true

section Quiet

variable {moment : Moment} (quiet : moment.event.ofNoDay = true)
  (date : CString) (older : List Moment)

include quiet

theorem madeDay_cons : MadeDay date (moment :: older) ↔ MadeDay date older := by
  constructor
  · rintro ⟨made, member, event⟩
    rcases List.mem_cons.mp member with rfl | earlier
    · rw [event] at quiet
      exact absurd quiet Bool.false_ne_true
    · exact ⟨made, earlier, event⟩
  · rintro ⟨made, member, event⟩
    exact ⟨made, List.mem_cons_of_mem moment member, event⟩

theorem unlisted_cons :
    Unlisted date (moment :: older) ↔ Unlisted date older := by
  have notListed : moment.event ≠ .listed date := by
    intro event
    rw [event] at quiet
    exact absurd quiet Bool.false_ne_true
  constructor
  · rintro ⟨_, ⟨event, _⟩ | earlier⟩
    · rw [event] at quiet
      exact absurd quiet Bool.false_ne_true
    · exact earlier
  · exact fun earlier => ⟨notListed, .inr earlier⟩

end Quiet

namespace Disk

/-- The same days have a directory, and the same days have a row. -/
structure SameListing (before after : Disk) : Prop where
  days : ∀ date, (after.day date).isSome = (before.day date).isSome
  rows : ∀ date, after.hasRow date ↔ before.hasRow date

theorem SameListing.refl (disk : Disk) : disk.SameListing disk :=
  ⟨fun _ => rfl, fun _ => .rfl⟩

/-- Writing the directory of a day that has one. -/
theorem isSome_day_setDay
    {disk : Disk} {written : CString} {found : DayDir}
    (present : disk.day written = some found) (day : DayDir)
    (date : CString) :
    ((disk.setDay written day).day date).isSome =
      (disk.day date).isSome := by
  by_cases same : date = written
  · subst same
    rw [present, Disk.day, setDay, AList.lookup_insert]
    rfl
  · rw [Disk.day, setDay, AList.lookup_insert_ne same]
    rfl

theorem SameListing.of_days
    {before after : Disk}
    (days : ∀ date, (after.day date).isSome = (before.day date).isSome)
    (same : after.metaRows = before.metaRows) : before.SameListing after := by
  refine ⟨days, fun date => ?_⟩
  rw [hasRow, same]
  rfl

theorem sameListing_putFile
    (disk : Disk) (dir : SegmentDir) (name : CString) (data : FileData) :
    disk.SameListing (disk.putFile dir name data) := by
  refine .of_days (fun date => ?_) (metaRows_putFile _ _ _ _)
  unfold putFile
  split
  · rfl
  · rename_i day present
    split
    · rfl
    · exact isSome_day_setDay present _ date

theorem sameListing_openEventLogs (disk : Disk) (opened : CString) :
    disk.SameListing (disk.openEventLogs opened) := by
  refine .of_days (fun date => ?_) (metaRows_openEventLogs _ _)
  unfold openEventLogs
  split
  · rfl
  · rename_i day present
    split
    · rfl
    · exact isSome_day_setDay present _ date

theorem sameListing_removePart
    (disk : Disk) (removed : CString) (removal : Removal) :
    disk.SameListing (disk.removePart removed removal) := by
  refine .of_days (fun date => ?_) (metaRows_removePart _ _ _)
  unfold removePart
  split
  · rfl
  · rename_i day present
    exact isSome_day_setDay present _ date

/-- Making another directory than a day's. -/
theorem sameListing_mkdir
    (disk : Disk) {dir : Dir} (notDay : ∀ date, dir ≠ .day date) :
    disk.SameListing (disk.mkdir dir) := by
  refine .of_days (fun date => ?_) (metaRows_mkdir _ _)
  cases dir with
  | dcim => rfl
  | day made => exact absurd rfl (notDay made)
  | segment dir =>
      unfold mkdir
      simp only
      split
      · rfl
      · rename_i day present
        exact isSome_day_setDay present _ date

theorem sameListing_schedule (disk : Disk) (scheduled : CString) :
    disk.SameListing (disk.updateMeta (MetaRow.schedule scheduled)) := by
  refine ⟨fun _ => rfl, fun date => ⟨?_, hasRow_schedule scheduled⟩⟩
  rintro ⟨row, inTable, same⟩
  cases found : disk.videoMetadata with
  | none =>
      rw [metaRows, updateMeta, found] at inTable
      exact absurd inTable List.not_mem_nil
  | some rows =>
      rw [metaRows, updateMeta, found] at inTable
      obtain ⟨old, listed, changed⟩ := List.mem_map.mp inTable
      refine ⟨old, ?_, ?_⟩
      · rw [metaRows, found]
        exact listed
      · rw [← same, ← changed]
        split <;> rfl

/-- The rows there are after a day was inserted. -/
theorem hasRow_insert_iff
    {disk : Disk} (ready : disk.videoMetadata.isSome = true)
    (inserted date : CString) :
    (disk.updateMeta (MetaRow.insertOrIgnore
        { date := inserted, motionCount := 0 })).hasRow date ↔
      disk.hasRow date ∨ date = inserted := by
  rw [hasRow, metaRows_updateMeta disk ready, MetaRow.insertOrIgnore]
  split
  · rename_i present
    refine ⟨.inl, ?_⟩
    rintro (listed | rfl)
    · exact listed
    · obtain ⟨row, inTable, same⟩ := List.any_eq_true.mp present
      exact ⟨row, inTable, of_decide_eq_true same⟩
  · constructor
    · rintro ⟨row, inTable, rfl⟩
      rcases List.mem_append.mp inTable with old | new
      · exact .inl ⟨row, old, rfl⟩
      · rw [List.mem_singleton.mp new]
        exact .inr rfl
    · rintro (⟨row, inTable, same⟩ | rfl)
      · exact ⟨row, List.mem_append_left _ inTable, same⟩
      · exact ⟨_, List.mem_append_right _ (List.mem_singleton_self _), rfl⟩

/-- The rows there are after motion was counted for a day. -/
theorem hasRow_upsert_iff
    {disk : Disk} (ready : disk.videoMetadata.isSome = true)
    (counted date : CString) (count : Int) :
    (disk.updateMeta (MetaRow.upsertMotionCount counted count)).hasRow date ↔
      disk.hasRow date ∨ date = counted := by
  rw [hasRow, metaRows_updateMeta disk ready, MetaRow.upsertMotionCount]
  split
  · rename_i present
    constructor
    · rintro ⟨row, inTable, rfl⟩
      obtain ⟨old, listed, rfl⟩ := List.mem_map.mp inTable
      refine .inl ⟨old, listed, ?_⟩
      split <;> rfl
    · have kept : ∀ {day : CString}, (∃ row ∈ disk.metaRows, row.date = day) →
          ∃ row ∈ disk.metaRows.map (fun row =>
            if row.date = counted then { row with motionCount := count }
            else row), row.date = day := fun listed =>
        hasRow_map (fun row => by split <;> rfl) listed
      rintro (listed | rfl)
      · exact kept listed
      · obtain ⟨row, inTable, same⟩ := List.any_eq_true.mp present
        exact kept ⟨row, inTable, of_decide_eq_true same⟩
  · constructor
    · rintro ⟨row, inTable, rfl⟩
      rcases List.mem_append.mp inTable with old | new
      · exact .inl ⟨row, old, rfl⟩
      · rw [List.mem_singleton.mp new]
        exact .inr rfl
    · rintro (⟨row, inTable, same⟩ | rfl)
      · exact ⟨row, List.mem_append_left _ inTable, same⟩
      · exact ⟨_, List.mem_append_right _ (List.mem_singleton_self _), rfl⟩

end Disk

namespace State

open Disk

/-- The days without a row are those whose listing is still to come, and only
days with a row are under removal. -/
structure TracksDays (state : State) : Prop where
  missing : ∀ date, Unlisted date state.trace →
    (state.disk.day date).isSome = true ∧ ¬state.disk.hasRow date
  made : ∀ date, MadeDay date state.trace →
    (state.disk.day date).isSome = true →
      state.disk.hasRow date ∨ Unlisted date state.trace
  under : ∀ date, underRemoval state.trace = some date →
    state.disk.hasRow date

/-- Steps that make no day and list none. -/
theorem TracksDays.keep
    {before after : State} (tracks : before.TracksDays)
    (same : before.disk.SameListing after.disk)
    (made : ∀ date, MadeDay date after.trace ↔ MadeDay date before.trace)
    (unlisted : ∀ date,
      Unlisted date after.trace ↔ Unlisted date before.trace)
    (under : ∀ date, underRemoval after.trace = some date →
      underRemoval before.trace = some date ∨ before.disk.hasRow date) :
    after.TracksDays := by
  refine ⟨fun date isUnlisted => ?_, fun date isMade exists_ => ?_,
    fun date isUnder => ?_⟩
  · rw [same.days, same.rows]
    exact tracks.missing date ((unlisted date).mp isUnlisted)
  · rw [same.rows, unlisted]
    rw [same.days] at exists_
    exact tracks.made date ((made date).mp isMade) exists_
  · rw [same.rows]
    rcases under date isUnder with earlier | listed
    · exact tracks.under date earlier
    · exact listed

/-- Changes of the card alone. -/
theorem TracksDays.disk
    {before after : State} (tracks : before.TracksDays)
    (quiet : after.trace = before.trace)
    (same : before.disk.SameListing after.disk) : after.TracksDays :=
  tracks.keep same (fun _ => by rw [quiet]) (fun _ => by rw [quiet])
    fun _ under => .inl (by rw [← quiet]; exact under)

/-- A moment that makes no day, lists none and begins no removal. -/
theorem TracksDays.log
    {state : State} (tracks : state.TracksDays) {event : Event}
    (quiet : event.ofNoDay = true)
    (under : ∀ date, underRemoval (state.log event).trace = some date →
      underRemoval state.trace = some date ∨ state.disk.hasRow date) :
    (state.log event).TracksDays :=
  tracks.keep (.refl _)
    (fun date => @madeDay_cons ⟨event, state.ws, state.disk⟩ quiet date _)
    (fun date => @unlisted_cons ⟨event, state.ws, state.disk⟩ quiet date _)
    under

/-- A moment of recording. -/
theorem TracksDays.record
    {state : State} (tracks : state.TracksDays) {event : Event}
    (quiet : event.ofNoDay = true) (recording : event.ofRecording = true) :
    (state.log event).TracksDays :=
  tracks.log quiet fun date under => .inl (by
    rw [State.trace_log, underRemoval_cons _ recording] at under
    exact under)

/-- A new day's directory. -/
theorem TracksDays.mkdir
    {state : State} (tracks : state.TracksDays) {made : CString}
    (new : state.disk.day made = none) :
    ((state.updateDisk fun disk => disk.mkdir (.day made)).log
      (.made (.day made))).TracksDays := by
  have rows : ∀ date,
      (state.disk.mkdir (.day made)).hasRow date ↔ state.disk.hasRow date :=
    fun _ => .rfl
  have here : (state.disk.mkdir (.day made)).day made = some {} :=
    AList.lookup_insert _
  have others : ∀ {date}, date ≠ made →
      (state.disk.mkdir (.day made)).day date = state.disk.day date :=
    fun other => AList.lookup_insert_ne other
  refine ⟨?_, ?_, ?_⟩
  · rintro date ⟨_, ⟨event, noRow⟩ | earlier⟩
    · have same : date = made := by
        cases event
        rfl
      subst same
      refine ⟨?_, noRow⟩
      change ((state.disk.mkdir (.day date)).day date).isSome = true
      rw [here]
      rfl
    · obtain ⟨exists_, noRow⟩ := tracks.missing date earlier
      have other : date ≠ made := by
        rintro rfl
        rw [new] at exists_
        exact nomatch exists_
      refine ⟨?_, noRow⟩
      change ((state.disk.mkdir (.day made)).day date).isSome = true
      rw [others other]
      exact exists_
  · intro date isMade exists_
    by_cases same : date = made
    · subst same
      by_cases listed : state.disk.hasRow date
      · exact .inl listed
      · exact .inr ⟨nofun, .inl ⟨rfl, listed⟩⟩
    · have existed : (state.disk.day date).isSome = true := by
        rw [← others same]
        exact exists_
      have earlier : MadeDay date state.trace := by
        obtain ⟨moment, member, event⟩ := isMade
        rcases List.mem_cons.mp member with rfl | older
        · exact absurd (by cases event; rfl) same
        · exact ⟨moment, older, event⟩
      rcases tracks.made date earlier existed with listed | unlisted
      · exact .inl listed
      · exact .inr ⟨nofun, .inr unlisted⟩
  · exact fun date under => tracks.under date under

/-- Another new directory. -/
theorem TracksDays.mkdirOther
    {state : State} (tracks : state.TracksDays) {dir : Dir}
    (notDay : ∀ date, dir ≠ .day date)
    (quiet : (Event.made dir).ofNoDay = true) :
    ((state.updateDisk fun disk => disk.mkdir dir).log
      (.made dir)).TracksDays := by
  have made : (state.updateDisk fun disk => disk.mkdir dir).TracksDays :=
    tracks.disk rfl (sameListing_mkdir state.disk notDay)
  exact made.record quiet rfl

/-- A statement that gives a day its row. -/
theorem TracksDays.listed
    {state : State} (tracks : state.TracksDays) {date : CString}
    {update : List MetaRow → List MetaRow}
    (rows : ∀ other, (state.disk.updateMeta update).hasRow other ↔
      state.disk.hasRow other ∨ other = date) :
    ((state.updateDisk fun disk => disk.updateMeta update).log
      (.listed date)).TracksDays := by
  refine ⟨?_, ?_, ?_⟩
  · rintro other ⟨notListed, ⟨event, _⟩ | earlier⟩
    · exact nomatch event
    · obtain ⟨exists_, noRow⟩ := tracks.missing other earlier
      refine ⟨exists_, fun row => ?_⟩
      rcases (rows other).mp row with listed | rfl
      · exact noRow listed
      · exact notListed rfl
  · intro other isMade exists_
    have earlier : MadeDay other state.trace := by
      obtain ⟨moment, member, event⟩ := isMade
      rcases List.mem_cons.mp member with rfl | older
      · exact nomatch event
      · exact ⟨moment, older, event⟩
    by_cases same : other = date
    · exact .inl ((rows other).mpr (.inr same))
    · rcases tracks.made other earlier exists_ with listed | unlisted
      · exact .inl ((rows other).mpr (.inl listed))
      · refine .inr ⟨?_, .inr unlisted⟩
        rintro ⟨⟩
        exact same rfl
  · exact fun other under =>
      (rows other).mpr (.inl (tracks.under other under))

/-! ## The steps -/

theorem tracksDays_hlsStep
    (before after : State) (step : HlsStep before after)
    (tracks : before.TracksDays) : after.TracksDays := by
  cases step with
  | replaced dir name data outlet =>
      have written : (before.updateDisk fun disk =>
          disk.putFile dir name data).TracksDays :=
        tracks.disk rfl (sameListing_putFile _ _ _ _)
      exact written.record rfl rfl
  | cutDone =>
      have counted : (before.updateWs fun ws =>
          { ws with tsSinceCleanup := ws.tsSinceCleanup + 1 }).TracksDays :=
        tracks.disk rfl (.refl _)
      exact counted.record rfl rfl
  | _ =>
      first
      | exact tracks.record rfl rfl
      | exact tracks.disk rfl (.refl _)

theorem tracksDays_statementStep
    {writes : (EventDb → EventDb) → Prop}
    (before after : State) (step : StatementStep writes before after)
    (tracks : before.TracksDays) : after.TracksDays := by
  cases step with
  | called kind succeeded => exact tracks.record rfl rfl
  | insert date ready => exact tracks.listed (hasRow_insert_iff ready date)
  | upsert date count ready =>
      exact tracks.listed fun other => hasRow_upsert_iff ready date other count
  | write file update written =>
      exact tracks.disk rfl (.of_days (fun _ => rfl) rfl)

theorem tracksDays_totalStep
    (before after : State) (step : TotalStep before after)
    (tracks : before.TracksDays) : after.TracksDays := by
  cases step with
  | called kind succeeded => exact tracks.record rfl rfl
  | update file opened =>
      have written : (before.updateDisk fun disk =>
          disk.updateEventDb file (EventDb.updateTotalFrames
            before.ws.currentSegmentId before.ws.frameCount)).TracksDays :=
        tracks.disk rfl (.of_days (fun _ => rfl) rfl)
      exact written.record rfl rfl

theorem tracksDays_dayStep
    (before after : State) (step : DayStep before after)
    (tracks : before.TracksDays) : after.TracksDays := by
  cases step with
  | folder step =>
      cases step with
      | mkdir dir parent new =>
          cases dir with
          | day date =>
              exact tracks.mkdir (Option.not_isSome_iff_eq_none.mp
                (ne_true_of_eq_false new))
          | dcim => exact tracks.mkdirOther (fun _ => nofun) rfl
          | segment dir => exact tracks.mkdirOther (fun _ => nofun) rfl
      | _ =>
          first
          | exact tracks.record rfl rfl
          | exact tracks.disk rfl (.refl _)
  | segment step =>
      cases step with
      | db step =>
          cases step with
          | statement step => exact tracksDays_statementStep _ _ step tracks
          | createMeta => exact tracks.disk rfl (.of_days (fun _ => rfl) rfl)
          | createLogs date =>
              exact tracks.disk rfl (sameListing_openEventLogs _ _)
          | stamp file folder time clock opened accepted =>
              have written : (before.updateDisk fun disk =>
                  disk.updateEventDb file (EventDb.insertSegment folder
                    (time.tm.startTime clock.usec))).TracksDays :=
                tracks.disk rfl (.of_days (fun _ => rfl) rfl)
              exact written.record rfl rfl
          | _ => exact tracks.disk rfl (.refl _)
      | _ => exact tracks.disk rfl (.refl _)
  | flush step =>
      cases step with
      | hls step => exact tracksDays_hlsStep _ _ step tracks
      | _ => exact tracks.disk rfl (.refl _)
  | total step => exact tracksDays_totalStep _ _ step tracks
  | _ => exact tracks.record rfl rfl

theorem tracksDays_frameStep
    (before after : State) (step : FrameStep before after)
    (tracks : before.TracksDays) : after.TracksDays := by
  cases step with
  | hls step => exact tracksDays_hlsStep _ _ step tracks
  | _ =>
      first
      | exact tracks.record rfl rfl
      | exact tracks.disk rfl (.refl _)

theorem tracksDays_progressStep
    (before after : State) (step : ProgressStep before after)
    (tracks : before.TracksDays) : after.TracksDays := by
  cases step with
  | marks step =>
      cases step with
      | statement step => exact tracksDays_statementStep _ _ step tracks
      | _ =>
          first
          | exact tracks.record rfl rfl
          | exact tracks.disk rfl (.refl _)
  | total step => exact tracksDays_totalStep _ _ step tracks
  | _ =>
      first
      | exact tracks.record rfl rfl
      | exact tracks.disk rfl (.refl _)

/-- A directory that goes belongs to a day with a row. -/
theorem TracksDays.removeDay
    {state : State} (tracks : state.TracksDays) {date : CString}
    (under : underRemoval state.trace = some date) :
    (state.updateDisk fun disk => disk.removeDay date).TracksDays := by
  have others : ∀ {other}, other ≠ date →
      (state.disk.removeDay date).day other = state.disk.day other :=
    fun different => AList.lookup_erase_ne different
  refine ⟨fun other unlisted => ?_, fun other isMade exists_ => ?_,
    tracks.under⟩
  · obtain ⟨exists_, noRow⟩ := tracks.missing other unlisted
    have different : other ≠ date := by
      rintro rfl
      exact noRow (tracks.under other under)
    refine ⟨?_, noRow⟩
    change ((state.disk.removeDay date).day other).isSome = true
    rw [others different]
    exact exists_
  · by_cases same : other = date
    · subst same
      exact .inl (tracks.under other under)
    · apply tracks.made other isMade
      rw [← others same]
      exact exists_

/-- A row that goes belongs to a day without a directory. -/
theorem TracksDays.delete
    {state : State} (tracks : state.TracksDays) {date : CString}
    (idle : underRemoval state.trace = none)
    (gone : state.disk.day date = none) :
    ((state.updateDisk fun disk => disk.updateMeta (MetaRow.delete date)).log
      (.rowDeleted date)).TracksDays := by
  have fewer : ∀ other,
      (state.disk.updateMeta (MetaRow.delete date)).hasRow other →
        state.disk.hasRow other := by
    rintro other ⟨row, inTable, same⟩
    cases found : state.disk.videoMetadata with
    | none =>
        rw [metaRows, updateMeta, found] at inTable
        exact absurd inTable List.not_mem_nil
    | some rows =>
        rw [metaRows, updateMeta, found] at inTable
        refine ⟨row, ?_, same⟩
        rw [metaRows, found]
        exact (List.mem_filter.mp inTable).1
  refine ⟨fun other unlisted => ?_, fun other isMade exists_ => ?_, ?_⟩
  · obtain ⟨exists_, noRow⟩ := tracks.missing other
      ((unlisted_cons rfl other state.trace).mp unlisted)
    exact ⟨exists_, fun row => noRow (fewer other row)⟩
  · have different : other ≠ date := by
      rintro rfl
      change (state.disk.day other).isSome = true at exists_
      rw [gone] at exists_
      cases exists_
    rcases tracks.made other ((madeDay_cons rfl other state.trace).mp isMade)
      exists_ with listed | unlisted
    · exact .inl (hasRow_delete different listed)
    · exact .inr ((unlisted_cons rfl other state.trace).mpr unlisted)
  · intro other under
    cases idle.symm.trans under

theorem tracksDays_cleanupStep
    (config : Config)
    (before after : State) (step : CleanupStep config before after)
    (tracks : before.TracksDays) : after.TracksDays := by
  cases step with
  | removal step =>
      cases step with
      | called kind succeeded => exact tracks.record rfl rfl
      | removing date pending =>
          apply tracks.log rfl
          rintro _ ⟨⟩
          exact .inr (hasRow_of_isPending (isPending_of_firstPending pending))
      | removePart date removal under =>
          exact tracks.disk rfl (sameListing_removePart _ _ _)
      | removeDay date under => exact tracks.removeDay under
      | removed date result under gone => exact tracks.log rfl nofun
      | delete date idle gone => exact tracks.delete idle gone
  | notDue early => exact tracks.record rfl rfl
  | reset =>
      have reset : (before.updateWs fun ws =>
          { ws with tsSinceCleanup := 0 }).TracksDays :=
        tracks.disk rfl (.refl _)
      exact reset.record rfl rfl
  | scheduling date freeMb low oldest =>
      exact tracks.log rfl fun _ under => .inl under
  | schedule date announced =>
      exact tracks.disk rfl (sameListing_schedule _ _)

end State

/-- In every history the day directories that `open_today` has made have their
rows exactly when, for each that was made while its day had no row, a statement
has inserted the row since. -/
theorem writer_lists_days_iff
    (config : Config) {phase : Daemon.Phase} {state : State}
    (reached : (writer config).Reach State.Unused phase state) :
    state.DaysListed ↔ ∀ date, ¬Unlisted date state.trace := by
  have tracks : state.TracksDays := by
    apply writer_keeps config _ _
      (fun before after step _ => State.tracksDays_dayStep before after step)
      (fun before after step _ => State.tracksDays_frameStep before after step)
      (fun before after step _ =>
        State.tracksDays_progressStep before after step)
      (State.tracksDays_cleanupStep config) reached
    · intro first unused
      have blank : first.trace = [] := unused
      refine ⟨?_, ?_, ?_⟩
      · rw [blank]
        exact fun _ unlisted => absurd unlisted id
      · rw [blank]
        rintro date ⟨moment, member, _⟩
        exact absurd member List.not_mem_nil
      · rw [blank]
        exact fun _ => nofun
    · intro last tracks
      have blank : (⟨{}, -1, last.disk, last.trace⟩ : State).TracksDays :=
        ⟨tracks.missing, tracks.made, tracks.under⟩
      exact blank.log rfl nofun
  constructor
  · intro listed date unlisted
    obtain ⟨exists_, noRow⟩ := tracks.missing date unlisted
    exact noRow (listed date (.of_unlisted unlisted) exists_)
  · intro listed date isMade exists_
    rcases tracks.made date isMade exists_ with row | unlisted
    · exact row
    · exact absurd unlisted (listed date)

/-- Power is lost right after the directory of the first day was made, and the
daemon comes up again on the next day: the first day never gets a row. -/
theorem writer_forgets_day :
    let firstDay : Choice := {}
    let secondDay : Choice := { tm := { mday := 2, yday := 1 } }
    let cut := (((writer {}).life []).run (State.restart {})
      (List.replicate 5 firstDay)).state
    let state := ((writer {}).boot.run cut.restart
      (List.replicate 40 secondDay)).state
    (writer {}).Reach State.Unused .ready state ∧ ¬state.DaysListed := by
  intro firstDay secondDay cut state
  have reached : (writer {}).Reach State.Unused .off cut :=
    @Daemon.Reach.life _ _ _ (writer {}) State.Unused {} (.initial rfl) _ _
  refine ⟨Daemon.Reach.booted reached (by decide +kernel), fun listed => ?_⟩
  have row := listed firstDay.tm.date (by decide +kernel) (by decide +kernel)
  exact absurd row (by decide +kernel)

/-- Power is lost right after the directory of a day was made, and the daemon
comes up again on the same day: the second start gives it its row. -/
theorem writer_lists_days_iff_made_up :
    let today : Choice := {}
    let cut := (((writer {}).life []).run (State.restart {})
      (List.replicate 5 today)).state
    let state := ((writer {}).boot.run cut.restart
      (List.replicate 40 today)).state
    Unlisted today.tm.date cut.trace ∧ state.DaysListed := by
  intro today cut state
  have reachedCut : (writer {}).Reach State.Unused .off cut :=
    @Daemon.Reach.life _ _ _ (writer {}) State.Unused {} (.initial rfl) _ _
  have reached : (writer {}).Reach State.Unused .ready state :=
    Daemon.Reach.booted reachedCut (by decide +kernel)
  have only : ∀ moment ∈ state.trace, moment.event.ofNoDay = true ∨
      moment.event = .made (.day today.tm.date) ∨
      moment.event = .listed today.tm.date := by decide +kernel
  have madeUp : ¬Unlisted today.tm.date state.trace := by decide +kernel
  refine ⟨by decide +kernel, ?_⟩
  clear_value state
  refine (writer_lists_days_iff {} reached).mpr fun date unlisted => ?_
  have isDay : date = today.tm.date := by
    obtain ⟨moment, member, event⟩ := MadeDay.of_unlisted unlisted
    rcases only moment member with other | made | listed
    · rw [event] at other
      exact absurd other Bool.false_ne_true
    · cases event.symm.trans made
      rfl
    · exact nomatch event.symm.trans listed
  rw [isDay] at unlisted
  exact madeUp unlisted

end MotionSense
