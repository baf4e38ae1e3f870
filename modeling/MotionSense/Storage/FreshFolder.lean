import MotionSense.Storage.Folders
import MotionSense.Storage.Rounds

/-!
# The folder of a new segment

`open_today` numbers a folder by counting the folders there are.  The number is
free as long as the folders of a day come and go only as a whole: an interrupted
removal leaves fewer folders than numbers in use, and the next count hits one of
them.
-/

namespace MotionSense

/-- The card at the removals of a day that have begun since its directory was
made. -/
def begunRemovals (date : CString) : List Moment → List Disk
  | [] => []
  | moment :: older =>
      if moment.event = .made (.day date) then []
      else if moment.event = .removing date then
        moment.disk :: begunRemovals date older
      else begunRemovals date older

/-- A removal of a day has taken some of its folders and left the directory. -/
def Thinned (date : CString) (disk : Disk) (trace : List Moment) : Prop :=
  ∃ earlier ∈ begunRemovals date trace, ∃ name ∈ earlier.folderNames date,
    name ∉ disk.folderNames date

instance (date : CString) (disk : Disk) (trace : List Moment) :
    Decidable (Thinned date disk trace) :=
  inferInstanceAs (Decidable (∃ earlier ∈ begunRemovals date trace,
    ∃ name ∈ earlier.folderNames date, name ∉ disk.folderNames date))

/-- `open_today` chooses a folder after counting all folders of the day: the
directory could be read to its end, their number fits the column of the
database, and no removal has taken some of them. -/
structure PlacesSoundly (moment : Moment) (older : List Moment) : Prop where
  counted : moment.disk.day moment.ws.date = none ∨
    older.head?.map Moment.event = some (.called .opendir true)
  fits : (moment.disk.folderNames moment.ws.date).length < 10000000
  whole : ¬Thinned moment.ws.date moment.disk older

instance (moment : Moment) (older : List Moment) :
    Decidable (PlacesSoundly moment older) :=
  decidable_of_iff
    (((moment.disk.day moment.ws.date).isNone = true ∨
      older.head?.map Moment.event = some (.called .opendir true)) ∧
      (moment.disk.folderNames moment.ws.date).length < 10000000 ∧
        ¬Thinned moment.ws.date moment.disk older)
    ⟨fun all => ⟨all.1.imp_left Option.isNone_iff_eq_none.mp, all.2.1, all.2.2⟩,
      fun all => ⟨all.counted.imp_left Option.isNone_iff_eq_none.mpr, all.fits,
        all.whole⟩⟩

/-- Every folder was chosen soundly. -/
def PlacedSoundly : List Moment → Prop
  | [] => True
  | moment :: older =>
      (moment.event = .placed → PlacesSoundly moment older) ∧
        PlacedSoundly older

instance : (trace : List Moment) → Decidable (PlacedSoundly trace)
  | [] => inferInstanceAs (Decidable True)
  | moment :: older =>
      have := instDecidablePlacedSoundly older
      inferInstanceAs (Decidable
        ((moment.event = .placed → PlacesSoundly moment older) ∧
          PlacedSoundly older))

/-- The chosen folder does not exist, the database of the day does not list it,
and the `INSERT` that follows is not refused. -/
structure PlacesFresh (moment : Moment) : Prop where
  unmade : moment.disk.folder moment.ws.segmentDir.date
    moment.ws.segmentDir.name = none
  unlisted : ∀ file, moment.disk.eventLogs moment.ws.segmentDir.date = some file →
    segmentFolder moment.ws.interruptIdx ∉ (moment.disk.eventDb file).folders
  accepted : ∀ file, moment.disk.eventLogs moment.ws.segmentDir.date = some file →
    (moment.disk.eventDb file).createSegments.accepts
      (segmentFolder moment.ws.interruptIdx) = true

/-- Every folder chosen was a new one. -/
def PlacedFresh (trace : List Moment) : Prop :=
  ∀ moment ∈ trace, moment.event = .placed → PlacesFresh moment

/-! ## What the record says -/

/-- Events that make no day, begin no removal and choose no folder. -/
def Event.ofKeeping : Event → Bool
  | .made (.day _) | .removing _ | .placed => false
  | _ => true

theorem begunRemovals_cons
    {moment : Moment} (keeping : moment.event.ofKeeping = true)
    (date : CString) (older : List Moment) :
    begunRemovals date (moment :: older) = begunRemovals date older := by
  rw [begunRemovals, if_neg, if_neg]
  · intro removing
    rw [removing] at keeping
    exact absurd keeping Bool.false_ne_true
  · intro made
    rw [made] at keeping
    exact absurd keeping Bool.false_ne_true

theorem placedSoundly_cons
    {moment : Moment} (keeping : moment.event.ofKeeping = true)
    (older : List Moment) :
    PlacedSoundly (moment :: older) ↔ PlacedSoundly older := by
  refine and_iff_right fun placed => ?_
  rw [placed] at keeping
  exact absurd keeping Bool.false_ne_true

theorem placedFresh_cons
    {moment : Moment} (notPlaced : moment.event ≠ .placed)
    (older : List Moment) :
    PlacedFresh (moment :: older) ↔ PlacedFresh older := by
  rw [PlacedFresh, List.forall_mem_cons]
  exact and_iff_right fun placed => absurd placed notPlaced

namespace State

/-- Databases are apart; a removal under way has taken folders only; and as long
as folders were chosen soundly they were new, and a day is numbered or a removal
has taken some of its folders. -/
structure KeepsNumbers (state : State) : Prop where
  apart : state.disk.FilesApart
  under : ∀ date, underRemoval state.trace = some date →
    ∃ earlier ∈ begunRemovals date state.trace,
      state.disk.folderNames date ⊆ earlier.folderNames date
  fresh : PlacedSoundly state.trace → PlacedFresh state.trace
  numbered : PlacedSoundly state.trace → ∀ date day,
    state.disk.day date = some day →
      Thinned date state.disk state.trace ∨
        ∃ size, day.Numbered state.disk size

theorem KeepsNumbers.step
    {before after : State} (keeps : before.KeepsNumbers)
    (adds : Adds Event.ofKeeping before after)
    (same : before.disk.NoNewFolders after.disk)
    (kept : ∀ date, before.disk.KeepsFolders after.disk date ∨
      underRemoval before.trace = some date)
    (under : ∀ date, underRemoval after.trace = some date →
      underRemoval before.trace = some date) :
    after.KeepsNumbers := by
  have begun : ∀ date,
      begunRemovals date after.trace = begunRemovals date before.trace :=
    fun date => adds.view fun moment older keeping =>
      begunRemovals_cons keeping date older
  have sound : PlacedSoundly after.trace = PlacedSoundly before.trace :=
    adds.view fun moment older keeping =>
      propext (placedSoundly_cons keeping older)
  have fresh : PlacedFresh after.trace = PlacedFresh before.trace := by
    refine adds.view fun moment older keeping => propext
      (placedFresh_cons (fun placed => ?_) older)
    rw [placed] at keeping
    exact absurd keeping Bool.false_ne_true
  refine ⟨same.apart, fun date removing => ?_, ?_, ?_⟩
  · obtain ⟨earlier, removal, larger⟩ := keeps.under date (under date removing)
    rw [begun]
    exact ⟨earlier, removal, fun name there => larger (same.names there)⟩
  · rw [sound, fresh]
    exact keeps.fresh
  · intro placed date day present
    rw [sound] at placed
    obtain ⟨old, existed, fewer⟩ := same.days date day present
    rcases keeps.numbered placed date old existed with thinned | numbered
    · obtain ⟨earlier, removal, name, was, gone⟩ := thinned
      rw [Thinned, begun]
      exact .inl ⟨earlier, removal, name, was,
        fun there => gone (same.names there)⟩
    by_cases whole : before.disk.KeepsFolders after.disk date
    · obtain ⟨size, numbered⟩ := numbered
      exact .inr ⟨size, same.numbered whole existed present numbered⟩
    · -- the removal under way has taken a folder that was there at its start
      have removing := (kept date).resolve_left whole
      obtain ⟨earlier, removal, larger⟩ := keeps.under date removing
      left
      rw [Thinned, begun]
      by_contra unthinned
      simp only [not_exists, not_and, not_not] at unthinned
      apply whole
      intro older there was is
      rw [present] at is
      rw [existed] at was
      cases was
      cases is
      intro name inOld
      rw [← Disk.folderNames_of_day existed] at inOld
      rw [← Disk.folderNames_of_day present]
      exact unthinned earlier removal name (larger inOld)

/-- A moment of recording that makes no day and chooses no folder. -/
theorem KeepsNumbers.log
    {state : State} (keeps : state.KeepsNumbers) {event : Event}
    (keeping : event.ofKeeping = true)
    (under : ∀ date, underRemoval (state.log event).trace = some date →
      underRemoval state.trace = some date) :
    (state.log event).KeepsNumbers :=
  keeps.step (.log keeping) (Disk.noNewFolders_of_eq keeps.apart rfl rfl)
    (fun date => .inl (Disk.keepsFolders_of_eq rfl date)) under

theorem KeepsNumbers.called
    {state : State} (keeps : state.KeepsNumbers)
    (kind : Call) (succeeded : Bool) :
    (state.log (.called kind succeeded)).KeepsNumbers :=
  keeps.log rfl fun _ => id

/-- A change of the card. -/
theorem KeepsNumbers.updateDisk
    {state : State} (keeps : state.KeepsNumbers) {update : Disk → Disk}
    (same : state.disk.NoNewFolders (update state.disk))
    (kept : ∀ date, state.disk.KeepsFolders (update state.disk) date) :
    (state.updateDisk update).KeepsNumbers :=
  keeps.step (.inl rfl) same (fun date => .inl (kept date)) fun _ => id

/-- A change of the writer alone. -/
theorem KeepsNumbers.updateWs
    {state : State} (keeps : state.KeepsNumbers)
    (update : WriterState → WriterState) :
    (state.updateWs update).KeepsNumbers :=
  ⟨keeps.apart, keeps.under, keeps.fresh, keeps.numbered⟩

/-- A statement that adds no folder. -/
theorem KeepsNumbers.write
    {state : State} (keeps : state.KeepsNumbers) (file : Nat)
    {update : EventDb → EventDb}
    (folders : ∀ db, (update db).folders = db.folders) :
    (state.updateDisk fun disk =>
      disk.updateEventDb file update).KeepsNumbers :=
  keeps.updateDisk (Disk.noNewFolders_updateEventDb keeps.apart file folders)
    fun date => Disk.keepsFolders_of_eq rfl date

/-- A change that leaves the days and their databases alone. -/
theorem KeepsNumbers.other
    {state : State} (keeps : state.KeepsNumbers) {update : Disk → Disk}
    (days : (update state.disk).days = state.disk.days)
    (files : (update state.disk).eventDbs = state.disk.eventDbs) :
    (state.updateDisk update).KeepsNumbers :=
  keeps.updateDisk (Disk.noNewFolders_of_eq keeps.apart days files)
    fun date => Disk.keepsFolders_of_eq days date

/-! ## What keeps the numbers -/

theorem keepsNumbers_hlsStep
    (before after : State) (step : HlsStep before after)
    (keeps : before.KeepsNumbers) : after.KeepsNumbers := by
  cases step with
  | replaced dir name data outlet =>
      have written : KeepsNumbers (before.updateDisk fun disk =>
          disk.putFile dir name data) :=
        keeps.updateDisk (Disk.noNewFolders_putFile _ _ _ _ keeps.apart)
          (Disk.keepsFolders_putFile _ _ _ _)
      exact written.log rfl fun _ => id
  | lastDts dts =>
      exact ⟨keeps.apart, keeps.under, keeps.fresh, keeps.numbered⟩
  | called | cut | cutFailed | appended =>
      exact keeps.log rfl fun _ => id
  | cutDone =>
      have counted := keeps.updateWs fun ws =>
        { ws with tsSinceCleanup := ws.tsSinceCleanup + 1 }
      exact counted.log rfl fun _ => id
  | nextName | addEntry | changeMuxer =>
      exact keeps.updateWs _

theorem keepsNumbers_statementStep
    {writes : (EventDb → EventDb) → Prop}
    (folders : ∀ update, writes update →
      ∀ db : EventDb, (update db).folders = db.folders)
    (before after : State) (step : StatementStep writes before after)
    (keeps : before.KeepsNumbers) : after.KeepsNumbers := by
  cases step with
  | called kind succeeded => exact keeps.called kind succeeded
  | insert date ready =>
      have inserted : KeepsNumbers (before.updateDisk fun disk =>
          disk.updateMeta (MetaRow.insertOrIgnore
            { date, motionCount := 0 })) := keeps.other rfl rfl
      exact inserted.log rfl fun _ => id
  | upsert date count ready =>
      have written : KeepsNumbers (before.updateDisk fun disk =>
          disk.updateMeta (MetaRow.upsertMotionCount date count)) :=
        keeps.other rfl rfl
      exact written.log rfl fun _ => id
  | write file update written => exact keeps.write file (folders update written)

theorem keepsNumbers_totalStep
    (before after : State) (step : TotalStep before after)
    (keeps : before.KeepsNumbers) : after.KeepsNumbers := by
  cases step with
  | called kind succeeded => exact keeps.called kind succeeded
  | update file opened =>
      have written : KeepsNumbers (before.updateDisk fun disk =>
          disk.updateEventDb file (EventDb.updateTotalFrames
            before.ws.currentSegmentId before.ws.frameCount)) :=
        keeps.write file fun db => EventDb.folders_updateTotalFrames db _ _
      exact written.log rfl fun _ => id

theorem keepsNumbers_turnStep
    (before after : State) (step : TurnStep before after)
    (keeps : before.KeepsNumbers) : after.KeepsNumbers := by
  cases step with
  | flush step =>
      cases step with
      | hls step => exact keepsNumbers_hlsStep _ _ step keeps
      | dropMuxer | dropPlaylist => exact keeps.updateWs _
  | total step => exact keepsNumbers_totalStep _ _ step keeps
  | statement step =>
      exact keepsNumbers_statementStep (fun _ => False.elim) _ _ step keeps
  | close | openMeta => exact keeps.updateWs _
  | createMeta => exact keeps.other rfl rfl
  | ensureDay | ingest => exact keeps.log rfl fun _ => id

theorem keepsNumbers_frameStep
    (before after : State) (step : FrameStep before after)
    (keeps : before.KeepsNumbers) : after.KeepsNumbers := by
  cases step with
  | hls step => exact keepsNumbers_hlsStep _ _ step keeps
  | gate | discarded | divides | fed => exact keeps.log rfl fun _ => id
  | pass | timestamp | count => exact keeps.updateWs _

theorem keepsNumbers_progressStep
    (before after : State) (step : ProgressStep before after)
    (keeps : before.KeepsNumbers) : after.KeepsNumbers := by
  cases step with
  | marks step =>
      cases step with
      | statement step =>
          apply keepsNumbers_statementStep _ _ _ step keeps
          rintro update ⟨videoId, motionFrame⟩ db
          exact db.folders_insertDetail videoId motionFrame
      | countMotion | lastMotion => exact keeps.updateWs _
      | mark | counted => exact keeps.log rfl fun _ => id
  | total step => exact keepsNumbers_totalStep _ _ step keeps
  | lastFps fps => exact keeps.updateWs _
  | judged | motion | divides => exact keeps.log rfl fun _ => id

/-- A removal begins: so far it has taken nothing. -/
theorem KeepsNumbers.remove
    {state : State} (keeps : state.KeepsNumbers) (date : CString) :
    (state.log (.removing date)).KeepsNumbers := by
  have begun : ∀ other, begunRemovals other (state.log (.removing date)).trace =
      if other = date then state.disk :: begunRemovals other state.trace
      else begunRemovals other state.trace := by
    intro other
    by_cases same : other = date
    · subst same
      rw [State.trace_log, begunRemovals, if_neg nofun, if_pos rfl, if_pos rfl]
    · rw [State.trace_log, begunRemovals, if_neg nofun, if_neg, if_neg same]
      rintro ⟨⟩
      exact same rfl
  refine ⟨keeps.apart, fun other under => ?_, ?_, ?_⟩
  · cases under
    refine ⟨state.disk, ?_, List.Subset.refl _⟩
    rw [begun, if_pos rfl]
    exact List.mem_cons_self
  · intro placed
    have notPlaced : Event.removing date ≠ .placed := nofun
    exact (@placedFresh_cons ⟨.removing date, state.ws, state.disk⟩
      notPlaced _).mpr (keeps.fresh placed.2)
  · intro placed other day present
    rcases keeps.numbered placed.2 other day present with thinned | numbered
    · obtain ⟨earlier, removal, name, was, gone⟩ := thinned
      refine .inl ⟨earlier, ?_, name, was, gone⟩
      rw [begun]
      split
      · exact List.mem_cons_of_mem _ removal
      · exact removal
    · exact .inr numbered

theorem keepsNumbers_cleanupStep
    (config : Config)
    (before after : State) (step : CleanupStep config before after)
    (keeps : before.KeepsNumbers) : after.KeepsNumbers := by
  cases step with
  | removal step =>
      cases step with
      | called kind succeeded => exact keeps.called kind succeeded
      | removing date pending => exact keeps.remove date
      | removePart date removal under =>
          refine keeps.step (.inl rfl)
            (Disk.noNewFolders_removePart keeps.apart date removal)
            (fun other => ?_) fun _ => id
          by_cases same : other = date
          · rw [same]
            exact .inr under
          · exact .inl (Disk.keepsFolders_removePart _ removal same)
      | removeDay date under =>
          exact keeps.updateDisk (Disk.noNewFolders_removeDay keeps.apart date)
            (Disk.keepsFolders_removeDay _ date)
      | removed date result under gone => exact keeps.log rfl nofun
      | delete date idle gone =>
          have deleted : KeepsNumbers (before.updateDisk fun disk =>
              disk.updateMeta (MetaRow.delete date)) := keeps.other rfl rfl
          exact deleted.log rfl fun _ => id
  | notDue early => exact keeps.log rfl fun _ => id
  | reset =>
      have reset := keeps.updateWs fun ws => { ws with tsSinceCleanup := 0 }
      exact reset.log rfl fun _ => id
  | scheduling date freeMb low oldest => exact keeps.log rfl fun _ => id
  | schedule date announced => exact keeps.other rfl rfl

theorem KeepsNumbers.restart
    {state : State} (keeps : state.KeepsNumbers) :
    state.restart.KeepsNumbers := by
  have blank : (⟨{}, -1, state.disk, state.trace⟩ : State).KeepsNumbers :=
    ⟨keeps.apart, keeps.under, keeps.fresh, keeps.numbered⟩
  exact blank.log rfl nofun

/-! ## Making directories -/

/-- A day's directory is made: it is empty. -/
theorem KeepsNumbers.makeDay
    {state : State} (keeps : state.KeepsNumbers)
    (idle : underRemoval state.trace = none) (date : CString) :
    ((state.updateDisk fun disk => disk.mkdir (.day date)).log
      (.made (.day date))).KeepsNumbers := by
  have lookup : ∀ other, (state.disk.mkdir (.day date)).day other =
      if other = date then some {} else state.disk.day other :=
    Disk.day_setDay state.disk date {}
  refine ⟨keeps.apart.of_subset (fun other file opened => ?_) le_rfl,
    fun other under => ?_, ?_, fun placed other day present => ?_⟩
  · obtain ⟨day, present, itsLogs⟩ := Option.bind_eq_some_iff.mp opened
    rw [State.disk_log, State.disk_updateDisk, lookup] at present
    split at present
    · cases present
      cases itsLogs
    · rw [Disk.eventLogs_of_day present, itsLogs]
  · cases idle.symm.trans under
  · intro placed
    have notPlaced : Event.made (.day date) ≠ .placed := by
      rintro ⟨⟩
    exact (@placedFresh_cons ⟨.made (.day date), state.ws, _⟩
      notPlaced _).mpr (keeps.fresh placed.2)
  · rw [State.disk_log, State.disk_updateDisk, lookup] at present
    split at present
    · cases present
      refine .inr ⟨0, ⟨rfl, fun _ _ => AList.notMem_empty _⟩, ?_⟩
      rintro file ⟨⟩
    rename_i different
    have names : (state.disk.mkdir (.day date)).folderNames other =
        state.disk.folderNames other := by
      rw [Disk.folderNames, lookup, if_neg different]
      rfl
    rcases keeps.numbered placed.2 other day present with thinned | numbered
    · obtain ⟨earlier, removal, name, was, gone⟩ := thinned
      refine .inl ⟨earlier, ?_, name, was, ?_⟩
      · rw [State.trace_log, begunRemovals, if_neg, if_neg]
        · exact removal
        · rintro ⟨⟩
        · rintro ⟨⟩
          exact different rfl
      · rw [State.disk_log, State.disk_updateDisk, names]
        exact gone
    · exact .inr numbered

/-- The folders of the day being opened have the numbers below the given one,
the next folder's number fits the database. -/
def NumbersBelow (state : State) (size : Nat) : Prop :=
  PlacedSoundly state.trace → ∀ day,
    state.disk.day state.ws.dateDir = some day →
      state.ws.interruptIdx < 10000000 ∧ day.Numbered state.disk size

/-- A number below the bound fits the column of the database. -/
theorem segmentFolder_eq {index : Nat} (fits : index < 10000000) :
    segmentFolder index = zeroPadded 5 index := by
  apply snprintf_of_lt
  have digits := (@Nat.length_toDigits_le_iff 10 index 7 (by decide)
    (by decide)).mpr fits
  rw [zeroPadded, List.length_leftpad]
  omega

/-- The folder is chosen: it is a new one. -/
theorem KeepsNumbers.place
    {state : State} (keeps : state.KeepsNumbers)
    {date : CString} {index : Nat}
    (opened : state.ws.dateDir = date) (sameDate : state.ws.date = date)
    (counted : state.trace.head?.map Moment.event =
        some (.called .opendir true) →
      ∃ day, state.disk.day date = some day ∧
        index = day.folders.keys.length) :
    let placed := (state.updateWs fun ws =>
      { ws with
        interruptIdx := index
        segmentDir := ⟨date, zeroPadded 5 index⟩ }).log .placed
    placed.KeepsNumbers ∧ placed.NumbersBelow index := by
  intro placed
  have numbers : PlacesSoundly ⟨.placed, placed.ws, state.disk⟩ state.trace →
      PlacedSoundly state.trace → ∀ day, state.disk.day date = some day →
        index < 10000000 ∧ day.Numbered state.disk index := by
    intro soundly earlier day present
    have whole : ¬Thinned date state.disk state.trace :=
      sameDate ▸ soundly.whole
    rcases keeps.numbered earlier date day present with thinned | numbered
    · exact absurd thinned whole
    obtain ⟨size, numbered⟩ := numbered
    have read : state.trace.head?.map Moment.event =
        some (.called .opendir true) := by
      refine soundly.counted.resolve_left fun missing => ?_
      change state.disk.day state.ws.date = none at missing
      rw [sameDate, present] at missing
      exact nomatch missing
    obtain ⟨found, there, total⟩ := counted read
    obtain rfl : found = day := Option.some.inj (there.symm.trans present)
    have fits : (state.disk.folderNames state.ws.date).length < 10000000 :=
      soundly.fits
    rw [sameDate, Disk.folderNames_of_day present, ← total] at fits
    obtain rfl : size = index := by rw [total, numbered.1.length]
    exact ⟨fits, numbered⟩
  refine ⟨⟨keeps.apart, fun other under => ?_, ?_, ?_⟩, ?_⟩
  · obtain ⟨earlier, removal, larger⟩ := keeps.under other under
    exact ⟨earlier, removal, larger⟩
  · rintro ⟨soundly, earlier⟩
    refine List.forall_mem_cons.mpr ⟨fun _ => ?_, keeps.fresh earlier⟩
    have unlisted : ∀ file, state.disk.eventLogs date = some file →
        segmentFolder index ∉ (state.disk.eventDb file).folders := by
      intro file itsFile member
      obtain ⟨day, present, itsLogs⟩ := Option.bind_eq_some_iff.mp itsFile
      obtain ⟨fits, numbered⟩ := numbers (soundly rfl) earlier day present
      obtain ⟨other, below, same⟩ := numbered.2 file itsLogs _ member
      rw [segmentFolder_eq fits] at same
      exact absurd (zeroPadded_injective 5 same) (by omega)
    refine ⟨?_, unlisted, fun file itsFile =>
      (EventDb.accepts_createSegments _ _).mpr (unlisted file itsFile)⟩
    change state.disk.folder date (zeroPadded 5 index) = none
    cases present : state.disk.day date with
    | none =>
        rw [Disk.folder, present]
        rfl
    | some day =>
        rw [Disk.folder, present]
        exact AList.lookup_eq_none.mpr ((numbers (soundly rfl) earlier day
          present).2.1.free index le_rfl)
  · exact fun soundly => keeps.numbered soundly.2
  · rintro ⟨soundly, earlier⟩ day present
    change state.disk.day state.ws.dateDir = some day at present
    rw [opened] at present
    exact numbers (soundly rfl) earlier day present

/-- The chosen folder is made: it is the last of its day. -/
theorem KeepsNumbers.makeSegment
    {state : State} (keeps : state.KeepsNumbers)
    {date : CString} {index : Nat}
    (opened : state.ws.dateDir = date)
    (numbers : state.NumbersBelow index)
    (idle : underRemoval state.trace = none) :
    let dir : SegmentDir := ⟨date, zeroPadded 5 index⟩
    let made := (state.updateDisk fun disk =>
      disk.mkdir (.segment dir)).log (.made (.segment dir))
    made.KeepsNumbers ∧ made.NumbersBelow (index + 1) := by
  intro dir made
  cases present : state.disk.day date with
  | none =>
      have same : state.disk.mkdir (.segment dir) = state.disk := by
        rw [Disk.mkdir, present]
      have unchanged : made = state.log (.made (.segment dir)) := by
        change State.log (state.updateDisk _) _ = _
        rw [State.updateDisk, same]
      rw [unchanged]
      refine ⟨keeps.log rfl fun _ => id, fun _ day there => ?_⟩
      change state.disk.day state.ws.dateDir = some day at there
      rw [opened, present] at there
      cases there
  | some day =>
      let filled : DayDir :=
        { day with folders := day.folders.insert dir.name fun _ => none }
      have written : state.disk.mkdir (.segment dir) =
          state.disk.setDay date filled := by
        rw [Disk.mkdir, present]
      have lookup : ∀ other, made.disk.day other =
          if other = date then some filled else state.disk.day other := by
        intro other
        change (state.disk.mkdir (.segment dir)).day other = _
        rw [written]
        exact Disk.day_setDay state.disk date filled other
      have files : made.disk.eventDbs = state.disk.eventDbs := by
        change (state.disk.mkdir (.segment dir)).eventDbs = _
        rw [written]
        rfl
      have more : PlacedSoundly state.trace →
          filled.Numbered made.disk (index + 1) := by
        intro soundly
        obtain ⟨_, filledBefore, listed⟩ :=
          numbers soundly day (by rw [opened]; exact present)
        refine ⟨filledBefore.insert _, fun file itsFile name member => ?_⟩
        rw [Disk.eventDb, files] at member
        obtain ⟨other, below, same⟩ := listed file itsFile name member
        exact ⟨other, Nat.lt_succ_of_lt below, same⟩
      refine ⟨⟨keeps.apart.of_subset (fun other file itsFile => ?_)
        (congrArg List.length files).ge, fun other under => ?_,
        fun soundly => ?_, fun soundly other found there => ?_⟩,
        fun soundly found there => ?_⟩
      · obtain ⟨found, there, itsLogs⟩ := Option.bind_eq_some_iff.mp itsFile
        rw [lookup] at there
        split at there
        · rename_i same
          cases there
          rw [same, Disk.eventLogs_of_day present]
          exact itsLogs
        · rw [Disk.eventLogs_of_day there, itsLogs]
      · cases idle.symm.trans under
      · have notPlaced : Event.made (.segment dir) ≠ .placed := by
          rintro ⟨⟩
        exact (@placedFresh_cons ⟨.made (.segment dir), state.ws, _⟩
          notPlaced _).mpr (keeps.fresh soundly.2)
      · rw [lookup] at there
        split at there
        · cases there
          exact .inr ⟨index + 1, more soundly.2⟩
        rename_i different
        have names : made.disk.folderNames other =
            state.disk.folderNames other := by
          rw [Disk.folderNames, lookup, if_neg different]
          rfl
        rcases keeps.numbered soundly.2 other found there with
          thinned | numbered
        · obtain ⟨earlier, removal, name, was, gone⟩ := thinned
          exact .inl ⟨earlier, removal, name, was, by rw [names]; exact gone⟩
        · obtain ⟨size, filledThere, listed⟩ := numbered
          refine .inr ⟨size, filledThere, fun file itsFile name member => ?_⟩
          rw [Disk.eventDb, files] at member
          exact listed file itsFile name member
      · change made.disk.day state.ws.dateDir = some found at there
        rw [opened, lookup, if_pos rfl] at there
        cases there
        exact ⟨(numbers soundly.2 day (by rw [opened]; exact present)).1,
          more soundly.2⟩

/-- The segment is listed under the number of its folder. -/
theorem KeepsNumbers.insertSegment
    {state : State} (keeps : state.KeepsNumbers)
    (numbers : state.NumbersBelow (state.ws.interruptIdx + 1))
    {file : Nat}
    (opened : state.disk.eventLogs state.ws.dateDir = some file)
    (startTime : CString) :
    (state.updateDisk fun disk => disk.updateEventDb file
      (EventDb.insertSegment (segmentFolder state.ws.interruptIdx)
        startTime)).KeepsNumbers := by
  refine ⟨keeps.apart.of_subset (fun _ _ => id)
    (List.length_modify _ _ _).ge, keeps.under, keeps.fresh,
    fun soundly date day present => ?_⟩
  by_cases same : date = state.ws.dateDir
  · obtain ⟨fits, filled, listed⟩ := numbers soundly day (same ▸ present)
    refine .inr ⟨_, filled, fun other itsFile name member => ?_⟩
    rw [State.disk_updateDisk, Disk.eventDb_updateEventDb] at member
    split at member
    · rcases EventDb.mem_folders_insertSegment member with old | new
      · exact listed other itsFile name old
      · exact ⟨_, Nat.lt_succ_self _, new.trans (segmentFolder_eq fits)⟩
    · exact listed other itsFile name member
  · rcases keeps.numbered soundly date day present with thinned | numbered
    · exact .inl thinned
    obtain ⟨size, filled, listed⟩ := numbered
    refine .inr ⟨size, filled, fun other itsFile name member => ?_⟩
    rw [State.disk_updateDisk, Disk.eventDb_updateEventDb] at member
    split at member
    · rename_i both
      obtain rfl := both.1
      have itsOwn : state.disk.eventLogs date = some file :=
        (Disk.eventLogs_of_day present).trans itsFile
      exact absurd (keeps.apart.apart date _ file itsOwn opened) same
    · exact listed other itsFile name member

end State

namespace Storage

open Program

/-- The date has been read, and its directory may have been made. -/
structure Entered (date : CString) (state : State) : Prop where
  keeps : state.KeepsNumbers
  idle : underRemoval state.trace = none
  sameDate : state.ws.date = date
  opened : state.ws.dateDir = date

theorem Entered.called
    {date : CString} {state : State} (entered : Entered date state)
    (kind : Call) (succeeded : Bool) :
    Entered date (state.log (.called kind succeeded)) :=
  ⟨entered.keeps.called kind succeeded, entered.idle, entered.sameDate,
    entered.opened⟩

theorem ensureDcim_entered
    {date : CString} {state : State} (entered : Entered date state) :
    (ensureDir .dcim).wp (fun _ => Entered date) State.KeepsNumbers state := by
  apply wp_ensureDir entered.keeps
  · exact fun _ => entered
  · exact entered.called .mkdir false
  · intro _ _
    have called := entered.called .mkdir true
    have made : State.KeepsNumbers ((state.log (.called .mkdir true)).updateDisk
        fun disk => disk.mkdir .dcim) := called.keeps.other rfl rfl
    exact ⟨made.log rfl fun _ => id, called.idle, called.sameDate,
      called.opened⟩

theorem ensureDay_entered
    {date : CString} {state : State} (entered : Entered date state) :
    (ensureDir (.day date)).wp (fun _ => Entered date) State.KeepsNumbers
      state := by
  apply wp_ensureDir entered.keeps
  · exact fun _ => entered
  · exact entered.called .mkdir false
  · intro _ _
    have called := entered.called .mkdir true
    exact ⟨called.keeps.makeDay called.idle date, called.idle,
      called.sameDate, called.opened⟩

/-- The folder is chosen and made. -/
theorem openFolder_numbers
    {state : State} (keeps : state.KeepsNumbers)
    (idle : underRemoval state.trace = none) :
    openFolder.wp
      (fun result after => after.KeepsNumbers ∧ (result = 0 →
        after.NumbersBelow (after.ws.interruptIdx + 1)))
      State.KeepsNumbers state := by
  rw [openFolder, wp_bind, todayString, wp_bind, wp_answer]
  refine ⟨keeps, fun today => ?_⟩
  rw [wp_pure]
  simp only
  rw [wp_bind, wp_setWs]
  have entered : Entered today.tm.date (state.updateWs fun ws =>
      { ws with
        date := today.tm.date
        dayOfYear := today.tm.yday
        dateDir := today.tm.date }) := ⟨keeps.updateWs _, idle, rfl, rfl⟩
  refine wp_then (ensureDcim_entered entered) fun _ state entered => ?_
  refine wp_then (ensureDay_entered entered) fun _ state entered => ?_
  rw [wp_bind]
  apply wp_countSubdirs entered.keeps
  intro ok total counted
  have called := entered.called .opendir ok
  obtain ⟨placed, numbers⟩ := @State.KeepsNumbers.place _ called.keeps
    today.tm.date total called.opened called.sameDate fun read => by
      cases read
      exact counted rfl
  rw [wp_bind, wp_setWs, wp_bind, wp_log]
  apply wp_ensureDir placed
  · intro there
    refine ⟨placed, fun _ soundly day present => ?_⟩
    have free := (numbers soundly day present).2.1.free total le_rfl
    have absent : state.disk.folder today.tm.date (zeroPadded 5 total) =
        none := by
      have itsDay : state.disk.day today.tm.date = some day := by
        rw [← entered.opened]
        exact present
      rw [Disk.folder, itsDay]
      exact AList.lookup_eq_none.mpr free
    change (state.disk.folder today.tm.date (zeroPadded 5 total)).isSome = true
      at there
    rw [absent] at there
    cases there
  · exact ⟨placed.called _ _, fun failed => absurd failed (by decide)⟩
  · intro _ _
    obtain ⟨made, more⟩ := @State.KeepsNumbers.makeSegment
      (State.log _ (.called .mkdir true)) (placed.called _ _)
      today.tm.date total
      entered.opened (fun soundly => numbers soundly.2) entered.idle
    exact ⟨made, fun _ => more⟩

/-- The database of the day is open and lists folders below the new one. -/
structure Listing (state : State) : Prop where
  keeps : state.KeepsNumbers
  numbers : state.NumbersBelow (state.ws.interruptIdx + 1)
  opened : state.ws.eventDb = state.disk.eventLogs state.ws.dateDir

theorem Listing.called
    {state : State} (listing : Listing state)
    (kind : Call) (succeeded : Bool) :
    Listing (state.log (.called kind succeeded)) :=
  ⟨listing.keeps.called kind succeeded,
    fun soundly => listing.numbers soundly.2, listing.opened⟩

/-- The numbers are the same after a change that brings no folder. -/
theorem numbersBelow_updateDisk
    {state : State} {update : Disk → Disk} {size : Nat}
    (numbers : state.NumbersBelow size)
    (same : state.disk.NoNewFolders (update state.disk))
    (kept : ∀ date, state.disk.KeepsFolders (update state.disk) date) :
    (state.updateDisk update).NumbersBelow size := by
  intro soundly day present
  obtain ⟨earlier, existed, _⟩ := same.days _ day present
  obtain ⟨fits, numbered⟩ := numbers soundly earlier existed
  exact ⟨fits, same.numbered (kept _) existed present numbered⟩

theorem eventDbExec_numbers
    {update : EventDb → EventDb}
    (folders : ∀ db, (update db).folders = db.folders)
    {state : State} (listing : Listing state) :
    (eventDbExec update).wp
      (fun result after => after.KeepsNumbers ∧ (result = 0 → Listing after))
      State.KeepsNumbers state := by
  rw [eventDbExec, wp_bind, wp_call]
  refine ⟨listing.keeps, fun executed _ => ?_⟩
  have called := listing.called .sql executed.ok
  apply wp_split
  · intro _
    exact ⟨called.keeps.updateWs _, nofun⟩
  intro _
  rw [wp_bind, updateEventDb, wp_bind, wp_current]
  cases found : (state.log (.called .sql executed.ok)).ws.eventDb with
  | none => exact ⟨called.keeps, fun _ => called⟩
  | some file =>
      have written := called.keeps.write file folders
      refine ⟨written, fun _ => ⟨written, ?_, called.opened⟩⟩
      exact numbersBelow_updateDisk called.numbers
        (Disk.noNewFolders_updateEventDb called.keeps.apart file folders)
        fun date => Disk.keepsFolders_of_eq rfl date

theorem eventDbOpen_numbers
    {state : State} (keeps : state.KeepsNumbers)
    (numbers : state.NumbersBelow (state.ws.interruptIdx + 1)) :
    eventDbOpen.wp
      (fun result after => after.KeepsNumbers ∧ (result = 0 → Listing after))
      State.KeepsNumbers state := by
  rw [eventDbOpen, wp_bind, wp_current, wp_bind, wp_call]
  refine ⟨keeps, fun opened _ => ?_⟩
  have called := keeps.called .openDb opened.ok
  apply wp_split
  · intro _
    exact ⟨called.updateWs _, fun failed => absurd failed (by decide)⟩
  intro _
  rw [wp_bind, wp_setDisk, wp_bind, wp_current, wp_bind, wp_setWs]
  have same := Disk.noNewFolders_openEventLogs keeps.apart state.ws.dateDir
  have kept := Disk.keepsFolders_openEventLogs state.disk state.ws.dateDir
  let created := (state.log (.called .openDb opened.ok)).updateDisk
    fun disk => disk.openEventLogs state.ws.dateDir
  have keepsCreated : created.KeepsNumbers := called.updateDisk same kept
  have numbersCreated : created.NumbersBelow (state.ws.interruptIdx + 1) :=
    @numbersBelow_updateDisk (state.log (.called .openDb opened.ok)) _ _
      (fun soundly => numbers soundly.2) same kept
  refine wp_then (eventDbExec_numbers EventDb.folders_createSegments
    ⟨keepsCreated.updateWs _, numbersCreated, rfl⟩) ?_
  rintro segments state ⟨keeps, listing⟩
  apply wp_split
  · exact fun _ => ⟨keeps, fun failed => absurd failed (by decide)⟩
  intro succeeded
  refine wp_then (eventDbExec_numbers EventDb.folders_createDetails
    (listing (not_not.mp succeeded))) ?_
  rintro details state ⟨keeps, listing⟩
  apply wp_split
  · exact fun _ => ⟨keeps, fun failed => absurd failed (by decide)⟩
  · intro succeeded
    exact eventDbExec_numbers (fun _ => rfl) (listing (not_not.mp succeeded))

theorem eventDbAddSegment_numbers
    {state : State} (listing : Listing state) :
    eventDbAddSegment.wp (fun _ => State.KeepsNumbers) State.KeepsNumbers
      state := by
  rw [eventDbAddSegment, wp_bind, wp_current]
  apply wp_split
  · exact fun _ => listing.keeps
  intro _
  rw [wp_bind, wp_answer]
  refine ⟨listing.keeps, fun time => ?_⟩
  rw [wp_bind, wp_answer]
  refine ⟨listing.keeps, fun clock => ?_⟩
  rw [wp_bind, wp_call]
  refine ⟨listing.keeps, fun inserted _ => ?_⟩
  have called := listing.called .sql inserted.ok
  apply wp_split
  · exact fun _ => called.keeps
  intro _
  rw [wp_bind, wp_current, wp_bind, updateEventDb, wp_bind, wp_current]
  cases found : (state.log (.called .sql inserted.ok)).ws.eventDb with
  | none => exact called.keeps.log rfl fun _ => id
  | some file =>
      have inserted := called.keeps.insertSegment called.numbers
        (called.opened.symm.trans found) (time.tm.startTime clock.usec)
      exact inserted.log rfl fun _ => id

theorem hlsCreate_numbers
    (config : Config) {state : State} (keeps : state.KeepsNumbers) :
    (hlsCreate config).wp (fun _ => State.KeepsNumbers) State.KeepsNumbers
      state := by
  rw [hlsCreate, wp_bind, wp_call]
  refine ⟨keeps, fun m3u _ => ?_⟩
  have allocated := (keeps.called .alloc m3u.ok).updateWs fun ws =>
    { ws with m3u := if m3u.ok then some [] else none }
  rw [wp_bind, wp_setWs, wp_bind, wp_call]
  refine ⟨allocated, fun hls _ => ?_⟩
  exact (allocated.called .alloc hls.ok).updateWs _

theorem openSegment_numbers
    (config : Config) {state : State} (keeps : state.KeepsNumbers)
    (numbers : state.NumbersBelow (state.ws.interruptIdx + 1)) :
    (openSegment config).wp (fun _ => State.KeepsNumbers) State.KeepsNumbers
      state := by
  rw [openSegment]
  refine wp_then (eventDbOpen_numbers keeps numbers) ?_
  rintro db state ⟨keeps, listing⟩
  apply wp_split
  · exact fun _ => keeps
  intro succeeded
  refine wp_then (eventDbAddSegment_numbers (listing (not_not.mp succeeded)))
    fun id state keeps => ?_
  rw [wp_bind, wp_setWs]
  have identified := keeps.updateWs fun ws => { ws with currentSegmentId := id }
  apply wp_split
  · intro _
    exact identified.updateWs _
  intro _
  rw [wp_bind, resetSegment, wp_setWs]
  refine wp_then (hlsCreate_numbers config (identified.updateWs _))
    fun hls state keeps => ?_
  apply wp_split
  · intro _
    exact keeps.updateWs _
  · exact fun _ => keeps

/-- Opening a day keeps the numbers. -/
theorem openToday_numbers
    (config : Config) {state : State} (keeps : state.KeepsNumbers)
    (idle : underRemoval state.trace = none) :
    (openToday config).wp (fun _ => State.KeepsNumbers) State.KeepsNumbers
      state := by
  rw [openToday, wp_bind, wp_log]
  refine wp_then (openFolder_numbers (keeps.log rfl fun _ => id) idle) ?_
  rintro folder state ⟨keeps, numbers⟩
  apply wp_via (fun _ => State.KeepsNumbers)
  · apply wp_split
    · exact fun _ => keeps
    · exact fun succeeded =>
        openSegment_numbers config keeps (numbers (not_not.mp succeeded))
  · exact fun result state keeps => keeps.log rfl fun _ => id

end Storage

/-- No writer has run yet, and the card is one that writers leave: days have
databases of their own and folders numbered from zero. -/
structure State.Orderly (state : State) : Prop where
  unused : state.trace = []
  apart : state.disk.FilesApart
  numbered : ∀ date day, state.disk.day date = some day →
    ∃ size, day.Numbered state.disk size

/-- A blank card is one. -/
theorem State.Orderly.blank : State.Orderly {} :=
  ⟨rfl, ⟨fun _ _ => nofun, fun _ _ _ => nofun⟩, fun _ _ => nofun⟩

/-- In every history in which `open_today` numbers a folder only after counting
all folders of its day, with fewer than ten million of them and none taken by a
removal that left others, the folder is a new one and the database takes it. -/
theorem writer_places_fresh
    (config : Config) {phase : Daemon.Phase} {state : State}
    (reached : (writer config).Reach State.Orderly phase state)
    (soundly : PlacedSoundly state.trace) : PlacedFresh state.trace := by
  have maintains : Maintains config State.Orderly State.KeepsNumbers
      State.KeepsNumbers := by
    refine ⟨fun _ keeps => keeps, ?_, fun _ => State.KeepsNumbers.restart, ?_,
      fun before after step _ => State.keepsNumbers_turnStep before after step,
      fun before after step _ => State.keepsNumbers_frameStep before after step,
      ?_, ?_⟩
    · intro first orderly
      refine ⟨orderly.apart, fun date under => ?_, fun _ => ?_,
        fun _ date day present => .inr (orderly.numbered date day present)⟩
      · rw [orderly.unused] at under
        exact nomatch under
      · rw [orderly.unused]
        exact fun _ => nofun
    · intro state keeps idle _ _
      exact Storage.openToday_numbers config keeps idle
    · intro state keeps idle _
      exact Program.wp_mono (Storage.keeps_recording
        (Storage.recordProgress_within config) State.records_progressStep
        (fun before after step _ =>
          State.keepsNumbers_progressStep before after step) keeps idle)
        (fun _ _ both => both.1) fun _ both => both.1
    · intro state keeps idle
      exact Program.wp_mono (Storage.keeps_cleanup config
        (State.keepsNumbers_cleanupStep config) keeps idle)
        (fun _ _ both => both.1) fun _ stops => stops
  exact (maintains.everywhere reached).fresh soundly

/-- The daemon starts three times on the first day.  On the second day power is
lost when the removal of the first has taken its first folder, and the daemon
comes up again under a clock that shows the first day: it chooses the folder of
the third start again. -/
theorem writer_reuses_folder :
    let config : Config := { cleanupEveryTs := 1 }
    let keyframes : List FqFrame :=
      [⟨some ⟨0, [1]⟩, 1, true, 0⟩, ⟨some ⟨1, [2]⟩, 1, true, 40000⟩]
    let firstDay : Choice := {}
    let secondDay : Choice :=
      { tm := { mday := 2, yday := 1 }
        removal := { folder := fun name => name = zeroPadded 5 0 } }
    let start := fun (state : State) (frames : List FqFrame)
        (script : List Choice) =>
      (((writer config).life frames).run state.restart script).state
    let state₃ := start (start (start {} [] (List.replicate 40 firstDay)) []
      (List.replicate 40 firstDay)) [] (List.replicate 40 firstDay)
    let state₄ := start state₃ keyframes (List.replicate 40 secondDay)
    let state₅ := start state₄ [] (List.replicate 40 firstDay)
    (writer config).Reach State.Orderly .off state₅ ∧
      ¬PlacedFresh state₅.trace := by
  intro config keyframes firstDay secondDay start state₃ state₄ state₅
  have starts : ∀ state frames script,
      (writer config).Reach State.Orderly .off state →
        (writer config).Reach State.Orderly .off (start state frames script) :=
    fun _ frames script reached => Daemon.Reach.life reached frames script
  refine ⟨starts _ _ _ (starts _ _ _ (starts _ _ _ (starts _ _ _
    (starts _ _ _ (.initial .blank))))), fun fresh => ?_⟩
  have reused : ∃ moment ∈ state₅.trace, moment.event = .placed ∧
      (moment.disk.folder moment.ws.segmentDir.date
        moment.ws.segmentDir.name).isSome = true := by decide +kernel
  obtain ⟨moment, member, placed, there⟩ := reused
  rw [(fresh moment member placed).unmade] at there
  exact nomatch there

/-- A daemon that starts twice on one day. -/
theorem writer_places_fresh_two_starts :
    let works : List Choice := List.replicate 40 {}
    let first := (((writer {}).life []).run (State.restart {}) works).state
    let second := (((writer {}).life []).run first.restart works).state
    PlacedFresh second.trace := by
  intro works first second
  have reached : (writer {}).Reach State.Orderly .off first :=
    @Daemon.Reach.life _ _ _ (writer {}) State.Orderly {} (.initial .blank) _ _
  exact writer_places_fresh {} (Daemon.Reach.life reached _ _)
    (by decide +kernel)

end MotionSense
