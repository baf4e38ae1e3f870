import MotionSense.Storage.FolderLog

/-!
# What the muxer publishes

As long as nothing fails, the `.ts` files named in the published playlist hold
the frames given to the muxer up to its last cut, and its buffer holds the rest.
-/

namespace MotionSense

namespace State

/-! ## What the parts of the writer leave alone -/

/-- No failure is forgotten, no log changed and no row lost. -/
structure Carries (before after : State) : Prop where
  succeeds : after.Succeeds → before.Succeeds
  logs : after.logs = before.logs
  rows : before.disk.KeepsRows after.disk

namespace Carries

theorem trans
    {first second third : State}
    (earlier : first.Carries second) (later : second.Carries third) :
    first.Carries third :=
  ⟨fun succeeds => earlier.succeeds (later.succeeds succeeds),
    later.logs.trans earlier.logs, earlier.rows.trans later.rows⟩

theorem log {state : State} {event : Event}
    (quiet : (state.log event).logs = state.logs) :
    state.Carries (state.log event) :=
  ⟨fun succeeds => ((state.succeeds_log event).mp succeeds).2, quiet,
    .of_eq rfl⟩

theorem updateWs (state : State) (update : WriterState → WriterState) :
    state.Carries (state.updateWs update) :=
  ⟨id, rfl, .of_eq rfl⟩

theorem updateDisk {state : State} {update : Disk → Disk}
    (rows : state.disk.KeepsRows (update state.disk)) :
    state.Carries (state.updateDisk update) :=
  ⟨id, rfl, rows⟩

end Carries

theorem eventDbs_mkdir (disk : Disk) (dir : Dir) :
    (disk.mkdir dir).eventDbs = disk.eventDbs := by
  cases dir with
  | dcim => rfl
  | day date => rfl
  | segment dir =>
      simp only [Disk.mkdir]
      split <;> rfl

theorem eventDbs_putFile
    (disk : Disk) (dir : SegmentDir) (name : CString) (data : FileData) :
    (disk.putFile dir name data).eventDbs = disk.eventDbs := by
  unfold Disk.putFile
  split
  · rfl
  · split <;> rfl

theorem eventDbs_removePart
    (disk : Disk) (date : CString) (removal : Removal) :
    (disk.removePart date removal).eventDbs = disk.eventDbs := by
  unfold Disk.removePart
  split <;> rfl

theorem carries_folderStep
    (before after : State) (step : FolderStep before after) :
    before.Carries after := by
  cases step with
  | called kind succeeded => exact .log rfl
  | enter date yday => exact .updateWs _ _
  | mkdir dir parent new =>
      exact .trans (.updateDisk (.of_eq (eventDbs_mkdir _ _))) (.log rfl)
  | place index dir => exact .updateWs _ _
  | placed => exact .log rfl

theorem carries_statementStep
    {writes : (EventDb → EventDb) → Prop}
    (keeps : ∀ update, writes update →
      ∀ (db : EventDb) id row, db.segmentRow id = some row →
        (update db).segmentRow id = some row)
    (before after : State) (step : StatementStep writes before after) :
    before.Carries after := by
  cases step with
  | called kind succeeded => exact .log rfl
  | insert date ready => exact .trans (.updateDisk (.of_eq rfl)) (.log rfl)
  | upsert date count ready =>
      exact .trans (.updateDisk (.of_eq rfl)) (.log rfl)
  | write file update written =>
      exact .updateDisk (.updateEventDb _ file (keeps update written))

theorem carries_dbStep
    (before after : State) (step : DbStep before after) :
    before.Carries after := by
  cases step with
  | statement step =>
      exact carries_statementStep (fun _ opens _ _ _ => opens.keeps) _ _ step
  | openMeta opened => exact .updateWs _ _
  | createMeta => exact .updateDisk (.of_eq rfl)
  | createLogs date => exact .updateDisk (.openEventLogs _ date)
  | openLogs file => exact .updateWs _ _
  | stamp file folder time clock opened accepted =>
      exact .trans (.updateDisk (.updateEventDb _ file fun _ _ _ =>
        EventDb.insertSegment_keeps _ _)) (.log rfl)

theorem carries_retentionStep
    (before after : State) (step : RetentionStep before after) :
    before.Carries after := by
  cases step with
  | called kind succeeded => exact .log rfl
  | notDue => exact .log rfl
  | reset => exact .trans (.updateWs _ _) (.log rfl)
  | scheduling date freeMb => exact .log rfl
  | removing date pending => exact .log rfl
  | removePart date removal =>
      exact .updateDisk (.of_eq (eventDbs_removePart _ _ _))
  | removeDay date => exact .updateDisk (.of_eq rfl)
  | removed date result => exact .log rfl
  | delete date => exact .updateDisk (.of_eq rfl)
  | rowDeleted date => exact .log rfl
  | schedule date notToday => exact .updateDisk (.of_eq rfl)

/-- The fields of the writer that the account of the current folder rests
on. -/
def accountView (state : State) : Bool × Nat × Option Nat × Int :=
  (state.ws.seenKeyframe, state.ws.frameCount, state.ws.eventDb,
    state.ws.currentSegmentId)

/-- What the muxer leaves alone. -/
structure Muxes (before after : State) : Prop where
  succeeds : after.Succeeds → before.Succeeds
  rows : before.disk.KeepsRows after.disk
  account : after.accountView = before.accountView

namespace Muxes

theorem refl (state : State) : state.Muxes state :=
  ⟨id, .of_eq rfl, rfl⟩

theorem trans
    {first second third : State}
    (earlier : first.Muxes second) (later : second.Muxes third) :
    first.Muxes third :=
  ⟨fun succeeds => earlier.succeeds (later.succeeds succeeds),
    earlier.rows.trans later.rows, later.account.trans earlier.account⟩

theorem log (state : State) (event : Event) :
    state.Muxes (state.log event) :=
  ⟨fun succeeds => ((state.succeeds_log event).mp succeeds).2, .of_eq rfl, rfl⟩

end Muxes

theorem muxes_hlsStep
    (before after : State) (step : HlsStep before after) :
    before.Muxes after := by
  cases step with
  | called kind succeeded => exact .log _ _
  | cut frames => exact .log _ _
  | replaced dir name data outlet =>
      have written : before.Muxes (before.updateDisk fun disk =>
          disk.putFile dir name data) :=
        ⟨id, .of_eq (eventDbs_putFile _ _ _ _), rfl⟩
      exact written.trans (.log _ _)
  | cutFailed result failed => exact .log _ _
  | cutDone =>
      have counted : before.Muxes (before.updateWs fun ws =>
          { ws with tsSinceCleanup := ws.tsSinceCleanup + 1 }) :=
        ⟨id, .of_eq rfl, rfl⟩
      exact counted.trans (.log _ _)
  | appended frame => exact .log _ _
  | _ => exact ⟨id, .of_eq rfl, rfl⟩

theorem muxes_flushStep
    (before after : State) (step : FlushStep before after) :
    before.Muxes after := by
  cases step with
  | hls step => exact muxes_hlsStep _ _ step
  | dropMuxer => exact ⟨id, .of_eq rfl, rfl⟩
  | dropPlaylist => exact ⟨id, .of_eq rfl, rfl⟩

end State

namespace Storage

open Program State

/-- A program whose steps belong to a preorder is one of its steps. -/
theorem wp_of_steps
    {step preorder : State → State → Prop}
    (refl : ∀ state, preorder state state)
    (trans : ∀ {first second third}, preorder first second →
      preorder second third → preorder first third)
    {program : Storage α}
    (within : program.Within step)
    (included : ∀ before after, step before after → preorder before after)
    (state : State) :
    program.wp (fun _ => preorder state) (fun _ => True) state :=
  wp_mono (within.keeps
    (fun _ _ last earlier => trans earlier (included _ _ last))
    state (refl state)) (fun _ _ path => path) fun _ _ => trivial

end Storage

/-! ## The muxer and what it has published -/

namespace FolderLog

/-- Publishing changes no account. -/
theorem toFolderAccount_publish
    (log : FolderLog) (name : CString) (data : FileData) :
    (log.publish name data).toFolderAccount = log.toFolderAccount := rfl

/-- The next segment and the playlist that names it. -/
theorem media_publish
    {log : FolderLog} {count : Nat}
    (index : log.index = (List.range count).map tsName)
    (files : ∀ name ∈ log.index, (log.files name).isSome = true)
    (frames : List FqFrame)
    {entries : List PlaylistEntry}
    (names : entries.map PlaylistEntry.name =
      (List.range (count + 1)).map tsName) :
    let next := (log.publish (tsName count) (.media frames)).publish indexName
      (.playlist entries)
    next.index = (List.range (count + 1)).map tsName ∧
      (∀ name ∈ next.index, (next.files name).isSome = true) ∧
      next.media = log.media ++ frames := by
  intro next
  have playlist : next.files indexName = some (.playlist entries) := by
    simp only [next, publish]
    rw [Function.update_self]
  have last : next.files (tsName count) = some (.media frames) := by
    simp only [next, publish]
    rw [Function.update_of_ne (tsName_ne_indexName count),
      Function.update_self]
  have earlier : ∀ k < count, next.files (tsName k) = log.files (tsName k) := by
    intro k inside
    simp only [next, publish]
    rw [Function.update_of_ne (tsName_ne_indexName k),
      Function.update_of_ne fun same =>
        absurd (tsName_injective same) (Nat.ne_of_lt inside)]
  have nextIndex : next.index = (List.range (count + 1)).map tsName := by
    rw [FolderLog.index, Folder.index, playlist]
    exact names
  refine ⟨nextIndex, fun name listed => ?_, ?_⟩
  · rw [nextIndex] at listed
    obtain ⟨k, inside, rfl⟩ := List.mem_map.mp listed
    rcases Nat.lt_succ_iff_lt_or_eq.mp (List.mem_range.mp inside) with
      below | rfl
    · rw [earlier k below]
      apply files
      rw [index]
      exact List.mem_map_of_mem (List.mem_range.mpr below)
    · rw [last]
      rfl
  · have before : log.media =
        ((List.range count).map tsName).flatMap log.files.frames := by
      rw [← index]
      rfl
    have after : next.media =
        ((List.range (count + 1)).map tsName).flatMap next.files.frames := by
      rw [← nextIndex]
      rfl
    rw [before, after, List.range_succ, List.map_append, List.flatMap_append]
    congr 1
    · refine List.flatMap_congr fun name listed => ?_
      obtain ⟨k, inside, rfl⟩ := List.mem_map.mp listed
      rw [Folder.frames, Folder.frames, earlier k (List.mem_range.mp inside)]
    · simp [Folder.frames, last]

end FolderLog

/-- The playlist names every segment cut so far, and the published segments
with the buffer are the frames given to the muxer. -/
structure FolderLog.Muxing
    (log : FolderLog) (ws : WriterState) (given buffer : List FqFrame) :
    Prop where
  playlist : ∃ entries, ws.m3u = some entries ∧
    entries.map PlaylistEntry.name = (List.range ws.tsIdx).map tsName
  index : log.index = (List.range ws.tsIdx).map tsName
  files : ∀ name ∈ log.index, (log.files name).isSome = true
  media : log.media ++ buffer = given

namespace State

/-- The log of the current folder has the given account, and what is published
in it goes with the buffer. -/
def MuxesInto
    (account : FolderAccount) (older : List FolderLog)
    (given buffer : List FqFrame) (state : State) : Prop :=
  ∃ log, state.logs = log :: older ∧ log.toFolderAccount = account ∧
    log.Muxing state.ws given buffer

/-- The muxer is there and its buffer goes with what is published. -/
def HasMuxer
    (account : FolderAccount) (older : List FolderLog)
    (given : List FqFrame) (state : State) : Prop :=
  ∃ hls, state.ws.hls = some hls ∧ (hls.bytes = 0 → hls.frames = []) ∧
    state.MuxesInto account older given hls.frames

end State

namespace Storage

open Program State

/-- A file that is replaced without a failure is published. -/
theorem writeFileAtomic_publishes
    (dir : SegmentDir) (name : CString) (data : FileData) (state : State) :
    (writeFileAtomic dir name data).wp
      (fun result after => after.Succeeds → state.Succeeds ∧ result = 0 ∧
        after.ws = state.ws ∧
        after.logs =
          Moment.extendLog (fun log => log.publish name data) state.logs)
      (fun _ => True) state := by
  have failed : ∀ {before : State} {kind : Call} {choice : Choice},
      kind ∈ [Call.writeFile, .rename, .fsyncDir] → (!choice.ok) = true →
      ¬ (before.log (.called kind choice.ok)).Succeeds := by
    intro before kind choice listed refused succeeds
    have first := (succeeds_log _ _).mp succeeds
    rw [Bool.not_eq_true'] at refused
    simp only [List.mem_cons, List.not_mem_nil, or_false] at listed
    rcases listed with rfl | rfl | rfl <;>
      simp [Moment.succeeded, refused] at first
  simp only [writeFileAtomic, wp_bind, wp_call, true_and]
  intro written _
  refine wp_split (fun refused succeeds =>
    absurd succeeds (failed (by simp) refused)) fun _ => ?_
  simp only [wp_bind, wp_call, true_and]
  intro renamed _
  refine wp_split (fun refused succeeds =>
    absurd succeeds (failed (by simp) refused)) fun _ => ?_
  simp only [wp_bind, wp_setDisk, wp_log, wp_call, true_and]
  intro synced _
  refine wp_split (fun refused succeeds =>
    absurd succeeds (failed (by simp) refused)) fun _ => ?_
  intro succeeds
  have replaced : ((state.log (.called .writeFile written.ok)).log
      (.called .rename renamed.ok)).Succeeds :=
    ((succeeds_log _ _).mp ((succeeds_log _ _).mp succeeds).2).2
  exact ⟨((succeeds_log _ _).mp ((succeeds_log _ _).mp replaced).2).2,
    rfl, rfl, rfl⟩

section

variable (config : Config) {account : FolderAccount} {older : List FolderLog}
  {given : List FqFrame} {state : State}

/-- A cut that does not fail publishes the buffer. -/
theorem hlsCb_publishes
    {frames : List FqFrame}
    (muxes : state.MuxesInto account older given frames)
    (pts dts duration : Int) :
    (hlsCb config frames pts dts duration).wp
      (fun result after => after.Succeeds → result = 0 ∧
        after.ws.hls = state.ws.hls ∧
        after.MuxesInto account older given [])
      (fun _ => True) state := by
  obtain ⟨log, logs, accounted, ⟨entries, playlist, names⟩, index, files,
    media⟩ := muxes
  rw [hlsCb, wp_bind, wp_log, wp_bind, wp_current, wp_bind, wp_modify,
    wp_bind, wp_setWs]
  simp only [State.ws_log, playlist]
  rw [wp_bind, wp_setWs]
  refine wp_then (writeFileAtomic_publishes _ _ _ _)
    fun segment written first => ?_
  refine wp_split (fun failed succeeds => ?_) fun _ => ?_
  · exact absurd (first ((succeeds_log _ _).mp succeeds).2).2.1 failed
  refine wp_then (writeFileAtomic_publishes _ _ _ _)
    fun listing after second => ?_
  refine wp_split (fun failed succeeds => ?_) fun _ succeeds => ?_
  · exact absurd (second ((succeeds_log _ _).mp succeeds).2).2.1 failed
  obtain ⟨before, _, listedWs, listed⟩ :=
    second ((succeeds_log _ _).mp succeeds).2
  obtain ⟨_, _, writtenWs, stored⟩ := first before
  obtain ⟨entry, entryEq⟩ : ∃ entry : PlaylistEntry, entry =
      ⟨tsName state.ws.tsIdx, pts, duration,
        if state.lastDts < 0 then false
        else decide (dts > state.lastDts + config.hlsDuration.tdiv 2)⟩ :=
    ⟨_, rfl⟩
  have ws : after.ws =
      { state.ws with
        tsIdx := state.ws.tsIdx + 1
        m3u := some (entries ++ [entry]) } := by
    rw [listedWs, writtenWs, entryEq]
    simp only [State.ws_updateWs, playlist, Option.map_some]
    rfl
  have hls : after.ws.hls = state.ws.hls := by rw [ws]
  have m3u : after.ws.m3u = some (entries ++ [entry]) := by rw [ws]
  have tsIdx : after.ws.tsIdx = state.ws.tsIdx + 1 := by rw [ws]
  have nextNames : (entries ++ [entry]).map PlaylistEntry.name =
      (List.range (state.ws.tsIdx + 1)).map tsName := by
    rw [List.map_append, names, List.range_succ, List.map_append, entryEq]
    rfl
  obtain ⟨nextIndex, nextFiles, nextMedia⟩ :=
    FolderLog.media_publish index files frames nextNames
  have logsAfter : after.logs =
      ((log.publish (tsName state.ws.tsIdx) (.media frames)).publish indexName
        (.playlist (entries ++ [entry]))) :: older := by
    rw [listed, stored, entryEq]
    change Moment.extendLog _ (Moment.extendLog _ state.logs) = _
    rw [logs]
    rfl
  refine ⟨rfl, hls, _, logsAfter, ?_, ⟨entries ++ [entry], m3u, ?_⟩, ?_,
    nextFiles, ?_⟩
  · rw [FolderLog.toFolderAccount_publish, FolderLog.toFolderAccount_publish,
      accounted]
  · rw [nextNames, ← tsIdx]
    rfl
  · rw [nextIndex, ← tsIdx]
    rfl
  · rw [nextMedia, List.append_nil]
    exact media

/-- The part that starts a segment leaves an empty buffer behind. -/
theorem hlsNewSegment_publishes
    {hls : HlsMedia}
    (opened : state.ws.hls = some hls)
    (blank : hls.bytes = 0 → hls.frames = [])
    (muxes : state.MuxesInto account older given hls.frames)
    (payload : Option FqFrame) (pts dts : Int) :
    (hlsNewSegment config hls payload pts dts).wp
      (fun result after => after.Succeeds → result = 0 ∧
        after.ws.hls = some (hls.begin pts dts) ∧
        after.MuxesInto account older given [])
      (fun _ => True) state := by
  rw [hlsNewSegment]
  refine wp_via (fun result after => after.Succeeds → result = 0 ∧
    after.ws.hls = some hls ∧ after.MuxesInto account older given [])
    (wp_split (fun _ => ?_) fun unfilled _ => ?_) fun result reached cut => ?_
  · refine wp_mono (hlsCb_publishes config muxes _ _ _)
      (fun result after published succeeds => ?_) fun _ => id
    obtain ⟨worked, sameMuxer, muxes⟩ := published succeeds
    exact ⟨worked, sameMuxer.trans opened, muxes⟩
  · refine ⟨rfl, opened, ?_⟩
    rw [blank (by omega)] at muxes
    exact muxes
  · refine wp_split (fun failed succeeds => absurd (cut succeeds).1 failed)
      fun _ succeeds => ?_
    obtain ⟨_, reachedMuxer, log, logs, accounted, muxing⟩ := cut succeeds
    refine ⟨rfl, ?_, log, logs, accounted, muxing.playlist, muxing.index,
      muxing.files, muxing.media⟩
    change reached.ws.hls.map _ = _
    rw [reachedMuxer]
    rfl

/-- Without a failure the muxer takes the payload into its buffer, and the call
that ends the stream leaves the buffer empty. -/
theorem hlsMediaInput_publishes
    (muxes : state.HasMuxer account older given)
    (payload : Option FqFrame) (pts dts : Int) (isKey : Bool) :
    (hlsMediaInput config payload pts dts isKey).wp
      (fun _ after => after.Succeeds →
        after.HasMuxer account older (given ++ payload.toList) ∧
          (payload = none → after.MuxesInto account older given []))
      (fun _ => True) state := by
  obtain ⟨hls, opened, blank, muxes⟩ := muxes
  rw [hlsMediaInput, wp_bind, wp_current]
  simp only [opened]
  -- Without a new segment there was a payload.
  refine wp_via (fun result after => after.Succeeds → result = 0 ∧
    ∃ current, after.ws.hls = some current ∧
      after.MuxesInto account older given current.frames ∧
      (payload = none → current.frames = []))
    (wp_split (fun _ => ?_) fun continues _ => ?_) fun result reached cut => ?_
  · refine wp_mono (hlsNewSegment_publishes config opened blank muxes _ _ _)
      (fun result after published succeeds => ?_) fun _ => id
    obtain ⟨worked, begun, muxes⟩ := published succeeds
    exact ⟨worked, _, begun, muxes, fun _ => rfl⟩
  · refine ⟨rfl, hls, opened, muxes, fun ended => ?_⟩
    simp [HlsMedia.forces, ended] at continues
  · refine wp_split (fun failed succeeds => absurd (cut succeeds).1 failed)
      fun _ => ?_
    rw [wp_bind, wp_answer]
    refine ⟨trivial, fun written => ?_⟩
    rw [wp_bind, wp_setWs, wp_bind]
    suffices stored : ∀ after : State,
        (after.Succeeds → reached.Succeeds) → after.logs = reached.logs →
        after.ws = { reached.ws with
          hls := reached.ws.hls.map fun hls =>
            { hls with audioOnlyFlag := false, dtsLast := dts }.write
              payload written.packets } →
        after.Succeeds →
          after.HasMuxer account older (given ++ payload.toList) ∧
            (payload = none → after.MuxesInto account older given []) by
      apply wp_noteAppended
      · exact fun _ => stored _ id rfl rfl
      · exact fun frame _ => stored _
          (fun succeeds => ((succeeds_log _ _).mp succeeds).2) rfl rfl
    intro after earlier sameLogs sameWs succeeds
    obtain ⟨_, current, reachedMuxer, ⟨log, logs, accounted, muxing⟩, ended⟩ :=
      cut (earlier succeeds)
    rw [← sameLogs] at logs
    have m3u : after.ws.m3u = reached.ws.m3u := by rw [sameWs]
    have tsIdx : after.ws.tsIdx = reached.ws.tsIdx := by rw [sameWs]
    have muxingAfter : log.Muxing after.ws given current.frames :=
      ⟨m3u ▸ tsIdx ▸ muxing.playlist, tsIdx ▸ muxing.index, muxing.files,
        muxing.media⟩
    have frames : ({ current with
          audioOnlyFlag := false, dtsLast := dts }.write payload
            written.packets).frames = current.frames ++ payload.toList :=
      HlsMedia.frames_write _ _ _
    refine ⟨⟨_, by rw [sameWs, reachedMuxer]; rfl, ?_, log, logs,
      accounted, muxingAfter.playlist, muxingAfter.index, muxingAfter.files,
      ?_⟩,
      fun isNone => ?_⟩
    · intro unfilled
      rw [frames]
      cases payload with
      | none => rw [ended rfl]; rfl
      | some frame =>
          simp [HlsMedia.write] at unfilled
    · rw [frames, ← List.append_assoc, muxing.media]
    · exact ⟨log, logs, accounted, muxingAfter.playlist, muxingAfter.index,
        muxingAfter.files, by rw [← muxing.media, ended isNone]⟩

end

end Storage
end MotionSense
