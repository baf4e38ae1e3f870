import MotionSense.Storage.OpenDay
import MotionSense.Storage.Rounds

/-!
# Footage goes only for a cause

A day becomes pending because, since its row was inserted, some cleanup found
too little space and that day the oldest one to give up; it stays pending while
its tree is removed; and its row goes after its directory.  The cause outlives
the process that found it: the row keeps it through crashes and restarts.
-/

namespace MotionSense

/-- A day is the first of the active ones in the order of their names, today
left out. -/
structure OldestActive (rows : List MetaRow) (today date : CString) :
    Prop where
  active : ∃ row ∈ rows, row.date = date ∧ row.state = .active
  notToday : date ≠ today
  least : ∀ row ∈ rows, row.state = .active → row.date ≠ today →
    date ≤ row.date

/-- Some cleanup has found too little space and the day to be the oldest active
one, and the day has had its row at every moment since. -/
inductive Caused (config : Config) (date : CString) : List Moment → Prop
  | scheduled {moment : Moment} {older : List Moment} (freeMb : Nat)
      (event : moment.event = .scheduling date freeMb)
      (low : freeMb < config.diskFreeMinMb)
      (oldest : OldestActive moment.disk.metaRows moment.ws.date date) :
      Caused config date (moment :: older)
  | since {moment : Moment} {older : List Moment}
      (listed : moment.disk.hasRow date)
      (earlier : Caused config date older) :
      Caused config date (moment :: older)

/-- What a moment may show of the removal of days, given those before it. -/
structure RemovesLawfully
    (config : Config) (moment : Moment) (older : List Moment) : Prop where
  /-- `remove_path_tree` is called on days that there is a cause for. -/
  caused : ∀ date, moment.event = .removing date → Caused config date older
  /-- The row is pending from the call to the return, or to the restart. -/
  pending : ∀ date,
    moment.event = .removing date ∨ underRemoval older = some date →
      moment.disk.isPending date = true
  /-- A row that is gone belonged to a day whose directory is gone. -/
  gone : ∀ date last, older.head? = some last → last.disk.hasRow date →
    moment.disk.hasRow date ∨
      moment.event = .rowDeleted date ∧ moment.disk.day date = none

/-! ## The oldest candidate -/

/-- The candidate of the query is the first active day other than today. -/
theorem oldestActive_of_oldestCandidate
    {rows : List MetaRow} {today date : CString}
    (oldest : MetaRow.oldestCandidate today rows = some date) :
    OldestActive rows today date := by
  rw [MetaRow.oldestCandidate, List.min?_eq_some_iff] at oldest
  obtain ⟨listed, least⟩ := oldest
  have selected : ∀ {row : MetaRow},
      row ∈ rows.filter (fun row =>
        row.date ≠ today && row.state = .active) ↔
        row ∈ rows ∧ row.date ≠ today ∧ row.state = .active := by
    intro row
    rw [List.mem_filter, Bool.and_eq_true, decide_eq_true_iff,
      decide_eq_true_iff]
  obtain ⟨row, isSelected, rfl⟩ := List.mem_map.mp listed
  obtain ⟨inTable, notToday, active⟩ := selected.mp isSelected
  refine ⟨⟨row, inTable, rfl, active⟩, notToday, ?_⟩
  intro other inTable active notToday
  exact least other.date
    (List.mem_map_of_mem (selected.mpr ⟨inTable, notToday, active⟩))

/-! ## Rows that stay -/

namespace Disk

theorem hasRow_of_isPending {disk : Disk} {date : CString}
    (pending : disk.isPending date = true) : disk.hasRow date := by
  obtain ⟨row, listed, both⟩ := List.any_eq_true.mp pending
  rw [Bool.and_eq_true, decide_eq_true_iff] at both
  exact ⟨row, listed, both.1⟩

theorem hasRow_updateMeta
    {disk : Disk} {update : List MetaRow → List MetaRow} {date : CString}
    (kept : ∀ rows : List MetaRow, (∃ row ∈ rows, row.date = date) →
      ∃ row ∈ update rows, row.date = date)
    (listed : disk.hasRow date) :
    (disk.updateMeta update).hasRow date := by
  cases found : disk.videoMetadata with
  | none =>
      obtain ⟨row, inTable, _⟩ := listed
      rw [metaRows, found] at inTable
      exact absurd inTable List.not_mem_nil
  | some rows =>
      rw [hasRow, metaRows, found] at listed
      rw [hasRow, metaRows, updateMeta, found]
      exact kept rows listed

theorem hasRow_insert {disk : Disk} {date : CString} (inserted : CString)
    (listed : disk.hasRow date) :
    (disk.updateMeta (MetaRow.insertOrIgnore
      { date := inserted, motionCount := 0 })).hasRow date := by
  apply hasRow_updateMeta _ listed
  rintro rows ⟨row, inTable, same⟩
  rw [MetaRow.insertOrIgnore]
  split
  · exact ⟨row, inTable, same⟩
  · exact ⟨row, List.mem_append_left _ inTable, same⟩

/-- Rewriting rows without changing their dates keeps every date. -/
theorem hasRow_map
    {rows : List MetaRow} {date : CString} {change : MetaRow → MetaRow}
    (same : ∀ row, (change row).date = row.date)
    (listed : ∃ row ∈ rows, row.date = date) :
    ∃ row ∈ rows.map change, row.date = date := by
  obtain ⟨row, inTable, isDate⟩ := listed
  exact ⟨change row, List.mem_map_of_mem inTable, (same row).trans isDate⟩

theorem hasRow_upsert
    {disk : Disk} {date : CString} (counted : CString) (count : Int)
    (listed : disk.hasRow date) :
    (disk.updateMeta (MetaRow.upsertMotionCount counted count)).hasRow
      date := by
  apply hasRow_updateMeta _ listed
  intro rows listed
  rw [MetaRow.upsertMotionCount]
  split
  · apply hasRow_map _ listed
    intro row
    split <;> rfl
  · obtain ⟨row, inTable, same⟩ := listed
    exact ⟨row, List.mem_append_left _ inTable, same⟩

theorem hasRow_schedule
    {disk : Disk} {date : CString} (scheduled : CString)
    (listed : disk.hasRow date) :
    (disk.updateMeta (MetaRow.schedule scheduled)).hasRow date := by
  apply hasRow_updateMeta _ listed
  intro rows listed
  apply hasRow_map _ listed
  intro row
  split <;> rfl

theorem hasRow_delete
    {disk : Disk} {date deleted : CString} (other : date ≠ deleted)
    (listed : disk.hasRow date) :
    (disk.updateMeta (MetaRow.delete deleted)).hasRow date := by
  apply hasRow_updateMeta _ listed
  rintro rows ⟨row, inTable, same⟩
  refine ⟨row, List.mem_filter.mpr ⟨inTable, ?_⟩, same⟩
  rw [same]
  exact decide_eq_true other

/-- Scheduling a day makes no other one pending, and none less so. -/
theorem isPending_schedule_self
    {disk : Disk} {date : CString} (scheduled : CString)
    (pending : disk.isPending date = true) :
    (disk.updateMeta (MetaRow.schedule scheduled)).isPending date = true := by
  by_cases same : scheduled = date
  · subst same
    cases found : disk.videoMetadata with
    | none =>
        rw [isPending, metaRows, found] at pending
        exact absurd pending Bool.false_ne_true
    | some rows =>
        rw [isPending, metaRows, found] at pending
        rw [isPending, metaRows, updateMeta, found]
        obtain ⟨row, inTable, both⟩ := List.any_eq_true.mp pending
        rw [Bool.and_eq_true, decide_eq_true_iff, decide_eq_true_iff] at both
        refine List.any_eq_true.mpr ⟨row, List.mem_map.mpr ⟨row, inTable, ?_⟩,
          by rw [both.1, both.2]; simp⟩
        rw [if_neg]
        rintro ⟨_, active⟩
        rw [both.2] at active
        cases active
  · rw [isPending_schedule disk same]
    exact pending

/-- Recording leaves the rows of all days, and changes no state. -/
structure SameDuties (before after : Disk) : Prop where
  rows : ∀ date, before.hasRow date → after.hasRow date
  pending : ∀ date, after.isPending date = before.isPending date

theorem SameDuties.refl (disk : Disk) : disk.SameDuties disk :=
  ⟨fun _ => id, fun _ => rfl⟩

/-- Only the table of days matters. -/
theorem SameDuties.of_metaRows {before after : Disk}
    (same : after.metaRows = before.metaRows) : before.SameDuties after := by
  refine ⟨fun date listed => ?_, fun date => ?_⟩
  · rw [hasRow, same]
    exact listed
  · rw [isPending, isPending, same]

theorem metaRows_putFile
    (disk : Disk) (dir : SegmentDir) (name : CString) (data : FileData) :
    (disk.putFile dir name data).metaRows = disk.metaRows := by
  unfold putFile
  split
  · rfl
  · split <;> rfl

theorem metaRows_mkdir (disk : Disk) (dir : Dir) :
    (disk.mkdir dir).metaRows = disk.metaRows := by
  cases dir with
  | segment dir =>
      unfold mkdir
      simp only
      split <;> rfl
  | _ => rfl

theorem metaRows_openEventLogs (disk : Disk) (date : CString) :
    (disk.openEventLogs date).metaRows = disk.metaRows := by
  unfold openEventLogs
  split
  · rfl
  · split <;> rfl

theorem metaRows_removePart
    (disk : Disk) (date : CString) (removal : Removal) :
    (disk.removePart date removal).metaRows = disk.metaRows := by
  unfold removePart
  split <;> rfl

end Disk

namespace State

open Disk

theorem sameDuties_hlsStep
    (before after : State) (step : HlsStep before after) :
    before.disk.SameDuties after.disk := by
  cases step with
  | replaced dir name data outlet => exact .of_metaRows (metaRows_putFile _ _ _ _)
  | _ => exact .refl _

theorem sameDuties_statementStep
    {writes : (EventDb → EventDb) → Prop}
    (before after : State) (step : StatementStep writes before after) :
    before.disk.SameDuties after.disk := by
  cases step with
  | insert date ready =>
      exact ⟨fun _ => hasRow_insert date, fun _ => isPending_insert _ _ _⟩
  | upsert date count ready =>
      exact ⟨fun _ => hasRow_upsert date count,
        fun _ => isPending_upsert _ _ _ _⟩
  | called kind succeeded => exact .refl _
  | write file update written => exact .of_metaRows rfl

theorem sameDuties_totalStep
    (before after : State) (step : TotalStep before after) :
    before.disk.SameDuties after.disk := by
  cases step <;> exact .of_metaRows rfl

theorem sameDuties_dayStep
    (before after : State) (step : DayStep before after) :
    before.disk.SameDuties after.disk := by
  cases step with
  | folder step =>
      cases step with
      | mkdir dir parent new => exact .of_metaRows (metaRows_mkdir _ _)
      | _ => exact .refl _
  | segment step =>
      cases step with
      | db step =>
          cases step with
          | statement step => exact sameDuties_statementStep _ _ step
          | createMeta => exact .of_metaRows rfl
          | stamp => exact .of_metaRows rfl
          | createLogs date => exact .of_metaRows (metaRows_openEventLogs _ _)
          | _ => exact .refl _
      | _ => exact .refl _
  | flush step =>
      cases step with
      | hls step => exact sameDuties_hlsStep _ _ step
      | _ => exact .refl _
  | total step => exact sameDuties_totalStep _ _ step
  | _ => exact .refl _

theorem sameDuties_frameStep
    (before after : State) (step : FrameStep before after) :
    before.disk.SameDuties after.disk := by
  cases step with
  | hls step => exact sameDuties_hlsStep _ _ step
  | _ => exact .refl _

theorem sameDuties_progressStep
    (before after : State) (step : ProgressStep before after) :
    before.disk.SameDuties after.disk := by
  cases step with
  | marks step =>
      cases step with
      | statement step => exact sameDuties_statementStep _ _ step
      | _ => exact .refl _
  | total step => exact sameDuties_totalStep _ _ step
  | _ => exact .refl _

/-! ## The invariant -/

/-- Every moment shows lawful removals. -/
def Lawful (config : Config) : List Moment → Prop
  | [] => True
  | moment :: older => RemovesLawfully config moment older ∧ Lawful config older

/-- Removals have been lawful, and what the next one rests on is there. -/
structure Justified (config : Config) (state : State) : Prop where
  lawful : Lawful config state.trace
  caused : ∀ date, state.disk.isPending date = true →
    Caused config date state.trace
  under : ∀ date, underRemoval state.trace = some date →
    state.disk.isPending date = true
  rows : ∀ date last, state.trace.head? = some last →
    last.disk.hasRow date → state.disk.hasRow date

variable {config : Config}

/-- A moment that begins no removal and loses no row. -/
theorem Justified.lawful_cons
    {state : State} (justified : state.Justified config)
    {moment : Moment}
    (begins : ∀ date, moment.event ≠ .removing date)
    (same : state.disk.SameDuties moment.disk) :
    Lawful config (moment :: state.trace) := by
  refine ⟨⟨?_, ?_, ?_⟩, justified.lawful⟩
  · exact fun date isRemoving => absurd isRemoving (begins date)
  · rintro date (isRemoving | under)
    · exact absurd isRemoving (begins date)
    · rw [same.pending]
      exact justified.under date under
  · exact fun date last found listed =>
      .inl (same.rows date (justified.rows date last found listed))

/-- A moment at which a pending day is still pending. -/
theorem Justified.caused_cons
    {state : State} (justified : state.Justified config)
    {disk : Disk} (same : state.disk.SameDuties disk)
    {event : Event} {ws : WriterState}
    {date : CString} (pending : disk.isPending date = true) :
    Caused config date (⟨event, ws, disk⟩ :: state.trace) := by
  refine Caused.since (hasRow_of_isPending pending) ?_
  rw [same.pending] at pending
  exact justified.caused date pending

/-- Recording events keep the invariant, however they change the card, when
they leave the duties as they are. -/
theorem Justified.record
    {before after : State} (justified : before.Justified config)
    (adds : Adds Event.ofRecording before after)
    (same : before.disk.SameDuties after.disk) :
    after.Justified config := by
  rcases adds with quiet | ⟨event, recording, grown⟩
  · refine ⟨?_, ?_, ?_, ?_⟩
    · rw [quiet]
      exact justified.lawful
    · intro date pending
      rw [same.pending] at pending
      rw [quiet]
      exact justified.caused date pending
    · intro date under
      rw [quiet] at under
      rw [same.pending]
      exact justified.under date under
    · intro date last found listed
      rw [quiet] at found
      exact same.rows date (justified.rows date last found listed)
  · have begins : ∀ date, event ≠ .removing date := by
      rintro date rfl
      exact absurd recording Bool.false_ne_true
    refine ⟨?_, ?_, ?_, ?_⟩
    · rw [grown]
      exact justified.lawful_cons begins same
    · intro date pending
      rw [grown]
      exact justified.caused_cons same pending
    · intro date under
      rw [grown, underRemoval_cons _ recording] at under
      rw [same.pending]
      exact justified.under date under
    · intro date last found listed
      rw [grown, List.head?_cons, Option.some_inj] at found
      subst found
      exact listed

/-- Changes of the card that concern no row keep the invariant. -/
theorem Justified.disk
    {before after : State} (justified : before.Justified config)
    (quiet : after.trace = before.trace)
    (same : after.disk.metaRows = before.disk.metaRows) :
    after.Justified config :=
  justified.record (.inl quiet) (.of_metaRows same)

theorem Justified.removalStep
    {before after : State} (step : RemovalStep before after)
    (justified : before.Justified config) : after.Justified config := by
  cases step with
  | called kind succeeded => exact justified.record (.log rfl) (.refl _)
  | removing date pending =>
      have isPending := isPending_of_firstPending pending
      refine ⟨⟨⟨?_, ?_, ?_⟩, justified.lawful⟩, ?_, ?_, ?_⟩
      · rintro _ ⟨⟩
        exact justified.caused date isPending
      · rintro other (⟨⟨⟩⟩ | under)
        · exact isPending
        · exact justified.under other under
      · exact fun other last found listed =>
          .inl (justified.rows other last found listed)
      · exact fun other => justified.caused_cons (.refl _)
      · rintro _ ⟨⟩
        exact isPending
      · rintro other _ ⟨⟩ listed
        exact listed
  | removePart date removal under =>
      exact justified.disk rfl (metaRows_removePart _ _ _)
  | removeDay date under => exact justified.disk rfl rfl
  | removed date result under gone =>
      refine ⟨justified.lawful_cons (fun _ => nofun) (.refl _), ?_, nofun, ?_⟩
      · exact fun other => justified.caused_cons (.refl _)
      · rintro other _ ⟨⟩ listed
        exact listed
  | delete date idle gone =>
      have pendingBefore : ∀ other,
          (before.disk.updateMeta (MetaRow.delete date)).isPending other =
            true → before.disk.isPending other = true := by
        intro other pending
        by_contra active
        rw [isPending_delete _ _ _ (eq_false_of_ne_true active)] at pending
        exact absurd pending Bool.false_ne_true
      refine ⟨⟨⟨nofun, ?_, ?_⟩, justified.lawful⟩, ?_, ?_, ?_⟩
      · rintro other (⟨⟨⟩⟩ | under)
        exact absurd (idle.symm.trans under) nofun
      · intro other last found listed
        have before := justified.rows other last found listed
        by_cases same : other = date
        · subst same
          exact .inr ⟨rfl, gone⟩
        · exact .inl (hasRow_delete same before)
      · intro other pending
        exact .since (hasRow_of_isPending pending)
          (justified.caused other (pendingBefore other pending))
      · intro other under
        exact absurd (idle.symm.trans under) nofun
      · rintro other _ ⟨⟩ listed
        exact listed

theorem Justified.cleanupStep
    {before after : State} (step : CleanupStep config before after)
    (justified : before.Justified config) : after.Justified config := by
  cases step with
  | removal step => exact justified.removalStep step
  | notDue early => exact justified.record (.log rfl) (.refl _)
  | reset => exact justified.record (.inr ⟨.cleaning, rfl, rfl⟩) (.refl _)
  | scheduling date freeMb low oldest =>
      refine ⟨justified.lawful_cons (fun _ => nofun) (.refl _), ?_,
        justified.under, ?_⟩
      · exact fun other => justified.caused_cons (.refl _)
      · rintro other _ ⟨⟩ listed
        exact listed
  | schedule date announced =>
      obtain ⟨freeMb, older, trace, low, candidate⟩ := announced
      have oldest := oldestActive_of_oldestCandidate candidate
      obtain ⟨row, inTable, isDate, _⟩ := oldest.active
      refine ⟨justified.lawful, ?_, ?_, ?_⟩
      · intro other pending
        by_cases same : date = other
        · subst same
          change Caused config date before.trace
          rw [trace]
          exact .since ⟨row, inTable, isDate⟩
            (.scheduled freeMb rfl low oldest)
        · have pendingBefore : before.disk.isPending other = true := by
            rw [← isPending_schedule before.disk same]
            exact pending
          exact justified.caused other pendingBefore
      · exact fun other under =>
          isPending_schedule_self date (justified.under other under)
      · exact fun other last found listed =>
          hasRow_schedule date (justified.rows other last found listed)

theorem Justified.restart
    {state : State} (justified : state.Justified config) :
    state.restart.Justified config := by
  refine ⟨justified.lawful_cons (fun _ => nofun) (.refl _), ?_, nofun, ?_⟩
  · exact fun date => justified.caused_cons (.refl _)
  · rintro date _ ⟨⟩ listed
    exact listed

theorem Lawful.at
    {trace newer older : List Moment} {moment : Moment}
    (lawful : Lawful config trace)
    (split : trace = newer ++ moment :: older) :
    RemovesLawfully config moment older := by
  subst split
  induction newer with
  | nil => exact lawful.1
  | cons _ newer inductionHypothesis => exact inductionHypothesis lawful.2

/-- No writer has run yet, and no day on the card waits to be removed. -/
structure Unscheduled (state : State) : Prop where
  unused : state.Unused
  active : ∀ date, state.disk.isPending date = false

theorem Unscheduled.justified
    {state : State} (unscheduled : state.Unscheduled) :
    state.Justified config := by
  have blank : state.trace = [] := unscheduled.unused
  refine ⟨?_, ?_, ?_, ?_⟩
  · rw [blank]
    trivial
  · intro date pending
    rw [unscheduled.active] at pending
    exact absurd pending Bool.false_ne_true
  · intro date under
    rw [blank] at under
    exact nomatch under
  · intro date last found
    rw [blank] at found
    exact nomatch found

end State

/-- In every history each removal has its cause, the day is pending from the
call of `remove_path_tree` to its return or the loss of power, and a row that
is gone belonged to a day whose directory was gone before. -/
theorem writer_removes_with_cause
    (config : Config) {phase : Daemon.Phase} {state : State}
    (reached : (writer config).Reach State.Unscheduled phase state) :
    (∀ newer moment older, state.trace = newer ++ moment :: older →
      RemovesLawfully config moment older) ∧
      ∀ date, underRemoval state.trace = some date →
        state.disk.isPending date = true := by
  have justified : state.Justified config := by
    apply writer_keeps config _ _ _ _ _ _ reached
    · exact fun _ unscheduled => unscheduled.justified
    · exact fun _ => State.Justified.restart
    · exact fun before after step _ justified =>
        justified.record (State.records_dayStep before after step)
          (State.sameDuties_dayStep before after step)
    · exact fun before after step _ justified =>
        justified.record (State.records_frameStep before after step)
          (State.sameDuties_frameStep before after step)
    · exact fun before after step _ justified =>
        justified.record (State.records_progressStep before after step)
          (State.sameDuties_progressStep before after step)
    · exact fun _ _ => State.Justified.cleanupStep
  exact ⟨fun _ _ _ split => justified.lawful.at split, justified.under⟩

/-- A day recorded before is given up for the next one on a full card. -/
theorem writer_removes_with_cause_next_day :
    let config : Config := { cleanupEveryTs := 1 }
    let keyframes : List FqFrame :=
      [⟨some ⟨0, [1]⟩, 1, true, 0⟩, ⟨some ⟨1, [2]⟩, 1, true, 40000⟩]
    let firstDay : Choice := {}
    let secondDay : Choice := { tm := { mday := 2, yday := 1 } }
    let state₁ := (((writer config).life []).run (State.restart {})
      (List.replicate 30 firstDay)).state
    let state₂ := (((writer config).life keyframes).run state₁.restart
      (List.replicate 60 secondDay)).state
    (∃ moment ∈ state₂.trace, moment.event = .removing firstDay.tm.date) ∧
      (∃ moment ∈ state₂.trace, moment.event = .rowDeleted firstDay.tm.date) ∧
      ∀ newer moment older, state₂.trace = newer ++ moment :: older →
        RemovesLawfully config moment older := by
  intro config keyframes firstDay secondDay state₁ state₂
  have unscheduled : ({} : State).Unscheduled := ⟨rfl, fun _ => rfl⟩
  have reached₁ : (writer config).Reach State.Unscheduled .off state₁ :=
    @Daemon.Reach.life _ _ _ (writer config) State.Unscheduled {}
      (.initial unscheduled) _ _
  have reached₂ : (writer config).Reach State.Unscheduled .off state₂ :=
    Daemon.Reach.life reached₁ _ _
  exact ⟨by decide +kernel, by decide +kernel,
    (writer_removes_with_cause config reached₂).1⟩

end MotionSense
