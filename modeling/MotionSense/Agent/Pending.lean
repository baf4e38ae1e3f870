import MotionSense.Agent.Recordings
import MotionSense.Storage.Writer

/-!
# Days pending deletion and the agent

The writer marks a day pending before it removes its files, so that the agent
stops offering it.  No query of the agent looks at the mark: the calendar lists
pending days with the others, and the request for a pending day is answered from
its `EventLogs.db` as long as that is there.
-/

namespace MotionSense

namespace Agent

/-! ## What is promised -/

/-- A calendar lists exactly the active days, newest first. -/
structure Offers (rows : List MetaRow) (days : List DayMetadata) : Prop where
  active : days.Perm
    ((rows.filter fun row => row.state = .active).map DayMetadata.scan)
  newestFirst : days.Pairwise DayMetadata.newestFirst

instance (rows : List MetaRow) (days : List DayMetadata) :
    Decidable (Offers rows days) :=
  decidable_of_iff
    (days.Perm
      ((rows.filter fun row => row.state = .active).map DayMetadata.scan) ∧
      days.Pairwise DayMetadata.newestFirst)
    ⟨fun both => ⟨both.1, both.2⟩, fun both => ⟨both.1, both.2⟩⟩

/-- No row is in state `VM_STATE_PENDING`. -/
def NonePending (rows : List MetaRow) : Prop :=
  ∀ row ∈ rows, row.state = .active

/-- The day was pending at every look of a request. -/
def PendingThroughout (date : CString) (found : List Glance) : Prop :=
  ∀ glance ∈ found, glance.disk.isPending date = true

/-- The answer for a day that was pending throughout lists no segments. -/
def Hides (date : CString) (found : List Glance)
    (response : DayRecordingResponse) : Prop :=
  PendingThroughout date found → response.segments = []

instance (date : CString) (found : List Glance)
    (response : DayRecordingResponse) :
    Decidable (Hides date found response) :=
  inferInstanceAs (Decidable
    ((∀ glance ∈ found, glance.disk.isPending date = true) →
      response.segments = []))

/-- The files of the day were gone when the request looked for them: its
`EventLogs.db` at the first look, or the rows of `VideoSegments` at the
second. -/
def DayGone (date : CString) (found : List Glance) : Prop :=
  (∃ stat, found[0]? = some stat ∧
    (stat.ok = false ∨ stat.disk.eventLogs date = none)) ∨
  ∃ query, found[1]? = some query ∧
    dayTable query.disk date EventDb.videoSegments = some []

/-! ## The calendar -/

instance : Std.Total DayMetadata.newestFirst :=
  ⟨fun first second => le_total second.date first.date⟩

instance : IsTrans DayMetadata DayMetadata.newestFirst :=
  ⟨fun _ _ _ first second => le_trans second first⟩

/-- Sorting all rows gives the active ones exactly when there are no others. -/
theorem offers_sorted_iff (rows : List MetaRow) :
    Offers rows ((rows.map DayMetadata.scan).insertionSort
      DayMetadata.newestFirst) ↔ NonePending rows := by
  constructor
  · intro offers
    have lengths := offers.active.length_eq
    rw [List.length_insertionSort, List.length_map, List.length_map] at lengths
    have all := List.filter_eq_self.mp
      (List.Sublist.eq_of_length List.filter_sublist lengths.symm)
    exact fun row member => by simpa using all row member
  · intro active
    have all : (rows.filter fun row => row.state = .active) = rows :=
      List.filter_eq_self.mpr fun row member => by simpa using active row member
    refine ⟨?_, ?_⟩
    · rw [all]
      exact List.perm_insertionSort _ _
    · exact List.pairwise_insertionSort DayMetadata.newestFirst _

/-- The rows of `VideoMetadata` that the last look found. -/
def AgentState.lastRows (agent : AgentState) : List MetaRow :=
  (agent.seen.head?.map fun glance => glance.disk.metaRows).getD []

open Program

/-- What the calendar answers goes back to its last look. -/
theorem listDays_offers (agent : AgentState) :
    listDays.wp
      (fun answer after => ∀ days, answer = some days →
        (Offers after.lastRows days ↔ NonePending after.lastRows))
      (fun _ => True) agent := by
  refine wp_then (wp_true conn agent) fun connected reached _ => ?_
  refine wp_split (fun _ => ?_) fun _ => ?_
  · simp only [absent, wp_bind, wp_look, wp_pure, true_and]
    intro stat
    refine wp_split (fun missing days answered => ?_) fun _ days impossible => ?_
    · obtain rfl := Option.some.inj answered
      rw [Bool.and_eq_true, Option.isNone_iff_eq_none] at missing
      have none : (AgentState.lastRows
          { reached with seen := stat :: reached.seen }) = [] := by
        simp [AgentState.lastRows, Disk.metaRows, missing.2]
      rw [none]
      exact offers_sorted_iff []
    · cases impossible
  · simp only [wp_bind, wp_look, true_and]
    intro query
    refine wp_split (fun _ days impossible => by cases impossible) fun _ => ?_
    cases found : query.disk.videoMetadata with
    | none => exact fun days impossible => by cases impossible
    | some rows =>
        intro days answered
        obtain rfl := Option.some.inj answered
        have looked : (AgentState.lastRows
            { reached with seen := query :: reached.seen }) = rows := by
          simp [AgentState.lastRows, Disk.metaRows, found]
        rw [looked]
        exact offers_sorted_iff rows

theorem recordingsCalendarHandler_offers (agent : AgentState) :
    recordingsCalendarHandler.wp
      (fun answer after => ∀ days, answer = .okay days →
        (Offers after.lastRows days ↔ NonePending after.lastRows))
      (fun _ => True) agent := by
  refine wp_then (listDays_offers agent) fun listed after offers => ?_
  cases listed with
  | none => exact fun days failed => by cases failed
  | some listed =>
      intro days answered
      obtain rfl := Response.okay.inj answered
      exact offers listed rfl

/-! ## The request for a day -/

/-- What was found before is found first. -/
def AgentState.LooksOn (before after : AgentState) : Prop :=
  before.seen <:+ after.seen

/-- Looking adds to what was found. -/
theorem look_within : look.Within AgentState.LooksOn :=
  Within.bind Within.answer fun glance =>
    Within.bind (Within.modify fun agent => List.suffix_cons glance agent.seen)
      fun _ => Within.pure _

/-- A program of looks, as a whole. -/
theorem looksOn_of_within {program : Request α}
    (within : program.Within AgentState.LooksOn) (agent : AgentState) :
    program.wp (fun _ => agent.LooksOn) agent.LooksOn agent := by
  have joined : ∀ after, Relation.ReflTransGen AgentState.LooksOn agent after →
      agent.LooksOn after := by
    intro after path
    induction path with
    | refl => exact List.suffix_refl _
    | tail _ last earlier => exact earlier.trans last
  exact wp_mono (within agent) (fun _ => joined) joined

theorem queryDay_within (day : CString) (table : EventDb → Option (List α)) :
    (queryDay day table).Within AgentState.LooksOn := by
  refine Within.bind look_within fun query => ?_
  refine Within.ite (fun _ => Within.pure _) fun _ => ?_
  cases dayTable query.disk day table with
  | none => exact Within.pure _
  | some rows => exact Within.pure _

theorem openDay_within (date : CString) :
    (openDay date).Within AgentState.LooksOn := by
  unfold openDay
  cases eventLogsDbPath date with
  | none => exact Within.pure _
  | some day =>
      refine Within.bind look_within fun stat => ?_
      exact Within.ite (fun _ => Within.pure _) fun _ => Within.pure _

theorem eventsOfDay_within (date : CString) :
    (eventsOfDay date).Within AgentState.LooksOn := by
  refine Within.bind (openDay_within date) fun opened => ?_
  cases opened with
  | error error => exact Within.pure _
  | ok day =>
      exact Within.bind (queryDay_within _ _) fun rows => Within.pure _

theorem playlistDuration_within (date segment : CString) :
    (playlistDuration date segment).Within AgentState.LooksOn := by
  unfold playlistDuration
  cases mediaFilePath date segment indexName with
  | none => exact Within.pure _
  | some path =>
      refine Within.bind look_within fun opened => ?_
      refine Within.ite (fun _ => Within.pure _) fun _ => ?_
      split <;> exact Within.pure _

theorem segmentResponses_within
    (date : CString) (events : List EventDetail) (segments : List Segment) :
    (segmentResponses date events segments).Within AgentState.LooksOn := by
  induction segments with
  | nil => exact Within.pure _
  | cons segment segments inductionHypothesis =>
      have one : (segmentResponse date events segment).Within
          AgentState.LooksOn :=
        Within.bind (playlistDuration_within _ _) fun _ => Within.pure _
      refine Within.bind one fun first => ?_
      exact Within.bind inductionHypothesis fun rest => Within.pure _

/-- Each segment gets its answer. -/
theorem segmentResponses_length
    (date : CString) (events : List EventDetail) (segments : List Segment)
    (agent : AgentState) :
    (segmentResponses date events segments).wp
      (fun responses _ => responses.length = segments.length)
      (fun _ => True) agent := by
  induction segments generalizing agent with
  | nil => rfl
  | cons segment segments inductionHypothesis =>
      refine wp_then (wp_true _ agent) fun first reached _ => ?_
      refine wp_then (inductionHypothesis reached) fun rest after same => ?_
      exact congrArg Nat.succ same

/-- What was found between two states, oldest first. -/
def AgentState.found (before after : AgentState) : List Glance :=
  after.seen.reverse.drop before.seen.length

/-- The first things found. -/
theorem AgentState.found_of_suffix
    {before after : AgentState} {first : List Glance}
    (looked : first.reverse ++ before.seen <:+ after.seen) :
    ∃ more, before.found after = first ++ more := by
  obtain ⟨later, seen⟩ := looked
  refine ⟨later.reverse, ?_⟩
  rw [AgentState.found, ← seen, List.reverse_append, List.reverse_append,
    List.reverse_reverse, List.append_assoc, ← List.length_reverse,
    List.drop_left]

/-- A look that finds no database. -/
theorem dayGone_of_missing
    {date : CString} {before after : AgentState} {stat : Glance}
    (looked : stat :: before.seen <:+ after.seen)
    (missing : stat.ok = false ∨ stat.disk.eventLogs date = none) :
    DayGone date (before.found after) := by
  obtain ⟨more, found⟩ :=
    @AgentState.found_of_suffix before after [stat] looked
  exact .inl ⟨stat, by rw [found]; rfl, missing⟩

/-- A look that finds the database, and one that finds its rows. -/
theorem dayGone_iff_of_rows
    {date : CString} {before after : AgentState} {stat query : Glance}
    {rows : List SegmentRow}
    (looked : query :: stat :: before.seen <:+ after.seen)
    (present : ¬ (stat.ok = false ∨ stat.disk.eventLogs date = none))
    (read : dayTable query.disk date EventDb.videoSegments = some rows) :
    DayGone date (before.found after) ↔ rows = [] := by
  obtain ⟨more, found⟩ :=
    @AgentState.found_of_suffix before after [stat, query] looked
  rw [DayGone, found]
  simp [present, read]

theorem Segment.scan_eq_nil_iff (id : Int) (rows : List SegmentRow) :
    Segment.scan id rows = [] ↔ rows = [] := by
  cases rows <;> simp [Segment.scan]

/-- `SegmentsForDay` finds no segments exactly when the files of the day were
gone. -/
theorem segmentsForDay_dayGone (date : CString) (agent : AgentState) :
    (segmentsForDay date).wp
      (fun segments after => ∀ listed, noRecordingsAsEmpty segments = .ok listed →
        ∀ later : AgentState, after.LooksOn later →
          (listed = [] ↔ DayGone date (agent.found later)))
      (fun _ => True) agent := by
  rw [segmentsForDay, openDay, eventLogsDbPath]
  by_cases valid : validDate date = true
  · simp only [if_pos valid, wp_bind, wp_look, true_and]
    intro stat
    refine wp_split (fun missing => ?_) fun found => ?_
    · simp only [wp_pure, noRecordingsAsEmpty, Except.ok.injEq]
      rintro listed rfl later looked
      refine iff_of_true rfl (dayGone_of_missing looked ?_)
      simpa using missing
    · simp only [wp_pure, queryDay, wp_bind, wp_look, true_and]
      intro query
      refine wp_split (fun _ listed failed => by cases failed) fun _ => ?_
      cases read : dayTable query.disk date EventDb.videoSegments with
      | none => exact fun listed failed => by cases failed
      | some rows =>
          intro listed answered later looked
          obtain rfl := Except.ok.inj answered
          rw [dayGone_iff_of_rows looked (by simpa using found) read,
            ← List.length_eq_zero_iff, List.length_insertionSort,
            List.length_eq_zero_iff, Segment.scan_eq_nil_iff]
  · simp only [if_neg valid]
    exact fun listed failed => by cases failed

/-- The answer for a day has no segments exactly when the files of the day were
gone. -/
theorem recordingDayHandler_dayGone (date : CString) (agent : AgentState) :
    (recordingDayHandler date).wp
      (fun answer after => ∀ response, answer = .okay response →
        (response.segments = [] ↔ DayGone date (agent.found after)))
      (fun _ => True) agent := by
  refine wp_split (fun _ response failed => by cases failed) fun _ => ?_
  refine wp_then (segmentsForDay_dayGone date agent)
    fun segments queried gone => ?_
  cases recorded : noRecordingsAsEmpty segments with
  | error error => exact fun response failed => by cases failed
  | ok listed =>
      have gone := gone listed recorded
      refine wp_then (wp_mono (looksOn_of_within (eventsOfDay_within date) queried)
        (fun _ _ looked => looked) fun _ _ => trivial)
        fun events read looked => ?_
      cases noRecordingsAsEmpty events with
      | error error => exact fun response failed => by cases failed
      | ok events =>
          have responses := wp_and
            (segmentResponses_length date events listed read)
            (looksOn_of_within (segmentResponses_within date events listed) read)
          refine wp_then (wp_mono responses (fun _ _ both => both)
            fun _ _ => trivial) fun responses after both => ?_
          intro response answered
          obtain rfl := Response.okay.inj answered
          rw [← gone after (looked.trans both.2), ← List.length_eq_zero_iff,
            both.1, List.length_eq_zero_iff]

end Agent

open Agent

/-- Whatever the card holds at each look of a request: the calendar offers the
active days exactly when no row is pending at its last look, and the answer for a
pending day hides it exactly when the files of the day were gone. -/
theorem agent_hides_pending_days_iff
    (agent : AgentState) (script : List Glance) :
    (∀ days after rest,
      recordingsCalendarHandler.run agent script =
        .done (.okay days) after rest →
      (Offers after.lastRows days ↔ NonePending after.lastRows)) ∧
    ∀ date response after rest,
      (recordingDayHandler date).run agent script =
        .done (.okay response) after rest →
      (Hides date (agent.found after) response ↔
        (PendingThroughout date (agent.found after) →
          DayGone date (agent.found after))) := by
  refine ⟨fun days after rest ran => ?_, fun date response after rest ran => ?_⟩
  · have met := (Program.wp_iff_run _ _ _ _).mp
      (recordingsCalendarHandler_offers agent) script
    rw [ran] at met
    exact met days rfl
  · have met := (Program.wp_iff_run _ _ _ _).mp
      (recordingDayHandler_dayGone date agent) script
    rw [ran] at met
    exact imp_congr_right fun _ => met response rfl

/-- A day is scheduled for deletion, and before its files are removed the agent
is asked for the calendar and for that day. -/
theorem agent_offers_pending_day :
    let config : Config := { cleanupEveryTs := 1 }
    let keyframes : List FqFrame :=
      [⟨some ⟨0, [1]⟩, 1, true, 0⟩, ⟨some ⟨1, [2]⟩, 1, true, 40000⟩]
    let firstDay : Choice := {}
    let secondDay : Choice := { tm := { mday := 2, yday := 1 } }
    let state₁ := (((writer config).life []).run (State.restart {})
      (List.replicate 30 firstDay)).state
    let state₂ := (((writer config).life keyframes).run state₁.restart
      (List.replicate 38 secondDay)).state
    let looks : List Glance := List.replicate 5 ⟨state₂.disk, true⟩
    (writer config).Reach State.Unused .off state₂ ∧
      (recordingsCalendarHandler.run {} looks).Meets
        (fun answer after => answer.Shows fun days =>
          ¬ Offers after.lastRows days)
        (fun _ => False) ∧
      ((recordingDayHandler firstDay.tm.date).run {} looks).Meets
        (fun answer after => answer.Shows fun response =>
          ¬ Hides firstDay.tm.date (AgentState.found {} after) response)
        (fun _ => False) := by
  intro config keyframes firstDay secondDay state₁ state₂ looks
  have reached₁ : (writer config).Reach State.Unused .off state₁ :=
    @Daemon.Reach.life _ _ _ (writer config) State.Unused {} (.initial rfl) _ _
  exact ⟨Daemon.Reach.life reached₁ _ _, by decide +kernel,
    by decide +kernel⟩

/-- A card with one active day and one pending day whose files are gone. -/
theorem agent_hides_pending_days_iff_two_days :
    let active : MetaRow := { date := "2024-01-02".toList, motionCount := 0 }
    let pending : MetaRow :=
      { date := "2024-01-01".toList, motionCount := 0, state := .pending }
    let looks : List Glance := List.replicate 2
      ⟨{ videoMetadata := some [active, pending] }, true⟩
    let listed := [DayMetadata.scan active, DayMetadata.scan pending]
    (Offers [active, pending] listed ↔ NonePending [active, pending]) ∧
      (Hides pending.date looks ⟨pending.date, []⟩ ↔
        (PendingThroughout pending.date looks →
          DayGone pending.date looks)) := by
  intro active pending looks listed
  exact ⟨(agent_hides_pending_days_iff {} looks).1 listed ⟨true, looks⟩ [] rfl,
    (agent_hides_pending_days_iff {} looks).2 pending.date ⟨pending.date, []⟩
      ⟨false, looks⟩ [] rfl⟩

end MotionSense
