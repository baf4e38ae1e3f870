import MotionSense.Agent.Recordings
import MotionSense.Storage.StartTimes

/-!
# The order in which a day's segments are listed

`SegmentsForDay` sorts the segments of a day by their start times.  They come in
the order in which `event_db_add_segment` inserted them unless a start time is
earlier than that of a segment opened before.
-/

namespace MotionSense

namespace Agent

/-! ## Segments and the readings behind them -/

theorem Segment.map_startTime_scan (id : Int) (rows : List SegmentRow) :
    (Segment.scan id rows).map Segment.startTime =
      rows.map SegmentRow.startTime := by
  induction rows generalizing id with
  | nil => rfl
  | cons row rows inductionHypothesis =>
      exact congrArg (row.startTime :: ·) (inductionHypothesis (id + 1))

/-- The segments that the writer has inserted into a day's database, with the
readings behind their start times, in the order of insertion. -/
def openedSegments (state : State) (date : CString) : List (Segment × Stamp) :=
  match state.disk.eventLogs date with
  | none => []
  | some file =>
      let rows := (state.disk.eventDb file).videoSegments.getD []
      let readings := stamps file state.trace
      ((Segment.scan 1 rows).drop (rows.length - readings.length)).zip readings

section Opened

variable {state : State} {date : CString} {file : Nat} {rows : List SegmentRow}
  (logs : state.disk.eventLogs date = some file)
  (present : (state.disk.eventDb file).videoSegments = some rows)
  {old : Nat → List CString} (has : state.HasStartTimes old)

include logs present has

/-- The segments that were opened are the last ones of the database, and have the
start times made of their readings. -/
theorem map_openedSegments :
    (openedSegments state date).map Prod.fst <:+ Segment.scan 1 rows ∧
      (openedSegments state date).map (fun opened => opened.1.startTime) =
        (openedSegments state date).map fun opened => opened.2.text := by
  have times : rows.map SegmentRow.startTime =
      old file ++ (stamps file state.trace).map Stamp.text := by
    simpa [EventDb.startTimes, present] using has file
  have lengths : rows.length - (stamps file state.trace).length =
      (old file).length := by
    have counted := congrArg List.length times
    rw [List.length_map, List.length_append, List.length_map] at counted
    omega
  have last : ((Segment.scan 1 rows).drop (old file).length).map
      Segment.startTime = (stamps file state.trace).map Stamp.text := by
    rw [List.map_drop, Segment.map_startTime_scan, times, List.drop_left]
  have same : ((Segment.scan 1 rows).drop (old file).length).length =
      (stamps file state.trace).length := by
    simpa using congrArg List.length last
  rw [openedSegments, logs]
  simp only [present, Option.getD_some, lengths]
  constructor
  · rw [List.map_fst_zip same.le]
    exact List.drop_suffix _ _
  · change List.map (Segment.startTime ∘ Prod.fst) _ =
      List.map (Stamp.text ∘ Prod.snd) _
    rw [← List.map_map, ← List.map_map, List.map_fst_zip same.le,
      List.map_snd_zip same.ge, last]

/-- A segment that was opened has the start time made of its readings. -/
theorem startTime_of_mem_openedSegments
    {opened : Segment × Stamp} (member : opened ∈ openedSegments state date) :
    opened.1.startTime = opened.2.text :=
  List.map_inj_left.mp (map_openedSegments logs present has).2 opened member

/-- Of two segments that were opened one after the other, the first is listed
first exactly when its start time is no later. -/
theorem sublist_insertionSort_iff
    {first second : Segment × Stamp}
    (opened : [first, second].Sublist (openedSegments state date)) :
    [first.1, second.1].Sublist ((Segment.scan 1 rows).insertionSort
        fun first second => first.startTime ≤ second.startTime) ↔
      first.1.startTime ≤ second.1.startTime := by
  have scanned : [first.1, second.1].Sublist (Segment.scan 1 rows) :=
    (opened.map Prod.fst).trans (map_openedSegments logs present has).1.sublist
  let _ : Std.Total fun first second : Segment =>
      first.startTime ≤ second.startTime :=
    ⟨fun first second => le_total first.startTime second.startTime⟩
  let _ : IsTrans Segment fun first second =>
      first.startTime ≤ second.startTime :=
    ⟨fun _ _ _ earlier later => le_trans earlier later⟩
  constructor
  · intro listed
    have sorted := List.pairwise_insertionSort
      (fun first second : Segment => first.startTime ≤ second.startTime)
      (Segment.scan 1 rows)
    have inOrder := List.pairwise_pair.mp (List.Pairwise.sublist listed sorted)
    exact inOrder
  · exact fun inOrder => List.pair_sublist_insertionSort inOrder scanned

end Opened

/-! ## The query -/

open Program

/-- `SegmentsForDay` sorts the rows that its second look finds. -/
theorem segmentsForDay_sorts
    {date : CString} {agent : AgentState} {stat query : Glance}
    {rest : List Glance} {listed : List Segment}
    (answered : ((segmentsForDay date).run agent
      (stat :: query :: rest)).value = some (.ok listed)) :
    ∃ file rows, query.disk.eventLogs date = some file ∧
      (query.disk.eventDb file).videoSegments = some rows ∧
      listed = (Segment.scan 1 rows).insertionSort
        fun first second => first.startTime ≤ second.startTime := by
  rw [segmentsForDay, openDay, eventLogsDbPath] at answered
  by_cases valid : validDate date = true
  · simp only [if_pos valid, look, Bind.bind, Program.bind, answer,
      Program.modify, Program.run, Pure.pure, queryDay] at answered
    split at answered
    · cases answered
    simp only [Program.bind, Program.run] at answered
    split at answered
    · cases answered
    cases read : dayTable query.disk date EventDb.videoSegments with
    | none =>
        rw [read] at answered
        cases answered
    | some rows =>
        rw [read] at answered
        obtain rfl := Except.ok.inj (Option.some.inj answered)
        obtain ⟨file, logs, present⟩ := Option.bind_eq_some_iff.mp read
        exact ⟨file, rows, logs, present, rfl⟩
  · rw [if_neg valid] at answered
    cases answered

end Agent

open Agent

/-- Of two segments of one day, opened one after the other under a clock that does
not step back, the first has no later start time and is listed first exactly when
the second does not overtake it. -/
theorem segments_listed_in_order_iff
    (config : Config) {phase : Daemon.Phase} {state : State}
    (reached : (writer config).Reach State.Unused phase state)
    {date : CString} {agent : AgentState} {stat query : Glance}
    {rest : List Glance} {listed : List Segment}
    (answered : ((segmentsForDay date).run agent
      (stat :: query :: rest)).value = some (.ok listed))
    (found : query.disk = state.disk)
    {first second : Segment × Stamp}
    (opened : [first, second].Sublist (openedSegments state date))
    (valid : first.2.Valid) (validToo : second.2.Valid)
    (steady : Steady first.2 second.2) :
    first.1.startTime ≤ second.1.startTime ∧
        [first.1, second.1].Sublist listed ↔
      ¬Overtakes second.2 first.2 := by
  obtain ⟨file, rows, logs, present, rfl⟩ := segmentsForDay_sorts answered
  rw [found] at logs present
  obtain ⟨old, has⟩ := writer_startTimes config reached
  have startTime : ∀ opened ∈ openedSegments state date,
      opened.1.startTime = opened.2.text :=
    fun _ => startTime_of_mem_openedSegments logs present has
  rw [sublist_insertionSort_iff logs present has opened, and_self_iff,
    startTime first (opened.subset List.mem_cons_self),
    startTime second (opened.subset
      (List.mem_cons_of_mem _ List.mem_cons_self))]
  exact Stamp.text_le_iff valid validToo steady

/-- The daemon is started twice within a second.  The second time, the next second
begins between the two readings of the clock, and the later segment is listed
first. -/
theorem later_segment_listed_first :
    let early : Choice := { usec := 300000 }
    let late : Choice := { usec := 999999 }
    let next : Choice := { tm := { sec := 1 } }
    let stopped := (((writer {}).life []).run (State.restart {})
      (List.replicate 40 early)).state
    let state := ((writer {}).boot.run stopped.restart
      (List.replicate 11 late ++ List.replicate 20 next)).state
    (writer {}).Reach State.Unused .ready state ∧
      ∃ first second : Segment × Stamp,
        openedSegments state early.tm.date = [first, second] ∧
          first.2.Valid ∧ second.2.Valid ∧ Steady first.2 second.2 ∧
          second.1.startTime < first.1.startTime ∧
          ((segmentsForDay early.tm.date).run {}
            (List.replicate 2 ⟨state.disk, true⟩)).value =
              some (.ok [second.1, first.1]) := by
  intro early late next stopped state
  have restarted : (writer {}).Reach State.Unused .off stopped :=
    @Daemon.Reach.life _ _ _ (writer {}) State.Unused {} (.initial rfl) _ _
  have reached : (writer {}).Reach State.Unused .ready state :=
    Daemon.Reach.booted restarted (by decide +kernel)
  let first : Segment × Stamp :=
    ⟨⟨1, "00000".toList, "00:00:00.300000".toList, 0⟩,
      ⟨early.reading, early.reading⟩⟩
  let second : Segment × Stamp :=
    ⟨⟨2, "00001".toList, "00:00:00.000000".toList, -1⟩,
      ⟨late.reading, next.reading⟩⟩
  refine ⟨reached, first, second, ?_, ?_, ?_, ?_, ?_, ?_⟩
  · decide +kernel
  · constructor <;> constructor <;> decide
  · constructor <;> constructor <;> decide
  · constructor <;> decide
  · decide
  · decide +kernel

/-- Two starts of the daemon on one day, with both readings of each in one
second. -/
theorem segments_listed_in_order_iff_two_starts :
    let early : Choice := { usec := 300000 }
    let late : Choice := { usec := 999999 }
    let stopped := (((writer {}).life []).run (State.restart {})
      (List.replicate 40 early)).state
    let state := ((writer {}).boot.run stopped.restart
      (List.replicate 30 late)).state
    ∃ first second : Segment × Stamp, ∃ listed,
      [first, second].Sublist (openedSegments state early.tm.date) ∧
        ((segmentsForDay early.tm.date).run {}
          [⟨state.disk, true⟩, ⟨state.disk, true⟩]).value =
            some (.ok listed) ∧
        first.1.startTime ≤ second.1.startTime ∧
        [first.1, second.1].Sublist listed := by
  intro early late stopped state
  have restarted : (writer {}).Reach State.Unused .off stopped :=
    @Daemon.Reach.life _ _ _ (writer {}) State.Unused {} (.initial rfl) _ _
  have reached : (writer {}).Reach State.Unused .ready state :=
    Daemon.Reach.booted restarted (by decide +kernel)
  let first : Segment × Stamp :=
    ⟨⟨1, "00000".toList, "00:00:00.300000".toList, 0⟩,
      ⟨early.reading, early.reading⟩⟩
  let second : Segment × Stamp :=
    ⟨⟨2, "00001".toList, "00:00:00.999999".toList, -1⟩,
      ⟨late.reading, late.reading⟩⟩
  have answered : ((segmentsForDay early.tm.date).run {}
      [⟨state.disk, true⟩, ⟨state.disk, true⟩]).value =
        some (.ok [first.1, second.1]) := by
    decide +kernel
  have opened : [first, second].Sublist (openedSegments state early.tm.date) := by
    decide +kernel
  have valid : first.2.Valid := by
    constructor <;> constructor <;> decide
  have validToo : second.2.Valid := by
    constructor <;> constructor <;> decide
  have steady : Steady first.2 second.2 := by
    constructor <;> decide
  -- The card is not computed again.
  clear_value state
  exact ⟨first, second, [first.1, second.1], opened, answered,
    (segments_listed_in_order_iff {} reached answered rfl opened valid validToo
      steady).mpr (by decide)⟩

end MotionSense
