import MotionSense.Agent.Pending
import MotionSense.Storage.Marks

/-!
# Motion marks in the answers of the agent

`recordingDayHandler` reads the segments of a day and its motion marks one after
the other, while the writer goes on.  Every mark that it reports is on a frame
counted from one.  The mark lies within the reported total once the total was
written behind it; the writer does so about once a second, and a reader that
comes earlier reports a mark beyond the total.
-/

namespace MotionSense

namespace Agent

/-! ## Looks at a run -/

/-- A look at the card: what the writer had done by then, and what the look
finds. -/
structure Look where
  record : List Moment
  disk : Disk
  ok : Bool := true

/-- What a look finds. -/
def Look.glance (look : Look) : Glance := ⟨look.disk, look.ok⟩

/-- The look finds the card as the writer leaves it, or as it was at a moment of
the record. -/
def Look.Finds (look : Look) (state : State) : Prop :=
  look.record = state.trace ∧ look.disk = state.disk ∨
    ∃ moment older, moment :: older <:+ state.trace ∧
      look.record = moment :: older ∧ look.disk = moment.disk

/-- What a reader can rely on holds at every look. -/
theorem Look.Finds.counts
    {look : Look} {state : State} (finds : look.Finds state)
    (counted : state.Counted) : look.disk.Counts look.record := by
  rcases finds with ⟨record, disk⟩ | ⟨moment, older, past, record, disk⟩
  · rw [record, disk]
    exact counted.now
  · rw [record, disk]
    exact counted.along moment older past

/-- The segment is the row of a database with the given id. -/
def SegmentResponse.IsRow
    (disk : Disk) (file : Nat) (id : Int) (segment : SegmentResponse) : Prop :=
  ∃ row, (disk.eventDb file).segmentRow id = some row ∧
    segment.segment = row.folder ∧ segment.startTime = row.startTime ∧
    segment.totalFrames = row.totalFrames

/-! ## What the queries find -/

theorem Segment.of_mem_scan
    {first : Int} {rows : List SegmentRow} {segment : Segment}
    (member : segment ∈ Segment.scan first rows) :
    ∃ (place : Nat) (row : SegmentRow), rows[place]? = some row ∧
      segment = ⟨first + place, row.folder, row.startTime, row.totalFrames⟩ := by
  induction rows generalizing first with
  | nil => exact absurd member List.not_mem_nil
  | cons row rows inductionHypothesis =>
      rcases List.mem_cons.mp member with rfl | later
      · exact ⟨0, row, rfl, by simp⟩
      · obtain ⟨place, other, listed, rfl⟩ := inductionHypothesis later
        refine ⟨place + 1, other, listed, ?_⟩
        rw [Nat.cast_succ, add_assoc, add_comm (1 : Int)]

open Program

/-- The segments come from the second look. -/
theorem segmentsForDay_rows (date : CString) (agent : AgentState) :
    (segmentsForDay date).wp
      (fun segments after => ∀ listed,
        noRecordingsAsEmpty segments = .ok listed → ∀ segment ∈ listed,
          ∃ stat query file row, after.seen = query :: stat :: agent.seen ∧
            query.disk.eventLogs date = some file ∧
            (query.disk.eventDb file).segmentRow segment.id = some row ∧
            segment = ⟨segment.id, row.folder, row.startTime,
              row.totalFrames⟩)
      (fun _ => True) agent := by
  rw [segmentsForDay, openDay, eventLogsDbPath]
  by_cases valid : validDate date = true
  · simp only [if_pos valid, wp_bind, wp_look, true_and]
    intro stat
    refine wp_split (fun _ listed none => ?_) fun _ => ?_
    · cases none
      exact fun segment member => absurd member List.not_mem_nil
    simp only [wp_pure, queryDay, wp_bind, wp_look, true_and]
    intro query
    refine wp_split (fun _ listed failed => by cases failed) fun _ => ?_
    cases read : dayTable query.disk date EventDb.videoSegments with
    | none => exact fun listed failed => by cases failed
    | some rows =>
        intro listed answered segment member
        obtain rfl := Except.ok.inj answered
        obtain ⟨file, logs, present⟩ := Option.bind_eq_some_iff.mp read
        obtain ⟨place, row, there, rfl⟩ := Segment.of_mem_scan
          ((List.perm_insertionSort _ _).mem_iff.mp member)
        refine ⟨stat, query, file, row, rfl, logs, ?_, rfl⟩
        have id : ((1 : Int) + place).toNat - 1 = place := by omega
        refine EventDb.segmentRow_eq_some.mpr
          ⟨by change 0 < (1 : Int) + place; omega, rows, present, ?_⟩
        rw [id, there]
  · simp only [if_neg valid]
    exact fun listed failed => by cases failed

/-- The marks come from one look. -/
theorem eventsOfDay_marks (date : CString) (agent : AgentState) :
    (eventsOfDay date).wp
      (fun events after => ∀ listed, noRecordingsAsEmpty events = .ok listed →
        ∀ event ∈ listed, ∃ query older file, after.seen = query :: older ∧
          agent.seen <:+ older ∧
          ⟨event.videoId, event.motionFrame⟩ ∈
            (query.disk.eventDb file).marks)
      (fun _ => True) agent := by
  rw [eventsOfDay, openDay, eventLogsDbPath]
  by_cases valid : validDate date = true
  · simp only [if_pos valid, wp_bind, wp_look, true_and]
    intro stat
    refine wp_split (fun _ listed none => ?_) fun _ => ?_
    · cases none
      exact fun event member => absurd member List.not_mem_nil
    simp only [wp_pure, queryDay, wp_bind, wp_look, true_and]
    intro query
    refine wp_split (fun _ listed failed => by cases failed) fun _ => ?_
    cases read : dayTable query.disk date EventDb.eventDetails with
    | none => exact fun listed failed => by cases failed
    | some rows =>
        intro listed answered event member
        obtain rfl := Except.ok.inj answered
        obtain ⟨file, logs, present⟩ := Option.bind_eq_some_iff.mp read
        obtain ⟨row, there, rfl⟩ := List.mem_map.mp
          ((List.perm_insertionSort _ _).mem_iff.mp member)
        refine ⟨query, stat :: agent.seen, file, rfl, List.suffix_cons _ _, ?_⟩
        rw [EventDb.marks, present]
        exact there
  · simp only [if_neg valid]
    exact fun listed failed => by cases failed

/-- An element of the answer is made of a segment and of its marks. -/
structure SegmentResponse.MadeOf
    (segment : Segment) (events : List EventDetail)
    (response : SegmentResponse) : Prop where
  folder : response.segment = segment.folder
  startTime : response.startTime = segment.startTime
  totalFrames : response.totalFrames = segment.totalFrames
  marked : ∀ frame ∈ response.motionFrames, ⟨segment.id, frame⟩ ∈ events

theorem segmentResponse_madeOf
    (date : CString) (events : List EventDetail) (segment : Segment)
    (agent : AgentState) :
    (segmentResponse date events segment).wp
      (fun response _ => response.MadeOf segment events)
      (fun _ => True) agent := by
  refine wp_then (wp_true _ agent) fun durationMs reached _ => ?_
  refine ⟨rfl, rfl, rfl, fun frame marked => ?_⟩
  obtain ⟨event, its, rfl⟩ := List.mem_map.mp marked
  obtain ⟨there, same⟩ := List.mem_filter.mp its
  rw [← of_decide_eq_true same]
  exact there

/-- Each element of the answer is made of one of the segments. -/
theorem segmentResponses_madeOf
    (date : CString) (events : List EventDetail) (segments : List Segment)
    (agent : AgentState) :
    (segmentResponses date events segments).wp
      (fun responses _ => ∀ response ∈ responses, ∃ segment ∈ segments,
        response.MadeOf segment events)
      (fun _ => True) agent := by
  induction segments generalizing agent with
  | nil => exact fun response member => absurd member List.not_mem_nil
  | cons segment segments inductionHypothesis =>
      refine wp_then (segmentResponse_madeOf date events segment agent)
        fun first reached made => ?_
      refine wp_then (inductionHypothesis reached) fun rest after others => ?_
      intro response member
      rcases List.mem_cons.mp member with rfl | later
      · exact ⟨segment, List.mem_cons_self, made⟩
      · obtain ⟨other, listed, same⟩ := others response later
        exact ⟨other, List.mem_cons_of_mem _ listed, same⟩

/-! ## The answer -/

/-- What was found after a state was found on the way. -/
theorem AgentState.mem_found
    {before after : AgentState} {glance : Glance} {older : List Glance}
    (looked : glance :: older <:+ after.seen)
    (earlier : before.seen <:+ older) : glance ∈ before.found after := by
  obtain ⟨newer, rfl⟩ := earlier
  obtain ⟨more, found⟩ := @AgentState.found_of_suffix before after
    (newer.reverse ++ [glance]) (by simpa using looked)
  rw [found]
  simp

/-- What the answer for a day reports. -/
structure Reports (date : CString) (before after : AgentState)
    (query : Glance) (segment : SegmentResponse) : Prop where
  second : (before.found after)[1]? = some query
  row : ∃ file id, query.disk.eventLogs date = some file ∧
    segment.IsRow query.disk file id ∧
    ∀ frame ∈ segment.motionFrames, ∃ glance ∈ before.found after,
      ∃ other, ⟨id, frame⟩ ∈ (glance.disk.eventDb other).marks

/-- Every segment that is reported is a row of the database that the second look
finds, and its marks are in a database that some look finds. -/
theorem recordingDayHandler_reports (date : CString) (agent : AgentState) :
    (recordingDayHandler date).wp
      (fun answer after => ∀ response, answer = .okay response →
        ∀ segment ∈ response.segments,
          ∃ query, Reports date agent after query segment)
      (fun _ => True) agent := by
  refine wp_split (fun _ response failed => by cases failed) fun _ => ?_
  refine wp_then (segmentsForDay_rows date agent) fun segments queried rows => ?_
  cases recorded : noRecordingsAsEmpty segments with
  | error error => exact fun response failed => by cases failed
  | ok listed =>
      have rows := rows listed recorded
      have read := wp_and (eventsOfDay_marks date queried)
        (looksOn_of_within (eventsOfDay_within date) queried)
      refine wp_then (wp_mono read (fun _ _ both => both) fun _ _ => trivial) ?_
      rintro events read ⟨marks, onward⟩
      cases happened : noRecordingsAsEmpty events with
      | error error => exact fun response failed => by cases failed
      | ok events =>
          have marks := marks events happened
          have responses := wp_and
            (segmentResponses_madeOf date events listed read)
            (looksOn_of_within (segmentResponses_within date events listed) read)
          refine wp_then (wp_mono responses (fun _ _ both => both)
            fun _ _ => trivial) ?_
          rintro responses after ⟨made, last⟩ response answered segment member
          obtain rfl := Response.okay.inj answered
          obtain ⟨its, there, made⟩ := made segment member
          obtain ⟨stat, query, file, row, seen, logs, found, same⟩ :=
            rows its there
          have looked : query :: stat :: agent.seen <:+ after.seen := by
            rw [← seen]
            exact onward.trans last
          obtain ⟨more, first⟩ :=
            @AgentState.found_of_suffix agent after [stat, query] looked
          refine ⟨query, by rw [first]; rfl, file, its.id, logs,
            ⟨row, found, ?_, ?_, ?_⟩, fun frame marked => ?_⟩
          · rw [made.folder, same]
          · rw [made.startTime, same]
          · rw [made.totalFrames, same]
          · obtain ⟨glance, older, other, answering, earlier, mark⟩ :=
              marks _ (made.marked frame marked)
            rw [seen] at earlier
            have before : agent.seen <:+ older :=
              ((List.suffix_cons stat _).trans
                (List.suffix_cons query _)).trans earlier
            refine ⟨glance, AgentState.mem_found ?_ before, other, mark⟩
            rw [← answering]
            exact last

/-- The answer for a day with one segment and a mark on its first frame. -/
theorem recordingDayHandler_one_mark
    {disk : Disk} {file : Nat} {total : Int}
    (logs : disk.eventLogs ({} : Tm).date = some file)
    (segments : (disk.eventDb file).videoSegments =
      some [⟨"00000".toList, "00:00:00.000000".toList, total⟩])
    (details : (disk.eventDb file).eventDetails = some [⟨1, 1⟩]) :
    ∃ duration : Int, (recordingDayHandler ({} : Tm).date).run {}
      (List.replicate 5 ⟨disk, true⟩) =
        .done (.okay ⟨({} : Tm).date, [⟨"00000".toList,
          "00:00:00.000000".toList, total,
          "/media/2024-01-01/00000/index.m3u8".toList, [1], duration⟩]⟩)
          ⟨false, List.replicate 5 ⟨disk, true⟩⟩ [] := by
  have rows : dayTable disk ({} : Tm).date EventDb.videoSegments =
      some [⟨"00000".toList, "00:00:00.000000".toList, total⟩] := by
    rw [dayTable, logs, Option.bind_some, segments]
  have marks : dayTable disk ({} : Tm).date EventDb.eventDetails =
      some [⟨1, 1⟩] := by
    rw [dayTable, logs, Option.bind_some, details]
  have valid : validDate ({} : Tm).date = true := by decide
  have path : eventLogsDbPath ({} : Tm).date = some ({} : Tm).date := by decide
  have playlist : mediaFilePath ({} : Tm).date "00000".toList indexName =
      some (⟨({} : Tm).date, "00000".toList⟩, indexName) := by decide
  simp only [recordingDayHandler, valid, segmentsForDay, openDay, path, look,
    queryDay, eventsOfDay, Bind.bind, Program.bind, Program.answer, Pure.pure,
    Program.modify, Program.run, List.replicate, logs, rows, marks,
    Bool.not_true, Bool.false_eq_true, if_false, Option.isNone_some,
    Bool.or_self, Except.map, noRecordingsAsEmpty]
  simp only [segmentResponses, segmentResponse, playlistDuration, playlist,
    look, List.map_cons, List.map_nil, Segment.scan, List.insertionSort_cons,
    List.insertionSort_nil, List.orderedInsert_nil, Bind.bind, Program.bind,
    Program.answer, Program.modify, Pure.pure, Program.run, Bool.not_true,
    Bool.false_eq_true, if_false]
  split <;> exact ⟨_, rfl⟩

end Agent

open Agent

end MotionSense
