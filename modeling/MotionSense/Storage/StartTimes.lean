import MotionSense.Storage.Paths
import MotionSense.Storage.Published
import MotionSense.Storage.Rounds

/-!
# The start times of the segments

`event_db_add_segment` reads the clock twice: the hour, the minute and the second
of a start time come from the first reading, the microseconds from the second.
When a second begins between the two, the start time can be earlier than both
readings, and earlier than that of a segment opened before.
-/

namespace MotionSense

/-! ## The text of a start time -/

/-- The time of day of a reading, as the number `hhmmss`. -/
def Tm.timeOfDay (tm : Tm) : Nat :=
  (tm.hour * 100 + tm.min) * 100 + tm.sec

/-- The date of a reading, as the number `YYYYMMDD`. -/
def Tm.dateNumber (tm : Tm) : Nat :=
  (tm.year * 100 + tm.mon) * 100 + tm.mday

/-- The second of a reading, as the number `YYYYMMDDhhmmss`. -/
def Tm.second (tm : Tm) : Nat := tm.dateNumber * 10 ^ 6 + tm.timeOfDay

/-- What a reading of the clock shows, to the microsecond. -/
def Reading.instant (reading : Reading) : Nat :=
  reading.tm.second * 10 ^ 6 + reading.usec

/-- The ranges of `localtime_r` and `gettimeofday`. -/
structure Reading.Valid (reading : Reading) : Prop where
  hour : reading.tm.hour < 24
  min : reading.tm.min < 60
  sec : reading.tm.sec ≤ 60
  usec : reading.usec < 10 ^ 6

theorem Reading.Valid.timeOfDay_lt
    {reading : Reading} (valid : reading.Valid) :
    reading.tm.timeOfDay < 10 ^ 6 := by
  obtain ⟨hour, min, sec, _⟩ := valid
  rw [Tm.timeOfDay]
  omega

/-- Padded numbers of one width are compared as numbers. -/
theorem zeroPadded_lt_iff
    {width first second : Nat} (positive : 0 < width)
    (fits : first < 10 ^ width) (fitsToo : second < 10 ^ width) :
    zeroPadded width first < zeroPadded width second ↔ first < second := by
  rw [digits_lt_iff (fun _ => isDigit_of_mem_zeroPadded)
    (fun _ => isDigit_of_mem_zeroPadded), ofDigitChars_zeroPadded,
    ofDigitChars_zeroPadded]
  rw [length_zeroPadded positive fits, length_zeroPadded positive fitsToo]

/-- A padded number in front of other text. -/
theorem zeroPadded_append_lt_iff
    {width first second : Nat} (positive : 0 < width)
    (fits : first < 10 ^ width) (fitsToo : second < 10 ^ width)
    {rest later : CString} :
    zeroPadded width first ++ rest < zeroPadded width second ++ later ↔
      first < second ∨ first = second ∧ rest < later := by
  have lengths : (zeroPadded width first).length =
      (zeroPadded width second).length := by
    rw [length_zeroPadded positive fits, length_zeroPadded positive fitsToo]
  rw [append_lt_append_iff lengths,
    zeroPadded_lt_iff positive fits fitsToo,
    (zeroPadded_injective width).eq_iff]

/-- The two readings behind a start time. -/
structure Stamp where
  time : Reading
  clock : Reading
  deriving DecidableEq

/-- The start time made of two readings. -/
def Stamp.text (stamp : Stamp) : CString :=
  stamp.time.tm.startTime stamp.clock.usec

/-- The ranges of both readings. -/
structure Stamp.Valid (stamp : Stamp) : Prop where
  time : stamp.time.Valid
  clock : stamp.clock.Valid

/-- Start times are compared by the time of day of the first readings, and then by
the microseconds of the second ones. -/
theorem Stamp.text_lt_iff
    {first second : Stamp} (valid : first.Valid) (validToo : second.Valid) :
    first.text < second.text ↔
      first.time.tm.timeOfDay < second.time.tm.timeOfDay ∨
        first.time.tm.timeOfDay = second.time.tm.timeOfDay ∧
          first.clock.usec < second.clock.usec := by
  obtain ⟨⟨hour, min, sec, _⟩, ⟨_, _, _, usec⟩⟩ := valid
  obtain ⟨⟨hour', min', sec', _⟩, ⟨_, _, _, usec'⟩⟩ := validToo
  have behind : ∀ (letter : Char) (rest later : CString),
      letter :: rest < letter :: later ↔ rest < later := by
    intro letter rest later
    rw [List.cons_lt_cons_iff]
    simp
  simp only [text, Tm.startTime, List.append_assoc, List.cons_append]
  rw [zeroPadded_append_lt_iff (by decide) (by omega) (by omega), behind,
    zeroPadded_append_lt_iff (by decide) (by omega) (by omega), behind,
    zeroPadded_append_lt_iff (by decide) (by omega) (by omega), behind,
    zeroPadded_lt_iff (by decide) (by omega) (by omega), Tm.timeOfDay,
    Tm.timeOfDay]
  omega

/-- A clock that does not step back shows the first reading of a segment, then
the second one, and then those of a later segment. -/
structure Steady (first second : Stamp) : Prop where
  before : first.time.instant ≤ first.clock.instant
  between : first.clock.instant ≤ second.time.instant
  after : second.time.instant ≤ second.clock.instant

/-- A segment's start time is earlier than that of one opened before.  Either both
first readings show one second, and a new second begins between the readings of
the later segment, which then has fewer microseconds; or the two were opened on
different dates, the later one at an earlier time of day. -/
def Overtakes (second first : Stamp) : Prop :=
  (first.time.tm.second = second.time.tm.second ∧
      second.time.tm.second < second.clock.tm.second ∧
      second.clock.usec < first.clock.usec) ∨
    (first.time.tm.dateNumber < second.time.tm.dateNumber ∧
      (second.time.tm.timeOfDay < first.time.tm.timeOfDay ∨
        second.time.tm.timeOfDay = first.time.tm.timeOfDay ∧
          second.clock.usec < first.clock.usec))

instance (second first : Stamp) : Decidable (Overtakes second first) :=
  inferInstanceAs (Decidable (_ ∨ _))

/-- Under a clock that does not step back, two start times are in the order of
opening unless the second one overtakes the first. -/
theorem Stamp.text_le_iff
    {first second : Stamp} (valid : first.Valid) (validToo : second.Valid)
    (steady : Steady first second) :
    first.text ≤ second.text ↔ ¬Overtakes second first := by
  have order := Stamp.text_lt_iff validToo valid
  have day := valid.time.timeOfDay_lt
  have dayToo := validToo.time.timeOfDay_lt
  obtain ⟨before, between, after⟩ := steady
  have small := And.intro valid.time.usec validToo.time.usec
  have smallToo := And.intro valid.clock.usec validToo.clock.usec
  rw [← not_lt, order, not_iff_not, Overtakes]
  -- Between two first readings in one second, so is the reading between them.
  simp only [Reading.instant, Tm.second] at before between after ⊢
  generalize first.time.tm.timeOfDay = time at *
  generalize second.time.tm.timeOfDay = timeToo at *
  generalize first.time.tm.dateNumber = date at *
  generalize second.time.tm.dateNumber = dateToo at *
  omega

/-! ## The start times of a database -/

/-- The start times in the order of the rows. -/
def EventDb.startTimes (db : EventDb) : List CString :=
  (db.videoSegments.getD []).map SegmentRow.startTime

/-- The readings behind the rows inserted into a file, in the order of
insertion. -/
def stamps (file : Nat) : List Moment → List Stamp
  | [] => []
  | moment :: older =>
      match moment.event with
      | .stamped time clock =>
          if moment.ws.eventDb = some file then
            stamps file older ++ [⟨time, clock⟩]
          else stamps file older
      | _ => stamps file older

/-- Each file has the start times it began with, and behind them those of the
rows inserted since. -/
def State.HasStartTimes (old : Nat → List CString) (state : State) : Prop :=
  ∀ file, (state.disk.eventDb file).startTimes =
    old file ++ (stamps file state.trace).map Stamp.text

namespace EventDb

theorem Opens.startTimes
    {update : EventDb → EventDb} (opens : Opens update) (db : EventDb) :
    (update db).startTimes = db.startTimes := by
  cases opens with
  | createSegments => rfl
  | createDetails => rfl
  | createIndex => rfl

theorem Marks.startTimes
    {update : EventDb → EventDb} (marks : Marks update) (db : EventDb) :
    (update db).startTimes = db.startTimes := by
  cases marks with
  | insertDetail videoId motionFrame => rfl

theorem startTimes_updateTotalFrames
    (id totalFrames : Int) (db : EventDb) :
    (db.updateTotalFrames id totalFrames).startTimes = db.startTimes := by
  rw [startTimes, startTimes, updateTotalFrames]
  cases db.videoSegments with
  | none => rfl
  | some rows =>
      simp only [Option.map_some, Option.getD_some]
      split
      · apply List.ext_getElem?
        intro place
        rw [List.getElem?_map, List.getElem?_map, List.getElem?_modify]
        cases rows[place]? with
        | none => rfl
        | some row =>
            simp only [Option.map_eq_map, Option.map_some]
            split <;> rfl
      · rfl

theorem startTimes_insertSegment
    {folder : CString} {db : EventDb} (accepted : db.accepts folder = true)
    (startTime : CString) :
    (db.insertSegment folder startTime).startTimes =
      db.startTimes ++ [startTime] := by
  cases present : db.videoSegments with
  | none =>
      rw [accepts, present] at accepted
      exact nomatch accepted
  | some rows => simp [startTimes, insertSegment, present]

end EventDb

namespace State

variable {old : Nat → List CString}

/-- A step that leaves the start times and records no stamp. -/
theorem HasStartTimes.keep
    {before after : State} (has : before.HasStartTimes old)
    (times : ∀ file, (after.disk.eventDb file).startTimes =
      (before.disk.eventDb file).startTimes)
    (record : ∀ file, stamps file after.trace = stamps file before.trace) :
    after.HasStartTimes old := by
  intro file
  rw [times, record]
  exact has file

/-- A step that leaves every database. -/
theorem HasStartTimes.same
    {before after : State} (has : before.HasStartTimes old)
    (files : after.disk.eventDbs = before.disk.eventDbs)
    (record : ∀ file, stamps file after.trace = stamps file before.trace) :
    after.HasStartTimes old :=
  has.keep (fun file => by rw [Disk.eventDb, files, Disk.eventDb]) record

/-- A statement that leaves the start times. -/
theorem HasStartTimes.write
    {state : State} (has : state.HasStartTimes old)
    {update : EventDb → EventDb}
    (keeps : ∀ db, (update db).startTimes = db.startTimes) (file : Nat) :
    (state.updateDisk fun disk =>
      disk.updateEventDb file update).HasStartTimes old := by
  refine has.keep (fun other => ?_) fun _ => rfl
  change ((state.disk.updateEventDb file update).eventDb other).startTimes = _
  rw [Disk.eventDb_updateEventDb]
  split
  · exact keeps _
  · rfl

/-- The insertion of a row puts its start time behind the others. -/
theorem HasStartTimes.stamp
    {state : State} (has : state.HasStartTimes old)
    {file : Nat} {folder : CString} {time clock : Reading}
    (opened : state.ws.eventDb = some file)
    (accepted : (state.disk.eventDb file).accepts folder = true) :
    ((state.updateDisk fun disk => disk.updateEventDb file
      (EventDb.insertSegment folder (time.tm.startTime clock.usec))).log
        (.stamped time clock)).HasStartTimes old := by
  have inside := Disk.lt_of_accepts accepted
  intro other
  simp only [disk_log, trace_log, stamps]
  change ((state.disk.updateEventDb file _).eventDb other).startTimes = _
  rw [Disk.eventDb_updateEventDb]
  change _ = old other ++ List.map Stamp.text
    (if state.ws.eventDb = some other then _ else _)
  by_cases same : file = other
  · subst same
    rw [if_pos ⟨rfl, inside⟩, if_pos opened, List.map_append,
      ← List.append_assoc, EventDb.startTimes_insertSegment accepted, has file]
    rfl
  · have elsewhere : state.ws.eventDb ≠ some other := by
      rw [opened]
      exact fun equal => same (Option.some.inj equal)
    rw [if_neg fun both => same both.1, if_neg elsewhere]
    exact has other

theorem hasStartTimes_hlsStep
    (before after : State) (step : HlsStep before after)
    (has : before.HasStartTimes old) : after.HasStartTimes old := by
  cases step with
  | replaced dir name data outlet =>
      exact has.same (eventDbs_putFile _ _ _ _) fun _ => rfl
  | _ => exact has.same rfl fun _ => rfl

theorem hasStartTimes_statementStep
    {writes : (EventDb → EventDb) → Prop}
    (keeps : ∀ update, writes update →
      ∀ db, (update db).startTimes = db.startTimes)
    (before after : State) (step : StatementStep writes before after)
    (has : before.HasStartTimes old) : after.HasStartTimes old := by
  cases step with
  | write file update written => exact has.write (keeps update written) file
  | _ => exact has.same rfl fun _ => rfl

theorem hasStartTimes_totalStep
    (before after : State) (step : TotalStep before after)
    (has : before.HasStartTimes old) : after.HasStartTimes old := by
  cases step with
  | called => exact has.same rfl fun _ => rfl
  | update file opened =>
      exact (has.write (EventDb.startTimes_updateTotalFrames _ _) file).same
        rfl fun _ => rfl

theorem hasStartTimes_dbStep
    (before after : State) (step : DbStep before after)
    (has : before.HasStartTimes old) : after.HasStartTimes old := by
  cases step with
  | statement step =>
      exact hasStartTimes_statementStep (fun _ => EventDb.Opens.startTimes)
        _ _ step has
  | createLogs date =>
      exact has.keep (fun file => congrArg EventDb.startTimes
        (Disk.eventDb_openEventLogs _ _ _)) fun _ => rfl
  | stamp file folder time clock opened accepted =>
      exact has.stamp opened accepted
  | _ => exact has.same rfl fun _ => rfl

theorem hasStartTimes_dayStep
    (before after : State) (step : DayStep before after)
    (has : before.HasStartTimes old) : after.HasStartTimes old := by
  cases step with
  | folder step =>
      cases step with
      | mkdir dir parent new =>
          exact has.same (eventDbs_mkdir _ _) fun _ => rfl
      | _ => exact has.same rfl fun _ => rfl
  | segment step =>
      cases step with
      | db step => exact hasStartTimes_dbStep _ _ step has
      | _ => exact has.same rfl fun _ => rfl
  | flush step =>
      cases step with
      | hls step => exact hasStartTimes_hlsStep _ _ step has
      | _ => exact has.same rfl fun _ => rfl
  | total step => exact hasStartTimes_totalStep _ _ step has
  | _ => exact has.same rfl fun _ => rfl

theorem hasStartTimes_frameStep
    (before after : State) (step : FrameStep before after)
    (has : before.HasStartTimes old) : after.HasStartTimes old := by
  cases step with
  | hls step => exact hasStartTimes_hlsStep _ _ step has
  | _ => exact has.same rfl fun _ => rfl

theorem hasStartTimes_progressStep
    (before after : State) (step : ProgressStep before after)
    (has : before.HasStartTimes old) : after.HasStartTimes old := by
  cases step with
  | marks step =>
      cases step with
      | statement step =>
          exact hasStartTimes_statementStep (fun _ => EventDb.Marks.startTimes)
            _ _ step has
      | _ => exact has.same rfl fun _ => rfl
  | total step => exact hasStartTimes_totalStep _ _ step has
  | _ => exact has.same rfl fun _ => rfl

theorem hasStartTimes_cleanupStep
    (config : Config) (before after : State)
    (step : CleanupStep config before after)
    (has : before.HasStartTimes old) : after.HasStartTimes old := by
  cases step with
  | removal step =>
      cases step with
      | removePart date removal under =>
          exact has.same (eventDbs_removePart _ _ _) fun _ => rfl
      | _ => exact has.same rfl fun _ => rfl
  | _ => exact has.same rfl fun _ => rfl

end State

/-- In every history the databases have the start times of the rows inserted,
in the order of insertion. -/
theorem writer_startTimes
    (config : Config) {phase : Daemon.Phase} {state : State}
    (reached : (writer config).Reach State.Unused phase state) :
    ∃ old, state.HasStartTimes old := by
  refine @writer_keeps config State.Unused
    (fun state => ∃ old, state.HasStartTimes old) ?_ ?_ ?_ ?_ ?_ ?_ _ _ reached
  · intro state unused
    refine ⟨fun file => (state.disk.eventDb file).startTimes, fun file => ?_⟩
    rw [unused, stamps, List.map_nil, List.append_nil]
  · rintro state ⟨old, has⟩
    exact ⟨old, has.same rfl fun _ => rfl⟩
  · rintro before after step _ ⟨old, has⟩
    exact ⟨old, State.hasStartTimes_dayStep _ _ step has⟩
  · rintro before after step _ ⟨old, has⟩
    exact ⟨old, State.hasStartTimes_frameStep _ _ step has⟩
  · rintro before after step _ ⟨old, has⟩
    exact ⟨old, State.hasStartTimes_progressStep _ _ step has⟩
  · rintro before after step ⟨old, has⟩
    exact ⟨old, State.hasStartTimes_cleanupStep config _ _ step has⟩

end MotionSense
