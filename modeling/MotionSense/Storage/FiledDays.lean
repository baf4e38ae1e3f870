import MotionSense.Storage.Rollover

/-!
# The day under which a frame is filed

The segment folder that the muxer writes to is named by a date, while the change
to another folder is decided by the day of the year.  A frame is filed under a
date read in its own call of `ingest_frame` unless the clock has jumped from one
date to another with the same day of the year.
-/

namespace MotionSense

/-- The dates read in the running call of `ingest_frame`: at its start, and by
`open_today`. -/
def callDates : List Moment → List CString
  | [] => []
  | moment :: older =>
      match moment.event with
      | .ingest date _ => [date]
      | .placed => moment.ws.date :: callDates older
      | _ => callDates older

/-- The moment at which the running call of `ingest_frame` read the clock. -/
def callStart (record : List Moment) : Option Moment :=
  record.find? fun moment => moment.event.isIngest

/-- Where the day of the year is that of the day being recorded, so is the
date. -/
def ClockAgrees (start : Moment) : Prop :=
  ∀ date yday, start.event = .ingest date yday →
    yday = start.ws.dayOfYear → date = start.ws.date

/-- Every frame given to the muxer goes to a folder of a date that was read in
the same call. -/
def FiledByDate (record : List Moment) : Prop :=
  ∀ fed older, fed :: older <:+ record → (∃ frame, fed.event = .fed frame) →
    fed.ws.segmentDir.date ∈ callDates older

/-- In every call that gives a frame to the muxer, the clock read at its start
agrees with the day being recorded. -/
def ClockKept (record : List Moment) : Prop :=
  ∀ fed older, fed :: older <:+ record → (∃ frame, fed.event = .fed frame) →
    ∀ start ∈ callStart older, ClockAgrees start

/-- A frame was filed under a date of its call exactly when the clock agreed at
its start. -/
def FiledIff (record : List Moment) : Prop :=
  ∀ fed older, fed :: older <:+ record → (∃ frame, fed.event = .fed frame) →
    ∃ start, callStart older = some start ∧
      (fed.ws.segmentDir.date ∈ callDates older ↔ ClockAgrees start)

theorem callDates_cons
    {moment : Moment} (off : moment.event.offDay = true)
    (older : List Moment) :
    callDates (moment :: older) = callDates older := by
  cases event : moment.event <;> rw [event] at off <;>
    first
    | exact absurd off Bool.false_ne_true
    | simp only [callDates, event]

theorem callStart_cons
    {moment : Moment} (other : moment.event.isIngest = false)
    (older : List Moment) :
    callStart (moment :: older) = callStart older := by
  rw [callStart, List.find?_cons, other]
  rfl

theorem isIngest_of_offDay {event : Event} (off : event.offDay = true) :
    event.isIngest = false := by
  cases event <;> first | rfl | exact absurd off Bool.false_ne_true

/-- Another event, or a frame filed so, keeps this. -/
theorem FiledIff.cons
    {record : List Moment} (filed : FiledIff record)
    {moment : Moment}
    (here : (∃ frame, moment.event = .fed frame) →
      ∃ start, callStart record = some start ∧
        (moment.ws.segmentDir.date ∈ callDates record ↔
          ClockAgrees start)) :
    FiledIff (moment :: record) := by
  intro fed older inside isFed
  rcases List.suffix_cons_iff.mp inside with whole | earlier
  · obtain ⟨rfl, rfl⟩ := List.cons.inj whole
    exact here isFed
  · exact filed fed older earlier isFed

namespace State

/-- The segment folder is one of the writer's day. -/
def InPlace (state : State) : Prop :=
  state.ws.segmentDir.date = state.ws.date

theorem InPlace.sameDay
    {before after : State} (place : before.InPlace)
    (same : SameDay before after) : after.InPlace := by
  rw [InPlace, same.dir, same.date]
  exact place

/-- The day of the running call: whether it was read in this call is decided. -/
structure CallDay (start : Moment) (state : State) : Prop where
  place : state.InPlace
  isStart : callStart state.trace = some start
  own : state.ws.date ∈ callDates state.trace ↔ ClockAgrees start

theorem CallDay.sameDay
    {start : Moment} {before after : State} (day : before.CallDay start)
    (same : SameDay before after) : after.CallDay start := by
  refine ⟨day.place.sameDay same, ?_, ?_⟩
  · rw [same.adds.view fun _ older off =>
      callStart_cons (isIngest_of_offDay off) older]
    exact day.isStart
  · rw [same.date,
      same.adds.view fun _ older off => callDates_cons off older]
    exact day.own

/-- A frame is filed under the day of its call. -/
theorem filedIff_sameDay
    {start : Moment} {before after : State}
    (filed : FiledIff before.trace) (day : before.CallDay start)
    (same : SameDay before after) : FiledIff after.trace := by
  rcases same.adds with quiet | ⟨event, _, grown⟩
  · rw [quiet]
    exact filed
  · rw [grown]
    refine filed.cons fun _ => ⟨start, day.isStart, ?_⟩
    rw [same.dir, day.place]
    exact day.own

theorem filedIff_dayStep
    (before after : State) (step : DayStep before after)
    (filed : FiledIff before.trace) : FiledIff after.trace := by
  rcases adds_dayStep before after step with quiet | ⟨event, isDay, grown⟩
  · rw [quiet]
    exact filed
  · rw [grown]
    apply filed.cons
    rintro ⟨frame, rfl⟩
    exact absurd isDay Bool.false_ne_true

end State

namespace Storage

open Program

variable (config : Config)

theorem ensureDir_sameDay (dir : Dir) : (ensureDir dir).Within SameDay := by
  intro state
  apply wp_ensureDir .refl
  · exact fun _ => .refl
  · exact .single ⟨rfl, rfl, rfl, .log rfl⟩
  · intro _ _
    have called : SameDay state (state.log (.called .mkdir true)) :=
      ⟨rfl, rfl, rfl, .log rfl⟩
    exact .tail (.single called) ⟨rfl, rfl, rfl, .inr ⟨_, rfl, rfl⟩⟩

theorem countSubdirs_sameDay (date : CString) :
    (countSubdirs date).Within SameDay := by
  refine Within.bind (call_within (fun _ _ =>
    ⟨rfl, rfl, rfl, .log rfl⟩) _) fun opened => ?_
  exact Within.bind Within.current fun state => Within.pure _

/-- The day of a call, found by reading the clock in `open_today`. -/
structure Placed (start : Option Moment) (state : State) : Prop where
  place : state.InPlace
  isStart : callStart state.trace = start
  own : state.ws.date ∈ callDates state.trace

theorem Placed.sameDay
    {start : Option Moment} {before after : State}
    (placed : Placed start before)
    (same : SameDay before after) : Placed start after := by
  refine ⟨placed.place.sameDay same, ?_, ?_⟩
  · rw [same.adds.view fun _ older off =>
      callStart_cons (isIngest_of_offDay off) older]
    exact placed.isStart
  · rw [same.date,
      same.adds.view fun _ older off => callDates_cons off older]
    exact placed.own

/-- What stays in a day keeps what is known of a call. -/
theorem keeps_placed
    {program : Storage α} (within : program.Within SameDay)
    {start : Option Moment} {state : State}
    (placed : Placed start state) :
    program.wp (fun _ => Placed start) (fun _ => True) state :=
  wp_mono (within.keeps (fun _ _ same placed => Placed.sameDay placed same)
    state placed) (fun _ _ held => held) fun _ _ => trivial

/-- While the directories of a day are made, the date and the call stay. -/
theorem keeps_start
    {program : Storage α} (within : program.Within SameDay)
    {start : Option Moment} {date : CString} {state : State}
    (isStart : callStart state.trace = start)
    (isDate : state.ws.date = date) :
    program.wp
      (fun _ after => callStart after.trace = start ∧
        after.ws.date = date) (fun _ => True) state := by
  have kept := @Within.keeps _ _ _ _ _ within
    (fun after => callStart after.trace = start ∧ after.ws.date = date)
    ?_ state ⟨isStart, isDate⟩
  · exact wp_mono kept (fun _ _ held => held) fun _ _ => trivial
  · rintro before after same ⟨isStart, isDate⟩
    rw [same.date, same.adds.view fun _ older off =>
      callStart_cons (isIngest_of_offDay off) older]
    exact ⟨isStart, isDate⟩

theorem openFolder_placed
    {start : Option Moment} {state : State}
    (isStart : callStart state.trace = start) :
    openFolder.wp (fun _ => Placed start) (fun _ => True) state := by
  rw [openFolder, wp_bind, todayString, wp_bind, wp_answer]
  refine ⟨trivial, fun today => ?_⟩
  rw [wp_pure, wp_bind, wp_setWs]
  refine wp_then (keeps_start (ensureDir_sameDay .dcim) isStart rfl) ?_
  rintro _ state ⟨isStart, isDate⟩
  refine wp_then (keeps_start (ensureDir_sameDay _) isStart isDate) ?_
  rintro _ state ⟨isStart, isDate⟩
  refine wp_then (keeps_start (countSubdirs_sameDay _) isStart isDate) ?_
  rintro subdirs state ⟨isStart, isDate⟩
  rw [wp_bind, wp_setWs, wp_bind, wp_log]
  exact keeps_placed (ensureDir_sameDay _)
    ⟨isDate.symm, isStart, List.mem_cons_self⟩

theorem openToday_placed
    {start : Option Moment} {state : State}
    (isStart : callStart state.trace = start) :
    (openToday config).wp (fun _ => Placed start) (fun _ => True) state := by
  rw [openToday, wp_bind, wp_log]
  refine wp_then (openFolder_placed isStart) fun folder state placed => ?_
  refine wp_then (keeps_placed (Within.ite (fun _ => Within.pure _) fun _ =>
    openSegment_sameDay config) placed) fun result state placed => ?_
  rw [wp_bind, wp_log]
  exact ⟨placed.place, placed.isStart, placed.own⟩

theorem rolloverDay_placed
    {start : Option Moment} {state : State}
    (isStart : callStart state.trace = start) :
    (rolloverDay config).wp (fun _ => Placed start) (fun _ => True) state := by
  rw [rolloverDay]
  refine wp_then (keeps_start (hlsFlushAndDestroy_sameDay config) isStart rfl)
    fun _ state held => ?_
  refine wp_then (keeps_start (eventDbUpdateTotalFrames_within.mono
    State.sameDay_totalStep) held.1 rfl) fun _ state held => ?_
  rw [wp_bind, eventDbClose, wp_setWs]
  refine wp_then (openToday_placed config held.1) fun result state placed => ?_
  exact wp_then (keeps_placed (Within.ite (fun _ => metaDbEnsureDay_sameDay)
    fun _ => Within.pure _) placed) fun _ _ placed => placed

/-- After the change of the day, if there was one, the day of the call is
known. -/
theorem rolloverIfNewDay_callDay
    {state : State} (place : state.InPlace) :
    (rolloverIfNewDay config).wp
      (fun _ after => ∃ start, after.CallDay start) (fun _ => True) state := by
  rw [rolloverIfNewDay, wp_bind, todayString, wp_bind, wp_answer]
  refine ⟨trivial, fun today => ?_⟩
  rw [wp_pure, wp_bind, wp_log, wp_bind, wp_current]
  let start : Moment :=
    ⟨.ingest today.tm.date today.tm.yday, state.ws, state.disk⟩
  apply wp_split
  · intro other
    have rolled : (rolloverDay config).wp (fun _ => Placed (some start))
        (fun _ => True) (state.log (.ingest today.tm.date today.tm.yday)) :=
      rolloverDay_placed config rfl
    refine wp_then rolled fun _ after placed => ?_
    refine ⟨start, placed.place, placed.isStart,
      ⟨fun _ => ?_, fun _ => placed.own⟩⟩
    intro date yday event same
    cases event
    exact absurd same other
  · intro same
    refine ⟨start, place, rfl, ?_⟩
    change state.ws.date ∈ [today.tm.date] ↔ _
    rw [List.mem_singleton]
    constructor
    · intro isDate date yday event _
      cases event
      exact isDate.symm
    · intro agrees
      exact (agrees _ _ rfl (not_not.mp same)).symm

/-- `ingest_frame` files the frame, if it feeds it, as its day says. -/
theorem ingestFrame_filed
    (frame : FqFrame) {state : State}
    (filed : FiledIff state.trace) (place : state.InPlace) :
    (ingestFrame config frame).wp
      (fun _ after => FiledIff after.trace ∧ after.InPlace)
      (fun after => FiledIff after.trace) state := by
  rw [ingestFrame_eq]
  have dated := wp_and (rolloverIfNewDay_callDay config place)
    (@Within.keeps _ _ _ _ _ (rolloverIfNewDay_within config)
      (fun after => FiledIff after.trace) State.filedIff_dayStep state filed)
  refine wp_then (wp_mono dated (fun _ _ both => both)
    fun _ both => both.2) ?_
  rintro _ reached ⟨⟨start, day⟩, filed⟩
  have kept := @Within.keeps _ _ _ _ _ (ingestRest_within config frame)
    (fun after => FiledIff after.trace ∧ after.CallDay start)
    (fun _ _ same both => ⟨State.filedIff_sameDay both.1 both.2 same,
      both.2.sameDay same⟩) reached ⟨filed, day⟩
  exact wp_mono kept (fun _ _ both => ⟨both.1, both.2.place⟩)
    fun _ both => both.1

/-- A start that succeeds leaves the writer in its folder. -/
theorem writerBoot_inPlace (state : State) :
    (writerBoot config).wp
      (fun succeeded after => succeeded = true → after.InPlace)
      (fun _ => True) state := by
  rw [writerBoot]
  refine wp_then (openToday_placed config rfl) fun opened state placed => ?_
  refine wp_split (fun _ failed => by cases failed) fun _ => ?_
  refine wp_then (keeps_placed (metaDbInit_within.mono State.sameDay_dbStep)
    placed) fun ready state placed => ?_
  apply wp_split
  · intro _
    refine wp_then (wp_true _ _) fun _ state _ => ?_
    exact wp_then (wp_true _ _) fun _ state _ failed => by cases failed
  · intro _
    refine wp_then (keeps_placed metaDbEnsureDay_sameDay placed) ?_
    exact fun _ _ placed _ => placed.place

end Storage

/-- In every history, every frame was filed as its day says. -/
theorem writer_filed
    (config : Config) {phase : Daemon.Phase} {state : State}
    (reached : (writer config).Reach State.Unused phase state) :
    FiledIff state.trace := by
  have starts : ∀ state : State, State.Unused state →
      FiledIff state.trace := by
    intro first (unused : first.trace = [])
    rw [unused]
    exact fun _ _ inside =>
      absurd (List.suffix_nil.mp inside) (List.cons_ne_nil _ _)
  have boots : ∀ state : State, FiledIff state.trace →
      (writer config).boot.wp
        (fun succeeded after =>
          if succeeded then FiledIff after.trace ∧ after.InPlace
          else FiledIff after.trace)
        (fun after => FiledIff after.trace) state.restart := by
    intro last filed
    have restarted : FiledIff last.restart.trace := filed.cons nofun
    have kept := Program.wp_and
      (@Program.Within.keeps _ _ _ _ _ (Storage.writerBoot_within config)
        (fun after => FiledIff after.trace) State.filedIff_dayStep _ restarted)
      (Storage.writerBoot_inPlace config last.restart)
    refine Program.wp_mono kept ?_ fun _ both => both.1
    rintro succeeded after ⟨filed, place⟩
    cases succeeded with
    | false => exact filed
    | true => exact ⟨filed, place rfl⟩
  have stops : ∀ state : State, FiledIff state.trace ∧ state.InPlace →
      (writer config).stop.wp (fun _ after => FiledIff after.trace)
        (fun after => FiledIff after.trace) state := fun last both =>
    @Program.Within.keeps _ _ _ _ _ (Storage.closeDay_within config)
      (fun after => FiledIff after.trace) State.filedIff_dayStep last both.1
  exact @Daemon.Reach.everywhere _ _ _ (writer config) State.Unused
    (fun state => FiledIff state.trace)
    (fun state => FiledIff state.trace ∧ state.InPlace)
    (fun _ both => both.1) starts boots
    (fun frame last both =>
      Storage.ingestFrame_filed config frame both.1 both.2) stops phase state
    reached

/-- In every history, whatever the clock does, every frame goes to a folder of a
date read in its own call exactly when, in every such call, a day of the year that
is the one being recorded comes with the date being recorded. -/
theorem frames_filed_iff
    (config : Config) {phase : Daemon.Phase} {state : State}
    (reached : (writer config).Reach State.Unused phase state) :
    FiledByDate state.trace ↔ ClockKept state.trace := by
  refine forall₄_congr fun fed older inside isFed => ?_
  obtain ⟨start, found, filed⟩ :=
    writer_filed config reached fed older inside isFed
  rw [filed, found]
  constructor
  · intro agrees other member
    cases Option.mem_some_iff.mp member
    exact agrees
  · exact fun every => every start (Option.mem_some_iff.mpr rfl)

/-- The clock is set from 2024-01-01 to 2025-01-01: both are the first day of
their year, and the frame goes to the folder of 2024. -/
theorem new_year_files_under_old_date :
    let frame : FqFrame :=
      { data := some ⟨0, [0]⟩, len := 1, isKey := true, ptsUs := 0 }
    let nextYear : Choice := { tm := { year := 2025 } }
    let start := ((writer {}).boot.run (State.restart {})
      (List.replicate 40 ({} : Choice))).state
    let state := (((writer {}).serve frame).run start
      (List.replicate 20 nextYear)).state
    (writer {}).Reach State.Unused .ready state ∧
      (∀ moment ∈ state.trace, ∀ result,
        moment.event = .opened result → result = 0) ∧
      ¬FiledByDate state.trace := by
  intro frame nextYear start state
  have booted : (writer {}).Reach State.Unused .ready start :=
    Daemon.Reach.booted
      (@Daemon.Reach.initial _ _ _ (writer {}) State.Unused {} rfl)
      (by decide +kernel)
  refine ⟨Daemon.Reach.served booted (by decide +kernel), ?_, fun filed => ?_⟩
  · have succeeds : ∀ moment ∈ state.trace, moment.event.isOpened = true →
        moment.event = .opened 0 := by decide +kernel
    intro moment member result event
    have same := succeeds moment member (by rw [event]; rfl)
    exact Event.opened.inj (event.symm.trans same)
  · let fed : Fin state.trace.length := ⟨5, by decide +kernel⟩
    have own := filed (state.trace.get fed) (state.trace.drop 6)
      (suffix_cons_iff_place.mpr ⟨fed, rfl, rfl⟩)
      ⟨frame, by decide +kernel⟩
    exact absurd own (by decide +kernel)

/-- A clock that is set to the next day. -/
theorem frames_filed_iff_next_day :
    let frame : FqFrame :=
      { data := some ⟨0, [0]⟩, len := 1, isKey := true, ptsUs := 0 }
    let nextDay : Choice := { tm := { mday := 2, yday := 1 } }
    let start := ((writer {}).boot.run (State.restart {})
      (List.replicate 40 ({} : Choice))).state
    let state := (((writer {}).serve frame).run start
      (List.replicate 40 nextDay)).state
    FiledByDate state.trace := by
  intro frame nextDay start state
  have booted : (writer {}).Reach State.Unused .ready start :=
    Daemon.Reach.booted
      (@Daemon.Reach.initial _ _ _ (writer {}) State.Unused {} rfl)
      (by decide +kernel)
  have reached : (writer {}).Reach State.Unused .ready state :=
    Daemon.Reach.served booted (by decide +kernel)
  apply (frames_filed_iff {} reached).mpr
  have readings : ∀ moment ∈ state.trace, moment.event.isIngest = true →
      moment.event = .ingest nextDay.tm.date 1 ∧ moment.ws.dayOfYear = 0 := by
    decide +kernel
  intro fed older inside _ read isStart date yday event same
  have member : read ∈ state.trace := by
    apply inside.subset
    exact List.mem_cons_of_mem _ (List.mem_of_find?_eq_some isStart)
  obtain ⟨isRead, first⟩ := readings read member (by rw [event]; rfl)
  cases event.symm.trans isRead
  rw [first] at same
  exact absurd same Nat.one_ne_zero

end MotionSense
