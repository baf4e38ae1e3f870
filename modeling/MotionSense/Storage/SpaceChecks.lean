import MotionSense.Storage.Rounds

/-!
# How often space is checked

`hls_cb` counts the segments since the last cleanup, but only on the exit where
both of its writes have succeeded, and `check_and_cleanup` goes by that count.
A segment that could not be written therefore puts off the cleanup.
-/

namespace MotionSense

/-- The calls of `hls_cb` with certain results since `check_and_cleanup` last
went beyond its first test in the running process, or since its start. -/
def cutsSinceCleanup (counts : Int → Bool) : List Moment → Nat
  | [] => 0
  | moment :: older =>
      match moment.event with
      | .started | .cleaning => 0
      | .cutDone result =>
          cutsSinceCleanup counts older + (if counts result then 1 else 0)
      | _ => cutsSinceCleanup counts older

/-- Every call of `hls_cb` has succeeded or failed. -/
theorem cutsSinceCleanup_split (trace : List Moment) :
    cutsSinceCleanup (fun _ => true) trace =
      cutsSinceCleanup (fun result => result = 0) trace +
        cutsSinceCleanup (fun result => result ≠ 0) trace := by
  induction trace with
  | nil => rfl
  | cons moment older inductionHypothesis =>
      simp only [cutsSinceCleanup]
      split
      · rfl
      · rfl
      · rename_i result _
        rw [inductionHypothesis]
        by_cases ok : result = 0 <;> simp [ok] <;> omega
      · exact inductionHypothesis

/-- Each time `check_and_cleanup` returns at its first test, there have been
fewer than `cleanup_every_ts` calls of `hls_cb`. -/
def SpaceChecked (config : Config) (trace : List Moment) : Prop :=
  ∀ moment older, moment :: older <:+ trace → moment.event = .notDue →
    (cutsSinceCleanup (fun _ => true) older : Int) < config.cleanupEveryTs

/-- No step of writing a file has failed since `check_and_cleanup` last went
beyond its first test in the running process, or since its start. -/
def writtenSinceCleanup : List Moment → Bool
  | [] => true
  | moment :: older =>
      match moment.event with
      | .started | .cleaning => true
      | event => !event.writeFailed && writtenSinceCleanup older

/-- The same of the times before which no step of writing a file has failed. -/
def SpaceCheckedWhereWritten (config : Config) (trace : List Moment) : Prop :=
  ∀ moment older, moment :: older <:+ trace → moment.event = .notDue →
    writtenSinceCleanup older = true →
      (cutsSinceCleanup (fun _ => true) older : Int) < config.cleanupEveryTs

/-- Events that have no part in the count. -/
def Event.offCount : Event → Bool
  | .started | .cleaning | .notDue | .cutDone _ => false
  | _ => true

/-- Events that start the count. -/
def Event.startsCount : Event → Bool
  | .started | .cleaning => true
  | _ => false

theorem Event.startsCount_of_offCount
    (event : Event) (off : event.offCount = true) :
    event.startsCount = false := by
  cases event <;> first | rfl | exact absurd off Bool.false_ne_true

theorem Event.startsCount_of_writeFailed
    (event : Event) (failed : event.writeFailed = true) :
    event.startsCount = false := by
  cases event <;> first | rfl | exact absurd failed Bool.false_ne_true

theorem writtenSinceCleanup_of_cons
    {moment : Moment} {older : List Moment}
    (off : moment.event.startsCount = false)
    (written : writtenSinceCleanup (moment :: older) = true) :
    moment.event.writeFailed = false ∧ writtenSinceCleanup older = true := by
  obtain ⟨event, ws, disk⟩ := moment
  cases event <;>
    first
    | exact absurd off.symm Bool.false_ne_true
    | simpa only [writtenSinceCleanup, Bool.and_eq_true, Bool.not_eq_true']
        using written

theorem cutsSinceCleanup_cons
    {moment : Moment} (off : moment.event.offCount = true)
    (counts : Int → Bool) (older : List Moment) :
    cutsSinceCleanup counts (moment :: older) =
      cutsSinceCleanup counts older := by
  cases event : moment.event <;> rw [event] at off <;>
    first
    | exact absurd off Bool.false_ne_true
    | simp only [cutsSinceCleanup, event]

/-- With no failed write at all there is none since the last cleanup. -/
theorem writtenSinceCleanup_of_forall
    {trace : List Moment}
    (written : ∀ moment ∈ trace, moment.event.writeFailed = false) :
    writtenSinceCleanup trace = true := by
  induction trace with
  | nil => rfl
  | cons moment older inductionHypothesis =>
      obtain ⟨first, others⟩ := List.forall_mem_cons.mp written
      rw [writtenSinceCleanup]
      split
      · rfl
      · rfl
      · rw [first, inductionHypothesis others]
        rfl

/-- A condition on the checks says nothing about other moments. -/
theorem spaceCheckedWhereWritten_cons
    {config : Config} {moment : Moment} {older : List Moment}
    (here : moment.event = .notDue → writtenSinceCleanup older = true →
      (cutsSinceCleanup (fun _ => true) older : Int) < config.cleanupEveryTs)
    (checked : SpaceCheckedWhereWritten config older) :
    SpaceCheckedWhereWritten config (moment :: older) := by
  intro other earlier suffix isCheck
  rcases List.suffix_cons_iff.mp suffix with same | later
  · obtain ⟨rfl, rfl⟩ := List.cons.inj same
    exact here isCheck
  · exact checked other earlier later isCheck

namespace State

/-- The count is that of the successful calls, and none has failed where every
file was written. -/
structure CountsCuts (config : Config) (state : State) : Prop where
  now : state.ws.tsSinceCleanup =
    cutsSinceCleanup (fun result => result = 0) state.trace
  unfailed : writtenSinceCleanup state.trace = true →
    cutsSinceCleanup (fun result => result ≠ 0) state.trace = 0
  checks : SpaceCheckedWhereWritten config state.trace

variable {config : Config}

/-- What has no part in the count keeps it. -/
theorem CountsCuts.other
    {before after : State} (counts : before.CountsCuts config)
    (adds : Adds Event.offCount before after)
    (same : after.ws.tsSinceCleanup = before.ws.tsSinceCleanup) :
    after.CountsCuts config := by
  rcases adds with quiet | ⟨event, off, grown⟩
  · refine ⟨?_, ?_, ?_⟩
    · rw [same, quiet]
      exact counts.now
    · rw [quiet]
      exact counts.unfailed
    · rw [quiet]
      exact counts.checks
  · refine ⟨?_, ?_, ?_⟩
    · rw [same, grown, cutsSinceCleanup_cons off]
      exact counts.now
    · rw [grown, cutsSinceCleanup_cons off]
      exact fun written => counts.unfailed
        (writtenSinceCleanup_of_cons (event.startsCount_of_offCount off)
          written).2
    · rw [grown]
      apply spaceCheckedWhereWritten_cons _ counts.checks
      rintro rfl
      exact absurd off Bool.false_ne_true

/-- A file that was lost was not written. -/
theorem CountsCuts.written_false
    {state : State} (lost : state.LostWrite) :
    writtenSinceCleanup state.trace = false := by
  obtain ⟨moment, last, failed⟩ := lost
  obtain ⟨older, trace⟩ : ∃ older, state.trace = moment :: older := by
    cases trace : state.trace with
    | nil => simp [trace] at last
    | cons first older =>
        rw [trace] at last
        obtain rfl := Option.some.inj last
        exact ⟨older, rfl⟩
  rw [trace, ← Bool.not_eq_true]
  intro written
  have unfailed := (writtenSinceCleanup_of_cons
    (moment.event.startsCount_of_writeFailed failed) written).1
  rw [failed] at unfailed
  exact absurd unfailed.symm Bool.false_ne_true

theorem countsCuts_hlsStep
    (before after : State) (step : HlsStep before after)
    (counts : before.CountsCuts config) : after.CountsCuts config := by
  cases step with
  | cutFailed result failed lost =>
      refine ⟨?_, fun written => ?_,
        spaceCheckedWhereWritten_cons nofun counts.checks⟩
      · simp only [State.trace_log, State.ws_log, cutsSinceCleanup]
        rw [counts.now, if_neg (by simpa using failed), Nat.add_zero]
      · have before := (writtenSinceCleanup_of_cons rfl written).2
        rw [CountsCuts.written_false lost] at before
        exact absurd before Bool.false_ne_true
  | cutDone =>
      refine ⟨?_, fun written => ?_,
        spaceCheckedWhereWritten_cons nofun counts.checks⟩
      · simp only [State.trace_log, State.ws_log, State.ws_updateWs,
          State.trace_updateWs, cutsSinceCleanup]
        rw [counts.now, if_pos (by simp)]
        push_cast
        rfl
      · have none := counts.unfailed
          (writtenSinceCleanup_of_cons rfl written).2
        simpa [cutsSinceCleanup] using none
  | _ =>
      refine counts.other ?_ rfl
      first | exact .inl rfl | exact .inr ⟨_, rfl, rfl⟩

theorem countsCuts_totalStep
    (before after : State) (step : TotalStep before after)
    (counts : before.CountsCuts config) : after.CountsCuts config := by
  cases step <;> refine counts.other ?_ rfl <;> exact .inr ⟨_, rfl, rfl⟩

theorem countsCuts_statementStep
    {writes : (EventDb → EventDb) → Prop}
    (before after : State) (step : StatementStep writes before after)
    (counts : before.CountsCuts config) : after.CountsCuts config := by
  cases step <;> refine counts.other ?_ rfl <;>
    first | exact .inl rfl | exact .inr ⟨_, rfl, rfl⟩

theorem countsCuts_dayStep
    (before after : State) (step : DayStep before after)
    (counts : before.CountsCuts config) : after.CountsCuts config := by
  cases step with
  | folder step =>
      cases step <;> refine counts.other ?_ rfl <;>
        first | exact .inl rfl | exact .inr ⟨_, rfl, rfl⟩
  | segment step =>
      cases step with
      | db step =>
          cases step with
          | statement step => exact countsCuts_statementStep _ _ step counts
          | stamp => exact counts.other (.inr ⟨_, rfl, rfl⟩) rfl
          | _ => exact counts.other (.inl rfl) rfl
      | _ => exact counts.other (.inl rfl) rfl
  | flush step =>
      cases step with
      | hls step => exact countsCuts_hlsStep _ _ step counts
      | _ => exact counts.other (.inl rfl) rfl
  | total step => exact countsCuts_totalStep _ _ step counts
  | _ => exact counts.other (.inr ⟨_, rfl, rfl⟩) rfl

theorem countsCuts_frameStep
    (before after : State) (step : FrameStep before after)
    (counts : before.CountsCuts config) : after.CountsCuts config := by
  cases step with
  | hls step => exact countsCuts_hlsStep _ _ step counts
  | _ =>
      refine counts.other ?_ rfl
      first | exact .inl rfl | exact .inr ⟨_, rfl, rfl⟩

theorem countsCuts_progressStep
    (before after : State) (step : ProgressStep before after)
    (counts : before.CountsCuts config) : after.CountsCuts config := by
  cases step with
  | marks step =>
      cases step with
      | statement step => exact countsCuts_statementStep _ _ step counts
      | _ =>
          refine counts.other ?_ rfl
          first | exact .inl rfl | exact .inr ⟨_, rfl, rfl⟩
  | total step => exact countsCuts_totalStep _ _ step counts
  | _ =>
      refine counts.other ?_ rfl
      first | exact .inl rfl | exact .inr ⟨_, rfl, rfl⟩

/-- Going beyond the first test starts the count again. -/
theorem countsCuts_cleanupStep
    (before after : State) (step : CleanupStep config before after)
    (counts : before.CountsCuts config) : after.CountsCuts config := by
  cases step with
  | removal step =>
      cases step <;> refine counts.other ?_ rfl <;>
        first | exact .inl rfl | exact .inr ⟨_, rfl, rfl⟩
  | notDue early =>
      refine ⟨counts.now, fun written => ?_,
        spaceCheckedWhereWritten_cons (fun _ written => ?_) counts.checks⟩
      · exact counts.unfailed
          (writtenSinceCleanup_of_cons rfl written).2
      · rw [cutsSinceCleanup_split, counts.unfailed written, Nat.add_zero,
          ← counts.now]
        exact early
  | reset =>
      exact ⟨rfl, fun _ => rfl,
        spaceCheckedWhereWritten_cons nofun counts.checks⟩
  | _ =>
      refine counts.other ?_ rfl
      first | exact .inl rfl | exact .inr ⟨_, rfl, rfl⟩

end State

/-- In every history fewer than `cleanup_every_ts` calls of `hls_cb` lie behind a
return at the first test when no step of writing a file has failed in between;
so in a run in which no file write fails they do behind every return. -/
theorem space_checked_where_written
    (config : Config) {phase : Daemon.Phase} {state : State}
    (reached : (writer config).Reach State.Unused phase state) :
    SpaceCheckedWhereWritten config state.trace ∧
      ((∀ moment ∈ state.trace, moment.event.writeFailed = false) →
        SpaceChecked config state.trace) := by
  have checks : SpaceCheckedWhereWritten config state.trace := by
    have held := writer_keeps_running config
      (fun _ (counts : State.CountsCuts config _) => counts.checks)
      (fun first (unused : first.trace = []) => ?_)
      (fun last (checks : SpaceCheckedWhereWritten config last.trace) =>
        ⟨rfl, fun _ => rfl, spaceCheckedWhereWritten_cons nofun checks⟩)
      (fun before after step _ => State.countsCuts_dayStep before after step)
      (fun before after step _ => State.countsCuts_frameStep before after step)
      (fun before after step _ =>
        State.countsCuts_progressStep before after step)
      State.countsCuts_cleanupStep reached
    · cases phase with
      | off => exact held
      | ready => exact held.checks
    · rw [unused]
      exact fun _ _ suffix =>
        absurd (List.suffix_nil.mp suffix) (List.cons_ne_nil _ _)
  refine ⟨checks, fun written moment older suffix isCheck =>
    checks moment older suffix isCheck ?_⟩
  exact writtenSinceCleanup_of_forall fun earlier member =>
    written earlier (suffix.subset (List.mem_cons_of_mem _ member))

/-- From the first cut on no file can be written, as on a full card: at the 21st
keyframe twenty segments are lost and the cleanup has not run. -/
theorem full_card_puts_off_cleanup :
    let frames : List FqFrame := List.replicate 21
      { data := some ⟨0, [0]⟩, len := 1, isKey := true, ptsUs := 0 }
    let script : List Choice := List.replicate 20 ({} : Choice) ++
      List.replicate 84 ({ ok := false } : Choice)
    let state := (((writer {}).life frames).run (State.restart {})
      script).state
    (writer {}).Reach State.Unused .off state ∧
      ¬SpaceChecked {} state.trace := by
  intro frames script state
  refine ⟨@Daemon.Reach.life _ _ _ (writer {}) State.Unused {} (.initial rfl)
    _ _, fun checked => ?_⟩
  let last : Fin state.trace.length := ⟨1, by decide +kernel⟩
  have few := checked (state.trace.get last) (state.trace.drop 2)
    (suffix_cons_iff_place.mpr ⟨last, rfl, rfl⟩) (by decide +kernel)
  exact absurd few (by decide +kernel)

/-- Six keyframes with `cleanup_every_ts` 2: once the first segment is lost, so
that the first cleanup comes a segment late, and once nothing fails. -/
theorem space_checked_where_written_six_keyframes :
    let config : Config := { cleanupEveryTs := 2 }
    let frames : List FqFrame := List.replicate 6
      { data := some ⟨0, [0]⟩, len := 1, isKey := true, ptsUs := 0 }
    let works : List Choice := List.replicate 120 {}
    let run := fun script : List Choice =>
      (((writer config).life frames).run (State.restart {}) script).state
    SpaceCheckedWhereWritten config
        (run (works.take 28 ++ ({ ok := false } : Choice) :: works)).trace ∧
      SpaceChecked config (run works).trace := by
  intro config frames works run
  have reached : ∀ script, (writer config).Reach State.Unused .off
      (run script) := fun script =>
    @Daemon.Reach.life _ _ _ (writer config) State.Unused {} (.initial rfl)
      _ _
  exact ⟨(space_checked_where_written config (reached _)).1,
    (space_checked_where_written config (reached works)).2
      (by decide +kernel)⟩

end MotionSense
