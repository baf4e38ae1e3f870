import MotionSense.Foundations.Returns
import MotionSense.Storage.Folders
import MotionSense.Storage.Retention

/-!
# Working off the pending days

`retention_process_tasks` takes the first pending day of the table, round after
round, and leaves at the first one that it cannot delete.  That day is the first
one again the next time, so the days behind it in the table are never reached.
-/

namespace MotionSense

/-! ## What was recorded since -/

/-- The moments recorded since an earlier trace. -/
def since (earlier later : List Moment) : List Moment :=
  later.take (later.length - earlier.length)

theorem since_append (recent earlier : List Moment) :
    since earlier (recent ++ earlier) = recent := by
  rw [since, List.length_append, Nat.add_sub_cancel, List.take_left]

/-- What was recorded in a part of a time was recorded in it. -/
theorem mem_since_of_between
    {first second third fourth : List Moment}
    (start : first <:+ second)
    (middle : second <:+ third)
    (finish : third <:+ fourth)
    {moment : Moment}
    (member : moment ∈ since second third) :
    moment ∈ since first fourth := by
  obtain ⟨before, rfl⟩ := start
  obtain ⟨between, rfl⟩ := middle
  obtain ⟨after, rfl⟩ := finish
  rw [since_append] at member
  have split : after ++ (between ++ (before ++ first)) =
      after ++ between ++ before ++ first := by
    simp only [List.append_assoc]
  rw [split, since_append]
  apply List.mem_append_left
  exact List.mem_append_right _ member

/-! ## The pending days of the table -/

namespace MetaRow

/-- The days that wait for their deletion, in rowid order. -/
def pendingDates (rows : List MetaRow) : List CString :=
  (rows.filter fun row => row.state = .pending).map MetaRow.date

theorem firstPending_eq_head? (rows : List MetaRow) :
    firstPending rows = (pendingDates rows).head? := by
  rw [firstPending, pendingDates, List.head?_map, List.head?_filter]

/-- The dates of a table are `UNIQUE` and `NOT NULL`, and the daemon writes no
empty one. -/
structure WellKept (rows : List MetaRow) : Prop where
  unique : (rows.map MetaRow.date).Nodup
  named : ∀ row ∈ rows, row.date ≠ []

theorem WellKept.filter
    {rows : List MetaRow} (kept : WellKept rows) (keep : MetaRow → Bool) :
    WellKept (rows.filter keep) where
  unique := kept.unique.sublist (List.filter_sublist.map MetaRow.date)
  named row member := kept.named row (List.mem_of_mem_filter member)

theorem WellKept.nodup_pendingDates
    {rows : List MetaRow} (kept : WellKept rows) :
    (pendingDates rows).Nodup :=
  (kept.filter fun row => row.state = .pending).unique

theorem mem_pendingDates {rows : List MetaRow} {date : CString} :
    date ∈ pendingDates rows ↔
      ∃ row ∈ rows, row.date = date ∧ row.state = .pending := by
  simp only [pendingDates, List.mem_map, List.mem_filter, decide_eq_true_iff]
  exact ⟨fun ⟨row, ⟨member, pending⟩, same⟩ => ⟨row, member, same, pending⟩,
    fun ⟨row, member, same, pending⟩ => ⟨row, ⟨member, pending⟩, same⟩⟩

/-- Deleting the first pending day leaves the others in their order. -/
theorem pendingDates_delete
    {rows : List MetaRow} (kept : WellKept rows)
    {date : CString} {others : List CString}
    (first : pendingDates rows = date :: others) :
    pendingDates (delete date rows) = others := by
  have nodup := kept.nodup_pendingDates
  rw [first, List.nodup_cons] at nodup
  have swapped : pendingDates (delete date rows) =
      (pendingDates rows).filter fun other => other ≠ date := by
    rw [pendingDates, pendingDates, delete, List.filter_map,
      List.filter_filter, List.filter_filter]
    congr 2
    funext row
    exact Bool.and_comm _ _
  rw [swapped, first, List.filter_cons_of_neg (by simp)]
  apply List.filter_eq_self.mpr
  intro other member
  simpa using fun same : other = date => nodup.1 (same ▸ member)

end MetaRow

theorem isPending_iff_mem {disk : Disk} {date : CString} :
    disk.isPending date = true ↔
      date ∈ MetaRow.pendingDates disk.metaRows := by
  rw [Disk.isPending, List.any_eq_true, MetaRow.mem_pendingDates]
  simp only [Bool.and_eq_true, decide_eq_true_iff]

/-! ## The environment of a deletion -/

/-- Every statement succeeds, and exactly the removals of certain days fail. -/
def Event.answeredBy (fails : CString → Bool) : Event → Bool
  | .called .sql succeeded => succeeded
  | .removed date result => decide (result ≠ 0) == fails date
  | _ => true

/-- So it was from one state of the writer to a later one. -/
def Answered (fails : CString → Bool) (before after : State) : Prop :=
  ∀ moment ∈ since before.trace after.trace,
    moment.event.answeredBy fails = true

instance (fails : CString → Bool) (before after : State) :
    Decidable (Answered fails before after) :=
  inferInstanceAs (Decidable (∀ moment ∈ _, _))

/-- The last thing recorded was answered so. -/
theorem Answered.last
    {fails : CString → Bool} {before after : State} {event : Event}
    (answered : Answered fails before (after.log event))
    (grown : before.trace <:+ after.trace) :
    event.answeredBy fails = true := by
  apply answered ⟨event, after.ws, after.disk⟩
  obtain ⟨recent, same⟩ := grown
  rw [State.trace_log, ← same, ← List.cons_append, since_append]
  exact List.mem_cons_self

theorem Answered.between
    {fails : CString → Bool} {first second third fourth : State}
    (answered : Answered fails first fourth)
    (start : first.trace <:+ second.trace)
    (middle : second.trace <:+ third.trace)
    (finish : third.trace <:+ fourth.trace) :
    Answered fails second third := fun moment member =>
  answered moment (mem_since_of_between start middle finish member)

/-- Every pending day whose removal does not fail has lost its directory and its
row, and every other pending day is pending still. -/
def Clears (fails : CString → Bool) (before after : Disk) : Prop :=
  ∀ date, before.isPending date = true →
    (fails date = false → after.day date = none ∧ ¬after.hasRow date) ∧
      (fails date = true → after.isPending date = true)

/-- In the order of the table, no pending day whose removal fails comes before
one whose removal does not. -/
def Unblocked (fails : CString → Bool) (rows : List MetaRow) : Prop :=
  (MetaRow.pendingDates rows).Pairwise fun earlier later =>
    fails earlier = true → fails later = true

instance (fails : CString → Bool) (rows : List MetaRow) :
    Decidable (Unblocked fails rows) :=
  inferInstanceAs (Decidable (List.Pairwise _ _))

/-- The pending days in front of the first one whose removal fails. -/
def reachable (fails : CString → Bool) (rows : List MetaRow) :
    List CString :=
  (MetaRow.pendingDates rows).takeWhile fun date => !fails date

theorem length_reachable_le (fails : CString → Bool) (rows : List MetaRow) :
    (reachable fails rows).length ≤ (MetaRow.pendingDates rows).length :=
  (List.takeWhile_prefix _).length_le

/-- A list in which no failing element comes before another one is reached as a
whole. -/
theorem mem_takeWhile_iff_pairwise
    {dates : List CString} (nodup : dates.Nodup) (fails : CString → Bool) :
    (∀ date ∈ dates, fails date = false →
      date ∈ dates.takeWhile fun date => !fails date) ↔
    dates.Pairwise fun earlier later =>
      fails earlier = true → fails later = true := by
  induction dates with
  | nil => simp
  | cons first others inductionHypothesis =>
      obtain ⟨fresh, nodup⟩ := List.nodup_cons.mp nodup
      rw [List.pairwise_cons, ← inductionHypothesis nodup]
      cases failing : fails first with
      | true =>
          rw [List.takeWhile_cons_of_neg (by simp [failing])]
          constructor
          · intro every
            refine ⟨fun date member _ => ?_, fun date member passes => ?_⟩
            · by_contra passes
              exact absurd (every date (List.mem_cons_of_mem _ member)
                (Bool.eq_false_iff.mpr passes)) List.not_mem_nil
            · exact absurd (every date (List.mem_cons_of_mem _ member) passes)
                List.not_mem_nil
          · rintro ⟨allFail, _⟩ date member passes
            rcases List.mem_cons.mp member with rfl | later
            · rw [failing] at passes
              exact nomatch passes
            · rw [allFail date later rfl] at passes
              exact nomatch passes
      | false =>
          rw [List.takeWhile_cons_of_pos (by simp [failing])]
          constructor
          · intro every
            refine ⟨fun _ _ => nofun, fun date member passes => ?_⟩
            rcases List.mem_cons.mp
              (every date (List.mem_cons_of_mem _ member) passes) with
              rfl | reached
            · exact absurd member fresh
            · exact reached
          · rintro ⟨_, every⟩ date member passes
            rcases List.mem_cons.mp member with rfl | later
            · exact List.mem_cons_self
            · exact List.mem_cons_of_mem _ (every date later passes)

namespace Disk

/-- A missing day stays missing when another one is removed in part. -/
theorem day_removePart_of_none
    {disk : Disk} {date : CString} (missing : disk.day date = none)
    (removed : CString) (removal : Removal) :
    (disk.removePart removed removal).day date = none := by
  unfold removePart
  split
  · exact missing
  · rename_i day present
    rw [day_setDay, if_neg ?_]
    · exact missing
    · rintro rfl
      exact nomatch missing.symm.trans present

theorem day_removeDay_of_none
    {disk : Disk} {date : CString} (missing : disk.day date = none)
    (removed : CString) :
    (disk.removeDay removed).day date = none := by
  by_cases same : date = removed
  · rw [same]
    exact AList.lookup_erase removed _
  · exact (AList.lookup_erase_ne same).trans missing

end Disk

namespace Storage

open Program

/-- What `remove_path_tree` on a day leaves behind, with its result. -/
structure Removed
    (date : CString) (before : State) (result : Int) (after : State) :
    Prop where
  grown : before.trace <:+ after.trace
  ws : after.ws = before.ws
  table : after.disk.videoMetadata = before.disk.videoMetadata
  missing : ∀ other, before.disk.day other = none →
    after.disk.day other = none
  gone : result = 0 → after.disk.day date = none

/-- The removal itself. -/
theorem removeRecursive_removed (date : CString) (state : State) :
    (removeRecursive date).wp (Removed date state) (fun _ => True) state := by
  rw [removeRecursive, wp_bind, wp_answer]
  refine ⟨trivial, fun progress => ?_⟩
  rw [wp_bind, wp_setDisk, wp_bind, wp_call]
  refine ⟨trivial, fun finished _ => ?_⟩
  have table : ∀ removal,
      (state.disk.removePart date removal).videoMetadata =
        state.disk.videoMetadata := by
    intro removal
    unfold Disk.removePart
    split <;> rfl
  have missing : ∀ other, state.disk.day other = none →
      (state.disk.removePart date progress.removal).day other = none :=
    fun _ none => Disk.day_removePart_of_none none date _
  apply wp_split
  · exact fun _ => ⟨List.suffix_cons _ _, rfl, table _, missing,
      fun zero => absurd zero (by decide)⟩
  · intro _
    rw [wp_bind, wp_setDisk]
    exact ⟨List.suffix_cons _ _, rfl, table _,
      fun other none => Disk.day_removeDay_of_none (missing other none) date,
      fun _ => AList.lookup_erase date _⟩

/-- Its result is the last thing that `remove_path_tree` records. -/
theorem removePathTree_removed (date : CString) (state : State) :
    (removePathTree date).wp
      (fun result after => ∃ last, Removed date state result last ∧
        after = last.log (.removed date result))
      (fun _ => True) state := by
  rw [removePathTree, wp_bind, wp_log, wp_bind, wp_call]
  refine ⟨trivial, fun found _ => ?_⟩
  rw [wp_bind, wp_current]
  have grown : state.trace <:+
      ((state.log (.removing date)).log (.called .lstat found.ok)).trace :=
    (List.suffix_cons _ _).trans (List.suffix_cons _ _)
  refine wp_via (Removed date state) ?_ fun result last removed => ?_
  · apply wp_split
    · exact fun _ => ⟨grown, rfl, rfl, fun _ none => none,
        fun zero => absurd zero (by decide)⟩
    · intro _
      apply wp_split
      · exact fun missing => ⟨grown, rfl, rfl, fun _ none => none,
          fun _ => Option.isNone_iff_eq_none.mp missing⟩
      · intro _
        refine wp_mono (removeRecursive_removed date _) ?_ fun _ _ => trivial
        intro result after removed
        exact ⟨grown.trans removed.grown, removed.ws, removed.table,
          removed.missing, removed.gone⟩
  · rw [wp_bind, wp_log]
    exact ⟨last, removed, rfl⟩

/-- The days that a number of rounds delete. -/
def clearedDates
    (fails : CString → Bool) (budget : Nat) (rows : List MetaRow) :
    List CString :=
  (reachable fails rows).take budget

/-- What working off the pending days leaves behind when certain days are
deleted. -/
structure Worked
    (cleared : List CString) (before after : State) : Prop where
  rows : after.disk.metaRows =
    before.disk.metaRows.filter fun row => row.date ∉ cleared
  gone : ∀ date ∈ cleared, after.disk.day date = none
  missing : ∀ date, before.disk.day date = none →
    after.disk.day date = none

theorem Worked.none
    {before after : State}
    (rows : after.disk.metaRows = before.disk.metaRows)
    (missing : ∀ date, before.disk.day date = none →
      after.disk.day date = none) :
    Worked [] before after where
  rows := by simpa using rows
  gone _ member := absurd member List.not_mem_nil
  missing := missing

/-- A round that deletes a day, and the rounds after it. -/
theorem Worked.cons
    {date : CString} {cleared : List CString} {before between after : State}
    (later : Worked cleared between after)
    (rows : between.disk.metaRows =
      MetaRow.delete date before.disk.metaRows)
    (gone : between.disk.day date = Option.none)
    (missing : ∀ other, before.disk.day other = Option.none →
      between.disk.day other = Option.none) :
    Worked (date :: cleared) before after where
  rows := by
    rw [later.rows, rows, MetaRow.delete, List.filter_filter]
    apply List.filter_congr
    intro row _
    simp only [List.mem_cons, not_or, Bool.decide_and, Bool.and_comm]
  gone other member := by
    rcases List.mem_cons.mp member with rfl | earlier
    · exact later.missing other gone
    · exact later.gone other earlier
  missing other absent := later.missing other (missing other absent)

/-- Each round deletes the first of the pending days, as long as its removal does
not fail. -/
theorem retentionProcessTasks_worked
    (fails : CString → Bool) (budget : Nat)
    {state : State}
    (ready : state.metaReady = true)
    (kept : MetaRow.WellKept state.disk.metaRows) :
    (retentionProcessTasks budget).wp
      (fun _ after => state.trace <:+ after.trace ∧
        (Answered fails state after →
          Worked (clearedDates fails budget state.disk.metaRows) state after))
      (fun _ => True) state := by
  induction budget generalizing state with
  | zero =>
      exact ⟨List.suffix_rfl, fun _ => .none rfl fun _ none => none⟩
  | succ budget inductionHypothesis =>
      rw [retentionProcessTasks, wp_bind, wp_call]
      refine ⟨trivial, fun selected _ => ?_⟩
      have selectedLast : state.trace <:+
          (state.log (.called .sql selected.ok)).trace := List.suffix_cons _ _
      apply wp_split
      · intro failed
        refine ⟨selectedLast, fun answered => ?_⟩
        have ok : selected.ok = true := answered.last List.suffix_rfl
        rw [ok] at failed
        cases failed
      intro _
      rw [wp_bind, wp_current]
      have pending := MetaRow.firstPending_eq_head? state.disk.metaRows
      cases dates : MetaRow.pendingDates state.disk.metaRows with
      | nil =>
          rw [dates] at pending
          rw [State.disk_log, pending]
          refine ⟨selectedLast, fun _ => ?_⟩
          rw [clearedDates, reachable, dates]
          exact .none rfl fun _ none => none
      | cons date others =>
          rw [dates] at pending
          rw [State.disk_log, pending]
          have member : date ∈ MetaRow.pendingDates state.disk.metaRows :=
            dates ▸ List.mem_cons_self
          obtain ⟨row, isRow, rfl, _⟩ := MetaRow.mem_pendingDates.mp member
          apply wp_split
          · exact fun empty => absurd empty (kept.named row isRow)
          intro _
          refine wp_then (removePathTree_removed row.date _) ?_
          rintro result _ ⟨last, removed, rfl⟩
          have removedLast : state.trace <:+ last.trace :=
            selectedLast.trans removed.grown
          have rows : last.disk.metaRows = state.disk.metaRows := by
            rw [Disk.metaRows, removed.table]
            rfl
          apply wp_split
          · -- The loop leaves here.
            intro failed
            refine ⟨removedLast.trans (List.suffix_cons _ _),
              fun answered => ?_⟩
            have failing := answered.last removedLast
            rw [clearedDates, reachable, dates, List.takeWhile_cons_of_neg
              (by simpa [Event.answeredBy, failed] using failing)]
            exact .none rows removed.missing
          intro succeeded
          rw [wp_bind, wp_call]
          refine ⟨trivial, fun deleted _ => ?_⟩
          have grown : state.trace <:+
              ((last.log (.removed row.date result)).log
                (.called .sql deleted.ok)).trace :=
            (removedLast.trans (List.suffix_cons _ _)).trans
              (List.suffix_cons _ _)
          apply wp_split
          · intro failed
            refine ⟨grown, fun answered => ?_⟩
            have ok : deleted.ok = true :=
              answered.last (removedLast.trans (List.suffix_cons _ _))
            rw [ok] at failed
            cases failed
          intro _
          rw [wp_bind, wp_setDisk, wp_bind, wp_log]
          have table : last.disk.videoMetadata.isSome = true := by
            rw [removed.table]
            exact (Bool.and_eq_true_iff.mp ready).2
          have left := (Disk.metaRows_updateMeta last.disk table).trans
            (congrArg (MetaRow.delete row.date) rows)
          refine wp_mono (inductionHypothesis ?_ ?_) ?_ fun _ _ => trivial
          · change (last.ws.metaDb && _) = true
            rw [removed.ws]
            refine Bool.and_eq_true_iff.mpr
              ⟨(Bool.and_eq_true_iff.mp ready).1, ?_⟩
            exact Option.isSome_map.trans table
          · exact left ▸ kept.filter _
          rintro _ after ⟨later, worked⟩
          have deletedLast := (List.suffix_cons _ _).trans later
          refine ⟨grown.trans deletedLast, fun answered => ?_⟩
          have passing := (answered.between List.suffix_rfl
            (removedLast.trans (List.suffix_cons _ _))
            ((List.suffix_cons _ _).trans deletedLast)).last removedLast
          have rest := (worked (answered.between (grown.trans
            (List.suffix_cons _ _)) later List.suffix_rfl)).cons left
            (removed.gone (not_not.mp succeeded)) removed.missing
          have cleared : clearedDates fails (budget + 1)
              state.disk.metaRows = row.date :: clearedDates fails budget
                (MetaRow.delete row.date state.disk.metaRows) := by
            rw [clearedDates, reachable, dates, List.takeWhile_cons_of_pos
              (by simpa [Event.answeredBy, not_not.mp succeeded]
                using passing), List.take_succ_cons, clearedDates, reachable,
              MetaRow.pendingDates_delete kept dates]
          rw [cleared]
          rw [← left]
          exact rest

/-- Where days were worked off, the pending ones are cleared exactly when all of
them were reached whose removal does not fail. -/
theorem Worked.clears_iff
    {fails : CString → Bool} {before after : State}
    (worked : Worked (reachable fails before.disk.metaRows) before after) :
    Clears fails before.disk after.disk ↔
      ∀ date ∈ MetaRow.pendingDates before.disk.metaRows,
        fails date = false → date ∈ reachable fails before.disk.metaRows := by
  have stays : ∀ row ∈ before.disk.metaRows,
      row.date ∉ reachable fails before.disk.metaRows →
        row ∈ after.disk.metaRows := by
    intro row member outside
    rw [worked.rows]
    exact List.mem_filter.mpr ⟨member, decide_eq_true outside⟩
  constructor
  · intro clears date pending passes
    obtain ⟨row, member, rfl, _⟩ := MetaRow.mem_pendingDates.mp pending
    by_contra outside
    have noRow := ((clears row.date (isPending_iff_mem.mpr pending)).1 passes).2
    exact noRow ⟨row, stays row member outside, rfl⟩
  · intro reaches date pending
    have listed := isPending_iff_mem.mp pending
    refine ⟨fun passes => ?_, fun failing => ?_⟩
    · have reached := reaches date listed passes
      refine ⟨worked.gone date reached, ?_⟩
      rintro ⟨row, member, rfl⟩
      rw [worked.rows, List.mem_filter] at member
      exact absurd reached (of_decide_eq_true member.2)
    · obtain ⟨row, member, rfl, isPending⟩ := MetaRow.mem_pendingDates.mp listed
      apply isPending_iff_mem.mpr
      refine MetaRow.mem_pendingDates.mpr
        ⟨row, stays row member fun reached => ?_, rfl, isPending⟩
      have passes := List.mem_takeWhile_imp reached
      rw [failing] at passes
      exact nomatch passes

/-! ## Every call returns -/

theorem call_returns (kind : Call) (possible : State → Bool) :
    (call kind possible).Returns 1 :=
  Returns.bindAnswer fun _ => Returns.bindCurrent fun _ =>
    Returns.bindModify (Returns.pure _)

theorem returns_bindCall
    {kind : Call} {possible : State → Bool}
    {rest : Choice → Storage α} {most : Nat}
    (later : ∀ choice, (rest choice).Returns most) :
    (call kind possible >>= rest).Returns (most + 1) :=
  Nat.add_comm 1 most ▸ (call_returns kind possible).bind later

theorem removeRecursive_returns (date : CString) :
    (removeRecursive date).Returns 2 := by
  rw [removeRecursive]
  apply Returns.bindAnswer
  intro progress
  apply Returns.bindModify
  apply returns_bindCall
  intro finished
  exact Returns.ite (Returns.pure _) (Returns.bindModify (Returns.pure _))

theorem removePathTree_returns (date : CString) :
    (removePathTree date).Returns 3 := by
  rw [removePathTree]
  apply Returns.bindModify
  apply returns_bindCall
  intro found
  apply Returns.bindCurrent
  intro state
  refine @Returns.bind _ _ _ _ _ _ 2 0 ?_ fun result =>
    Returns.bindModify (Returns.pure _)
  apply Returns.ite (Returns.pure _)
  exact Returns.ite (Returns.pure _) (removeRecursive_returns date)

/-- A round makes at most five calls. -/
theorem retentionProcessTasks_returns (budget : Nat) :
    (retentionProcessTasks budget).Returns (5 * budget) := by
  induction budget with
  | zero => exact Returns.pure ()
  | succ budget inductionHypothesis =>
      have rounds : 5 * (budget + 1) = 3 + (5 * budget + 1) + 1 := by omega
      rw [retentionProcessTasks, rounds]
      apply returns_bindCall
      intro selected
      apply Returns.ite (Returns.pure ())
      apply Returns.bindCurrent
      intro state
      split
      · exact Returns.pure ()
      · apply Returns.ite (Returns.pure ())
        refine (removePathTree_returns _).bind fun result => ?_
        apply Returns.ite (Returns.pure ())
        apply returns_bindCall
        intro deleted
        apply Returns.ite (Returns.pure ())
        exact Returns.bindModify (Returns.bindModify inductionHypothesis)

end Storage

/-- With as many rounds as there are pending days, whatever the table holds and
whichever removals fail, `retention_process_tasks` returns, and it deletes the
files and the row of every pending day but the failing ones exactly when no
failing one comes before another one in the table. -/
theorem pending_days_cleared_iff
    (fails : CString → Bool)
    {state : State}
    (ready : state.metaReady = true)
    (kept : MetaRow.WellKept state.disk.metaRows)
    {script : List Choice}
    (enough : 5 * (MetaRow.pendingDates state.disk.metaRows).length ≤
      script.length) :
    ∃ after rest,
      (Storage.retentionProcessTasks
        (MetaRow.pendingDates state.disk.metaRows).length).run state script =
          .done () after rest ∧
      (Answered fails state after →
        (Clears fails state.disk after.disk ↔
          Unblocked fails state.disk.metaRows)) := by
  obtain ⟨_, after, rest, ran⟩ :=
    (Storage.retentionProcessTasks_returns _).run state enough
  refine ⟨after, rest, ran, fun answered => ?_⟩
  have worked := (Program.wp_iff_run _ _ _ _).mp
    (Storage.retentionProcessTasks_worked fails
      (MetaRow.pendingDates state.disk.metaRows).length ready kept) script
  rw [ran] at worked
  have cleared := worked.2 answered
  rw [Storage.clearedDates,
    List.take_of_length_le (length_reachable_le fails _)] at cleared
  exact cleared.clears_iff.trans
    (mem_takeWhile_iff_pairwise kept.nodup_pendingDates fails)

/-- Two pending days, the first of which cannot be removed: both rounds are given
to it, and the second day keeps its files and its row. -/
theorem undeletable_day_blocks_next :
    let first := "2024-01-01".toList
    let second := "2024-01-02".toList
    let fails : CString → Bool := fun date => date = first
    let table : Disk :=
      { dcim := true
        videoMetadata := some [{ date := first, state := .pending },
          { date := second, state := .pending }] }
    let state : State :=
      { ws := { metaDb := true }
        disk := (table.mkdir (.day first)).mkdir (.day second) }
    let script : List Choice :=
      List.replicate 3 ({} : Choice) ++ List.replicate 7 { ok := false }
    let outcome := (Storage.retentionProcessTasks 2).run state script
    state.metaReady = true ∧ MetaRow.WellKept state.disk.metaRows ∧
      outcome.value = some () ∧ Answered fails state outcome.state ∧
        ¬Clears fails state.disk outcome.state.disk := by
  intro first second fails table state script outcome
  refine ⟨rfl, ⟨by decide +kernel, by decide +kernel⟩, by decide +kernel,
    by decide +kernel, fun clears => ?_⟩
  have cleared := (clears second (by decide +kernel)).1 (by decide +kernel)
  exact absurd cleared.2 (by decide +kernel)

/-- The day that cannot be removed is the second one. -/
theorem pending_days_cleared_iff_second_fails :
    let first := "2024-01-01".toList
    let second := "2024-01-02".toList
    let fails : CString → Bool := fun date => date = second
    let table : Disk :=
      { dcim := true
        videoMetadata := some [{ date := first, state := .pending },
          { date := second, state := .pending }] }
    let state : State :=
      { ws := { metaDb := true }
        disk := (table.mkdir (.day first)).mkdir (.day second) }
    let script : List Choice :=
      List.replicate 8 ({} : Choice) ++ List.replicate 2 { ok := false }
    let after := ((Storage.retentionProcessTasks 2).run state script).state
    Answered fails state after ∧ Clears fails state.disk after.disk := by
  intro first second fails table state script after
  obtain ⟨_, rest, ran, iff⟩ := @pending_days_cleared_iff fails state rfl
    ⟨by decide +kernel, by decide +kernel⟩ script (by decide +kernel)
  have same : after = ((Storage.retentionProcessTasks 2).run state
      script).state := rfl
  have answered : Answered fails state after := by decide +kernel
  rw [show (MetaRow.pendingDates state.disk.metaRows).length = 2 by
    decide +kernel] at ran
  rw [ran] at same
  subst same
  refine ⟨answered, (iff answered).mpr ?_⟩
  decide +kernel

end MotionSense
