import MotionSense.Foundations.FileSystem
import MotionSense.Foundations.Program
import MotionSense.Storage.Disk

/-!
# Replacing a file at once

`write_file_atomic` of `storage.c` with `write_all` and `fsync_parent_dir` of
`utils.c`, one system call after the other.  The process may be cut off between
any two of them.
-/

namespace MotionSense

namespace AtomicFile

/-- What one call of `write` returns: a number of bytes, `EINTR` or another
error. -/
inductive WriteResult
  | wrote (count : Nat)
  | interrupted
  | failed
  deriving DecidableEq

/-- How a call turns out. -/
structure Answer where
  ok : Bool := true
  /-- The six characters that `mkstemp` puts in. -/
  suffix : CString := []
  /-- What the calls of `write` return until the last of them or until the process
  is cut off. -/
  writes : List WriteResult := []

variable {β : Type}

/-- Programs on the files of the card. -/
abbrev Posix (β : Type) := Program Answer (FileSystem CString β)

/-- `sizeof(tmp)` of `write_file_atomic`. -/
def tmpPathSize : Nat := 192

/-- The name that `mkstemp` makes of the template. -/
def tmpName (path suffix : CString) : CString :=
  path ++ ".tmp.".toList ++ suffix

/-- The directory of a path, up to its last slash. -/
def dirOf (path : CString) : Option CString :=
  match path.reverse.dropWhile fun char => char ≠ '/' with
  | [] => none
  | _ :: front => some (if front = [] then ['/'] else front.reverse)

/-- A call without an effect. -/
def attempt : Posix β Bool := do
  let answer ← Program.answer
  return answer.ok

/-- `mkstemp`, which returns a fresh name. -/
def mkstemp (path : CString) : Posix β (Option (CString × Nat)) := do
  let answer ← Program.answer
  let fs ← Program.current
  let tmp := tmpName path answer.suffix
  let fresh := answer.suffix.length = 6 &&
    answer.suffix.all Char.isAlphanum && (fs.entry tmp).isNone
  if !(answer.ok && fresh) then return none
  Program.modify fun fs => fs.create tmp
  return some (tmp, fs.next)

/-- `write_all`, given what its calls of `write` return. -/
def writeAllWith (file : Nat) : List WriteResult → List β → Posix β Int
  | _, [] => return 0
  | [], _ :: _ => Program.halt
  | .interrupted :: results, data => writeAllWith file results data
  | .failed :: _, _ :: _ => return -1
  | .wrote count :: results, data => do
      Program.modify fun fs => fs.append file (data.take count)
      writeAllWith file results (data.drop count)

/-- `write_all`. -/
def writeAll (file : Nat) (data : List β) : Posix β Int := do
  let answer ← Program.answer
  writeAllWith file answer.writes data

/-- `fsync` of a file. -/
def fsync (file : Nat) : Posix β Int := do
  let answer ← Program.answer
  if !answer.ok then return -1
  Program.modify fun fs => fs.sync file
  return 0

/-- `close`. -/
def close : Posix β Int := do
  let closed ← attempt
  return if closed then 0 else -1

/-- `failpoint_hit`, for whatever the environment holds. -/
def failpointHit (_name : String) : Posix β Bool := do
  let passed ← attempt
  return !passed

/-- `rename`. -/
def rename (source target : CString) : Posix β Int := do
  let answer ← Program.answer
  if !answer.ok then return -1
  Program.modify fun fs => fs.rename source target
  return 0

/-- `fsync_parent_dir`. -/
def fsyncParentDir (path : CString) : Posix β Int := do
  if path.length = 0 || path.length ≥ 160 then return -1
  match dirOf path with
  | none => return -1
  | some dir =>
      let opened ← attempt
      if !opened then return -1
      let answer ← Program.answer
      (if answer.ok then
        Program.modify fun fs => fs.syncNames fun name => dirOf name = some dir
      else return ())
      let _ ← close
      return if answer.ok then 0 else -1

/-- `if (rc == 0 && …) rc = -1`. -/
def orFail (rc : Int) (fails : Posix β Bool) : Posix β Int := do
  if rc ≠ 0 then return rc
  let failed ← fails
  return if failed then -1 else 0

/-- A call that returns an error code fails. -/
def nonzero (program : Posix β Int) : Posix β Bool := do
  let result ← program
  return result ≠ 0

/-- `if (close(fd) != 0) rc = -1`. -/
def closing (rc : Int) : Posix β Int := do
  let closed ← close
  return if closed ≠ 0 then -1 else rc

/-- `write_file_atomic` behind `mkstemp`. -/
def fillAndRename
    (path : CString) (data : List β) (tmp : CString) (file : Nat) :
    Posix β Int := do
  let rc ← orFail 0 (nonzero (writeAll file data))
  let rc ← orFail rc (nonzero (fsync file))
  let rc ← closing rc
  let rc ← orFail rc (failpointHit "write-before-rename")
  let rc ← orFail rc (nonzero (rename tmp path))
  let rc ← orFail rc (failpointHit "write-after-rename")
  let rc ← orFail rc (nonzero (fsyncParentDir path))
  if rc ≠ 0 then
    Program.modify fun fs => fs.unlink tmp
    return -1
  return 0

/-- `write_file_atomic`. -/
def writeFileAtomic (path : CString) (data : List β) : Posix β Int := do
  if path.length + ".tmp.XXXXXX".length ≥ tmpPathSize then return -1
  let made ← mkstemp path
  match made with
  | none => return -1
  | some (tmp, file) => fillAndRename path data tmp file

/-! ## The files before and after the rename -/

/-- A name that is neither the path nor one that `mkstemp` could take. -/
def Apart
    (before : FileSystem CString β) (path name : CString) : Prop :=
  name ≠ path ∧ ((before.entry name).isSome = true ∨
    ∀ suffix : CString, suffix.length = 6 → name ≠ tmpName path suffix)

/-- A path holds what it has held, or exactly the new data, and so it does after a
crash.  Files of other names are as they were. -/
structure AllOrNothing
    (before : FileSystem CString β) (path : CString) (data : List β)
    (after : FileSystem CString β) : Prop where
  now : after.read path = before.read path ∨ after.read path = some data
  crash : ∀ found, after.Survives path found →
    before.Survives path found ∨ found = some data
  grows : before.Grows after
  others : ∀ name, Apart before path name → before.Keeps after name

/-- The temporary file is there, and nothing else has changed. -/
structure Temporary
    (before : FileSystem CString β) (tmp : CString) (file : Nat)
    (after : FileSystem CString β) : Prop where
  grows : before.Grows after
  fresh : before.next ≤ file
  entry : after.entry tmp = some file
  others : ∀ name, name ≠ tmp → before.Keeps after name

/-- The file has replaced what the path has denoted, and is synced. -/
structure Replaced
    (before : FileSystem CString β) (path tmp : CString) (data : List β)
    (after : FileSystem CString β) : Prop where
  grows : before.Grows after
  found : ∃ file, after.entry path = some file ∧ after.content file = data ∧
    after.synced file = true
  past : ∀ old ∈ after.unsynced path,
    old ∈ before.entry path :: before.unsynced path
  gone : after.entry tmp = none
  others : ∀ name, name ≠ tmp → name ≠ path → before.Keeps after name

section Files

variable {before after : FileSystem CString β} {path tmp : CString}
  {data : List β} {file : Nat}

theorem temporary_create (name : CString) :
    Temporary before name before.next (before.create name) where
  grows := before.grows_create name
  fresh := le_rfl
  entry := Function.update_self _ _ _
  others := fun _ different => before.keeps_create different

namespace Temporary

variable (temporary : Temporary before tmp file after)

include temporary

theorem append (bytes : List β) :
    Temporary before tmp file (after.append file bytes) where
  grows := after.grows_append temporary.fresh temporary.grows bytes
  fresh := temporary.fresh
  entry := temporary.entry
  others := fun name different =>
    ⟨(temporary.others name different).entry,
      (temporary.others name different).unsynced⟩

theorem sync : Temporary before tmp file (after.sync file) where
  grows := after.grows_sync temporary.fresh temporary.grows
  fresh := temporary.fresh
  entry := temporary.entry
  others := fun name different =>
    ⟨(temporary.others name different).entry,
      (temporary.others name different).unsynced⟩

theorem rename
    (different : path ≠ tmp) (filled : after.content file = data)
    (synced : after.synced file = true) :
    Replaced before path tmp data (after.rename tmp path) := by
  have keeps := temporary.others path different
  unfold FileSystem.rename
  rw [if_neg (by rw [temporary.entry]; exact Bool.false_ne_true)]
  refine ⟨temporary.grows.trans ((after.grows_setEntry path _ _).trans
    (FileSystem.grows_setEntry _ tmp _ _)), ⟨file, ?_, filled, synced⟩, ?_,
    Function.update_self _ _ _, ?_⟩
  · change Function.update (Function.update after.entry path _) tmp none path = _
    rw [Function.update_of_ne different, Function.update_self, temporary.entry]
  · intro old member
    change old ∈ Function.update (Function.update after.unsynced path _) tmp _
      path at member
    rw [Function.update_of_ne different, Function.update_self] at member
    exact keeps.past old member
  · intro name notTmp notPath
    exact (temporary.others name notTmp).trans
      ((after.keeps_setEntry notPath).trans
        (FileSystem.keeps_setEntry _ notTmp))

theorem allOrNothing
    (different : path ≠ tmp)
    (apart : ∀ name, Apart before path name → name ≠ tmp) :
    AllOrNothing before path data after where
  now := Or.inl (temporary.grows.read (temporary.others path different))
  crash := fun _ survives => Or.inl
    (temporary.grows.survives (temporary.others path different).past survives)
  grows := temporary.grows
  others := fun name other => temporary.others name (apart name other)

/-- Removing the temporary file leaves all names as they were. -/
theorem entry_unlink
    (absent : before.entry tmp = none) {name : CString} :
    (after.unlink tmp).entry name = before.entry name := by
  by_cases same : name = tmp
  · rw [same, after.entry_unlink, absent]
  · exact (after.keeps_unlink same).entry.trans
      (temporary.others name same).entry

theorem allOrNothing_unlink
    (different : path ≠ tmp)
    (apart : ∀ name, Apart before path name → name ≠ tmp) :
    AllOrNothing before path data (after.unlink tmp) := by
  have grows := temporary.grows.trans (after.grows_unlink tmp)
  have keeps : ∀ name, name ≠ tmp → before.Keeps (after.unlink tmp) name :=
    fun name other => (temporary.others name other).trans
      (after.keeps_unlink other)
  exact ⟨Or.inl (grows.read (keeps path different)),
    fun _ survives => Or.inl
      (grows.survives (keeps path different).past survives),
    grows, fun name other => keeps name (apart name other)⟩

end Temporary

namespace Replaced

variable (replaced : Replaced before path tmp data after)

include replaced

theorem allOrNothing
    (apart : ∀ name, Apart before path name → name ≠ tmp) :
    AllOrNothing before path data after := by
  obtain ⟨file, denotes, content, synced⟩ := replaced.found
  refine ⟨Or.inr (by rw [FileSystem.read, denotes, Option.map_some, content]),
    ?_, replaced.grows, fun name other =>
      replaced.others name (apart name other) other.1⟩
  rintro found ⟨other, member, survives⟩
  rcases List.mem_cons.mp member with rfl | earlier
  · rw [denotes] at survives
    obtain ⟨bytes, rfl, same⟩ := survives
    exact Or.inr (by rw [same synced, content])
  · have old := replaced.past other earlier
    refine Or.inl ⟨other, old, (replaced.grows.fileSurvives ?_ found).mp
      survives⟩
    rcases List.mem_cons.mp old with rfl | past
    · exact before.entry_lt path
    · exact before.unsynced_lt path other past

theorem syncNames (holds : CString → Bool) :
    Replaced before path tmp data (after.syncNames holds) where
  grows := replaced.grows.trans (after.grows_syncNames holds)
  found := replaced.found
  past := fun old member =>
    replaced.past old ((after.keeps_syncNames holds path).unsynced old member)
  gone := replaced.gone
  others := fun name notTmp notPath => (replaced.others name notTmp notPath).trans
    (after.keeps_syncNames holds name)

/-- Names other than the path are as they were. -/
theorem entry
    (absent : before.entry tmp = none) {name : CString} (other : name ≠ path) :
    after.entry name = before.entry name := by
  by_cases same : name = tmp
  · rw [same, replaced.gone, absent]
  · exact (replaced.others name same other).entry

theorem durable (alone : after.unsynced path = []) :
    after.Durable path data := by
  obtain ⟨file, denotes, content, synced⟩ := replaced.found
  rw [← content]
  exact after.durable_of_synced denotes synced alone

/-- There is no temporary file to remove. -/
theorem unlink : after.unlink tmp = after := by
  unfold FileSystem.unlink
  rw [if_pos (by rw [replaced.gone]; rfl)]

end Replaced

end Files

/-! ## The calls -/

open Program

section Calls

variable {before after fs : FileSystem CString β} {path tmp : CString}
  {data : List β} {file : Nat}

/-- A call without an effect may come out either way. -/
theorem wp_attempt
    {post : Bool → FileSystem CString β → Prop}
    {stopped : FileSystem CString β → Prop}
    (stops : stopped fs) (either : ∀ ok, post ok fs) :
    (attempt : Posix β Bool).wp post stopped fs :=
  ⟨stops, fun answer => either answer.ok⟩

theorem rc_eq_zero
    {result : Int} (zero : (if result = 0 then 0 else -1 : Int) = 0) :
    result = 0 := by
  by_contra failed
  rw [if_neg failed] at zero
  cases zero

/-- `rc` stays as it is, or becomes that of a call. -/
theorem wp_orFail
    {rc : Int} {program : Posix β Int}
    {post : Int → FileSystem CString β → Prop}
    {stopped : FileSystem CString β → Prop}
    (failed : rc ≠ 0 → post rc fs)
    (goesOn : rc = 0 → program.wp
      (fun result after => post (if result = 0 then 0 else -1) after)
      stopped fs) :
    (orFail rc (nonzero program)).wp post stopped fs := by
  refine wp_split failed fun zero => ?_
  rw [wp_bind, nonzero, wp_bind]
  refine wp_mono (goesOn (not_not.mp zero)) (fun result after holds => ?_)
    fun _ stops => stops
  rw [wp_pure, wp_pure]
  by_cases success : result = 0
  · rw [if_pos success] at holds
    rw [if_neg (by simpa using success)]
    exact holds
  · rw [if_neg success] at holds
    rw [if_pos (by simpa using success)]
    exact holds

/-- A failpoint may be hit or not. -/
theorem wp_failpoint
    {rc : Int} {name : String}
    {post : Int → FileSystem CString β → Prop}
    {stopped : FileSystem CString β → Prop}
    (failed : rc ≠ 0 → post rc fs)
    (goesOn : rc = 0 → stopped fs ∧ post 0 fs ∧ post (-1) fs) :
    (orFail rc (failpointHit name)).wp post stopped fs := by
  refine wp_split failed fun zero => ?_
  obtain ⟨stops, passes, hits⟩ := goesOn (not_not.mp zero)
  rw [wp_bind, failpointHit, wp_bind]
  refine wp_attempt stops fun passed => ?_
  cases passed with
  | true => exact passes
  | false => exact hits

/-- However the writes turn out, the file gets all the data or the call fails. -/
theorem wp_writeAllWith
    (results : List WriteResult) {done rest : List β}
    (temporary : Temporary before tmp file fs)
    (content : fs.content file = done) :
    (writeAllWith file results rest).wp
      (fun rc after => Temporary before tmp file after ∧
        (rc = 0 → after.content file = done ++ rest))
      (Temporary before tmp file) fs := by
  induction results generalizing done rest fs with
  | nil =>
      cases rest with
      | nil => exact ⟨temporary, fun _ => by rw [content, List.append_nil]⟩
      | cons byte rest => exact temporary
  | cons result results inductionHypothesis =>
      cases rest with
      | nil => exact ⟨temporary, fun _ => by rw [content, List.append_nil]⟩
      | cons byte rest =>
          cases result with
          | interrupted => exact inductionHypothesis temporary content
          | failed => exact ⟨temporary, fun zero => by cases zero⟩
          | wrote count =>
              have content : (fs.append file ((byte :: rest).take count)).content
                  file = done ++ (byte :: rest).take count := by
                change Function.update _ file _ file = _
                rw [Function.update_self, content]
              rw [writeAllWith, wp_bind, wp_modify]
              · refine wp_mono (inductionHypothesis (temporary.append _) content)
                  ?_ fun _ stops => stops
                rintro rc after ⟨still, whole⟩
                rw [List.append_assoc, List.take_append_drop] at whole
                exact ⟨still, whole⟩
              · exact List.cons_ne_nil byte rest

/-- `write_all` on an empty file. -/
theorem wp_writeAll
    (data : List β) (temporary : Temporary before tmp file fs)
    (content : fs.content file = []) :
    (writeAll file data).wp
      (fun rc after => Temporary before tmp file after ∧
        (rc = 0 → after.content file = data))
      (Temporary before tmp file) fs := by
  rw [writeAll, wp_bind, wp_answer]
  exact ⟨temporary, fun answer => wp_writeAllWith answer.writes temporary content⟩

theorem wp_fsync
    (temporary : Temporary before tmp file fs)
    (content : fs.content file = data) :
    (fsync file).wp
      (fun rc after => Temporary before tmp file after ∧
        (rc = 0 → after.content file = data ∧ after.synced file = true))
      (Temporary before tmp file) fs := by
  rw [fsync, wp_bind, wp_answer]
  refine ⟨temporary, fun answer => wp_split (fun _ => ?_) fun _ => ?_⟩
  · exact ⟨temporary, fun zero => by cases zero⟩
  · exact ⟨temporary.sync, fun _ => ⟨content, Function.update_self _ _ _⟩⟩

theorem wp_rename
    (different : path ≠ tmp) (temporary : Temporary before tmp file fs)
    (content : fs.content file = data) (synced : fs.synced file = true) :
    (rename tmp path).wp
      (fun rc after =>
        if rc = 0 then Replaced before path tmp data after
        else Temporary before tmp file after)
      (Temporary before tmp file) fs := by
  rw [rename, wp_bind, wp_answer]
  refine ⟨temporary, fun answer => wp_split (fun _ => temporary) fun _ => ?_⟩
  exact temporary.rename different content synced

/-- When `fsync_parent_dir` succeeds, nothing but the new file survives under the
path. -/
theorem wp_fsyncParentDir (replaced : Replaced before path tmp data fs) :
    (fsyncParentDir path).wp
      (fun rc after => Replaced before path tmp data after ∧
        (rc = 0 → after.unsynced path = []))
      (Replaced before path tmp data) fs := by
  rw [fsyncParentDir]
  refine wp_split (fun _ => ⟨replaced, fun zero => by cases zero⟩) fun _ => ?_
  cases parent : dirOf path with
  | none => exact ⟨replaced, fun zero => by cases zero⟩
  | some dir =>
      rw [wp_bind]
      refine wp_attempt replaced fun opened => ?_
      refine wp_split (fun _ => ⟨replaced, fun zero => by cases zero⟩)
        fun _ => ?_
      rw [wp_bind, wp_answer]
      refine ⟨replaced, fun answer => ?_⟩
      refine wp_via (fun _ reached => Replaced before path tmp data reached ∧
        (answer.ok = true → reached.unsynced path = [])) ?_ ?_
      · refine wp_split (fun _ => ⟨replaced.syncNames _, fun _ => ?_⟩)
          fun failed => ⟨replaced, fun ok => absurd ok failed⟩
        change (if decide (dirOf path = some dir) then [] else _) = []
        rw [if_pos (by simpa using parent)]
      · rintro _ reached ⟨replaced, synced⟩
        rw [wp_bind, close, wp_bind]
        refine wp_attempt replaced fun closed => ⟨replaced, fun zero => ?_⟩
        cases ok : answer.ok with
        | true => exact synced ok
        | false =>
            rw [ok] at zero
            cases zero

/-- Closing may fail, and then the call fails. -/
theorem wp_closing
    {rc : Int} {post : Int → FileSystem CString β → Prop}
    {stopped : FileSystem CString β → Prop}
    (stops : stopped fs) (closed : post rc fs) (failed : post (-1) fs) :
    (closing rc).wp post stopped fs := by
  rw [closing, close, wp_bind, wp_bind]
  refine wp_attempt stops fun ok => ?_
  cases ok with
  | true => exact closed
  | false => exact failed

/-- What the return code says about the files. -/
structure Ends
    (before : FileSystem CString β) (path : CString) (data : List β) (rc : Int)
    (after : FileSystem CString β) : Prop where
  allOrNothing : AllOrNothing before path data after
  names : ∀ name, name ≠ path → after.entry name = before.entry name
  success : rc = 0 → after.Durable path data

/-- What the cleanup finds. -/
def Leftover
    (before : FileSystem CString β) (path tmp : CString) (data : List β)
    (file : Nat) (after : FileSystem CString β) : Prop :=
  Replaced before path tmp data after ∨ Temporary before tmp file after

/-- The cleanup removes the temporary file if it is still there. -/
theorem Leftover.unlink
    (leftover : Leftover before path tmp data file after)
    (different : path ≠ tmp) (absent : before.entry tmp = none)
    (apart : ∀ name, Apart before path name → name ≠ tmp) :
    Ends before path data (-1) (after.unlink tmp) := by
  rcases leftover with replaced | temporary
  · rw [replaced.unlink]
    exact ⟨replaced.allOrNothing apart, fun name other => replaced.entry absent other,
      fun zero => by cases zero⟩
  · exact ⟨temporary.allOrNothing_unlink different apart,
      fun name _ => temporary.entry_unlink absent, fun zero => by cases zero⟩

/-- The temporary file is filled and renamed, or removed. -/
theorem wp_fillAndRename
    (different : path ≠ tmp) (absent : before.entry tmp = none)
    (apart : ∀ name, Apart before path name → name ≠ tmp)
    (temporary : Temporary before tmp file fs) (content : fs.content file = []) :
    (fillAndRename path data tmp file).wp (Ends before path data)
      (AllOrNothing before path data) fs := by
  have early : ∀ after, Temporary before tmp file after →
      AllOrNothing before path data after :=
    fun _ temporary => temporary.allOrNothing different apart
  have late : ∀ after, Replaced before path tmp data after →
      AllOrNothing before path data after :=
    fun _ replaced => replaced.allOrNothing apart
  rw [fillAndRename]
  refine wp_via (fun rc reached => Temporary before tmp file reached ∧
    (rc = 0 → reached.content file = data)) ?_ ?_
  · refine wp_orFail (fun failed => absurd rfl failed) fun _ => ?_
    refine wp_mono (wp_writeAll data temporary content) ?_ early
    rintro result after ⟨temporary, filled⟩
    exact ⟨temporary, fun zero => filled (rc_eq_zero zero)⟩
  rintro rc reached ⟨temporary, filled⟩
  refine wp_via (fun rc reached => Temporary before tmp file reached ∧
    (rc = 0 → reached.content file = data ∧ reached.synced file = true)) ?_ ?_
  · refine wp_orFail (fun failed => ⟨temporary, fun zero => absurd zero failed⟩)
      fun zero => ?_
    refine wp_mono (wp_fsync temporary (filled zero)) ?_ early
    rintro result after ⟨temporary, synced⟩
    exact ⟨temporary, fun zero => synced (rc_eq_zero zero)⟩
  rintro rc reached ⟨temporary, synced⟩
  refine wp_via (fun rc reached => Temporary before tmp file reached ∧
    (rc = 0 → reached.content file = data ∧ reached.synced file = true)) ?_ ?_
  · exact wp_closing (early _ temporary) ⟨temporary, synced⟩
      ⟨temporary, fun zero => by cases zero⟩
  clear synced rc
  rintro rc reached ⟨temporary, synced⟩
  refine wp_via (fun rc reached => Temporary before tmp file reached ∧
    (rc = 0 → reached.content file = data ∧ reached.synced file = true)) ?_ ?_
  · refine wp_failpoint (fun failed => ⟨temporary, fun zero =>
      absurd zero failed⟩) fun zero => ?_
    exact ⟨early _ temporary, ⟨temporary, fun _ => synced zero⟩, temporary,
      fun zero => by cases zero⟩
  rintro rc reached ⟨temporary, synced⟩
  refine wp_via (fun rc reached =>
    if rc = 0 then Replaced before path tmp data reached
    else Temporary before tmp file reached) ?_ ?_
  · refine wp_orFail (fun failed => by rw [if_neg failed]; exact temporary)
      fun zero => ?_
    obtain ⟨content, durable⟩ := synced zero
    refine wp_mono (wp_rename different temporary content durable) ?_ early
    intro result after outcome
    by_cases success : result = 0
    · rw [if_pos success] at outcome ⊢
      exact outcome
    · rw [if_neg success] at outcome ⊢
      exact outcome
  intro rc reached outcome
  refine wp_via (fun rc reached => Leftover before path tmp data file reached ∧
    (rc = 0 → Replaced before path tmp data reached)) ?_ ?_
  · refine wp_failpoint (fun failed => ?_) fun zero => ?_
    · rw [if_neg failed] at outcome
      exact ⟨Or.inr outcome, fun zero => absurd zero failed⟩
    · rw [if_pos zero] at outcome
      exact ⟨late _ outcome, ⟨Or.inl outcome, fun _ => outcome⟩,
        Or.inl outcome, fun zero => by cases zero⟩
  clear outcome rc
  rintro rc reached ⟨leftover, replaced⟩
  refine wp_via (fun rc reached => Leftover before path tmp data file reached ∧
    (rc = 0 → Replaced before path tmp data reached ∧
      reached.unsynced path = [])) ?_ ?_
  · refine wp_orFail (fun failed => ⟨leftover, fun zero => absurd zero failed⟩)
      fun zero => ?_
    refine wp_mono (wp_fsyncParentDir (replaced zero)) ?_ late
    rintro result after ⟨replaced, alone⟩
    exact ⟨Or.inl replaced, fun zero => ⟨replaced, alone (rc_eq_zero zero)⟩⟩
  clear leftover replaced rc
  rintro rc reached ⟨leftover, replaced⟩
  refine wp_split (fun failed => ?_) fun zero => ?_
  · rw [wp_bind, wp_modify]
    exact leftover.unlink different absent apart
  · obtain ⟨replaced, alone⟩ := replaced (not_not.mp zero)
    exact ⟨late _ replaced, fun name other => replaced.entry absent other,
      fun _ => replaced.durable alone⟩

theorem ne_tmpName (path suffix : CString) : path ≠ tmpName path suffix := by
  intro same
  have lengths := congrArg List.length same
  rw [tmpName, List.length_append, List.length_append] at lengths
  have dots : (".tmp.".toList).length = 5 := by decide
  omega

/-- Nothing has happened yet. -/
theorem allOrNothing_refl (fs : FileSystem CString β) :
    AllOrNothing fs path data fs :=
  ⟨Or.inl rfl, fun _ survives => Or.inl survives, FileSystem.Grows.refl fs,
    fun name _ => FileSystem.Keeps.refl fs name⟩

theorem ends_refl (fs : FileSystem CString β) : Ends fs path data (-1) fs :=
  ⟨allOrNothing_refl fs, fun _ _ => rfl, fun zero => by cases zero⟩

theorem wp_writeFileAtomic
    (path : CString) (data : List β) (before : FileSystem CString β) :
    (writeFileAtomic path data).wp (Ends before path data)
      (AllOrNothing before path data) before := by
  unfold writeFileAtomic
  refine wp_split (fun _ => ends_refl before) fun _ => ?_
  unfold mkstemp
  rw [wp_bind, wp_bind, wp_answer]
  refine ⟨allOrNothing_refl before, fun answer => ?_⟩
  rw [wp_bind, wp_current]
  refine wp_split (fun _ => ends_refl before) fun fresh => ?_
  rw [wp_bind, wp_modify, wp_pure]
  simp only [Bool.not_eq_true', Bool.not_eq_false, Bool.and_eq_true,
    Option.isNone_iff_eq_none, decide_eq_true_eq] at fresh
  obtain ⟨-, ⟨six, -⟩, absent⟩ := fresh
  refine wp_fillAndRename (ne_tmpName path answer.suffix) absent ?_
    (temporary_create _) ?_
  · rintro name ⟨-, present | never⟩ rfl
    · rw [absent] at present
      cases present
    · exact never answer.suffix six rfl
  exact Function.update_self _ _ _

/-- `write_file_atomic` replaces the file as a whole or leaves it, wherever it is
cut off and whatever fails, and removes its temporary file before it returns. -/
theorem write_file_atomic_all_or_nothing
    (path : CString) (data : List β) (before : FileSystem CString β)
    (script : List Answer) :
    ((writeFileAtomic path data).run before script).Meets
      (Ends before path data) (AllOrNothing before path data) :=
  (wp_iff_run _ _ _ before).mp (wp_writeFileAtomic path data before) script

end Calls

end AtomicFile
end MotionSense
