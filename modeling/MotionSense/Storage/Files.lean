import MotionSense.Storage.State

/-!
# Directories and files

The helpers of `utils.c` and `storage.c` that reach the kernel: reading the
clock, making, counting and removing directories, replacing a file, and asking
for free space.
-/

namespace MotionSense

namespace Disk

/-- `stat` finds the directory. -/
def exists? (disk : Disk) : Dir → Bool
  | .dcim => disk.dcim
  | .day date => (disk.day date).isSome
  | .segment dir => (disk.folder dir.date dir.name).isSome

/-- The directory's parent exists. -/
def parentExists (disk : Disk) : Dir → Bool
  | .dcim => true
  | .day _ => disk.dcim
  | .segment dir => (disk.day dir.date).isSome

/-- `mkdir`. -/
def mkdir (disk : Disk) : Dir → Disk
  | .dcim => { disk with dcim := true }
  | .day date => disk.setDay date {}
  | .segment dir =>
      match disk.day dir.date with
      | none => disk
      | some day =>
          disk.setDay dir.date
            { day with folders := day.folders.insert dir.name fun _ => none }

/-- Replace a file of a segment folder. -/
def putFile
    (disk : Disk) (dir : SegmentDir) (name : CString) (data : FileData) :
    Disk :=
  match disk.day dir.date with
  | none => disk
  | some day =>
      match day.folders.lookup dir.name with
      | none => disk
      | some folder =>
          disk.setDay dir.date
            { day with
              folders := day.folders.insert dir.name
                (Function.update folder name (some data)) }

/-- Remove part of a day's tree. -/
def removePart (disk : Disk) (date : CString) (removal : Removal) : Disk :=
  match disk.day date with
  | none => disk
  | some day => disk.setDay date (day.remove removal)

/-- Remove a day's directory. -/
def removeDay (disk : Disk) (date : CString) : Disk :=
  { disk with days := disk.days.erase date }

end Disk

namespace Storage

/-- `today_string`. -/
def todayString : Storage (CString × Nat) := do
  let choice ← Program.answer
  return (choice.tm.date, choice.tm.yday)

/-- `ensure_dir`.  When `stat` fails on an existing directory, so does
`mkdir`. -/
def ensureDir (dir : Dir) : Storage Int := do
  let stat ← Program.answer
  let state ← Program.current
  if stat.ok && state.disk.exists? dir then return 0
  let made ← call .mkdir fun state =>
    state.disk.parentExists dir && !state.disk.exists? dir
  if !made.ok then return -1
  setDisk fun disk => disk.mkdir dir
  log (.made dir)
  return 0

/-- `count_subdirs` of a day's directory.  A failing `opendir` counts as an
empty directory, and a failing `readdir` ends the count. -/
def countSubdirs (date : CString) : Storage Nat := do
  let opened ← call .opendir fun state => (state.disk.day date).isSome
  let state ← Program.current
  let total :=
    match state.disk.day date with
    | none => 0
    | some day => day.folders.keys.length
  return if opened.ok then total else min opened.seen total

/-- `write_file_atomic`.  The temporary file is not a file of the folder: either
it replaces the target as a whole or the target stays as it was.  The outcomes
of `mkstemp`, `write_all`, `fsync` and `close` come together. -/
def writeFileAtomic
    (dir : SegmentDir) (name : CString) (data : FileData) : Storage Int := do
  let written ← call .writeFile fun state =>
    state.disk.exists? (.segment dir)
  if !written.ok then return -1
  let renamed ← call .rename fun state => state.disk.exists? (.segment dir)
  if !renamed.ok then return -1
  setDisk fun disk => disk.putFile dir name data
  log (.renamed name data)
  let synced ← call .fsyncDir fun _ => true
  if !synced.ok then return -1
  return 0

/-- `remove_recursive` on a day's directory: the tree goes in some order, and
the first failure leaves what is left. -/
def removeRecursive (date : CString) : Storage Int := do
  let progress ← Program.answer
  setDisk fun disk => disk.removePart date progress.removal
  let finished ← call .remove fun _ => true
  if !finished.ok then return -1
  setDisk fun disk => disk.removeDay date
  return 0

/-- `remove_path_tree` on a day's directory. -/
def removePathTree (date : CString) : Storage Int := do
  log (.removing date)
  let found ← call .lstat fun _ => true
  let state ← Program.current
  let result ← (
    if !found.ok then pure (-1)
    else if (state.disk.day date).isNone then pure 0
    else removeRecursive date)
  log (.removed date result)
  return result

/-- `fs_free_mb`. -/
def fsFreeMb : Storage Nat := do
  let choice ← call .statvfs fun _ => true
  return if choice.ok then choice.freeMb % 2 ^ 32 else 2 ^ 32 - 1

/-- `now_ms`. -/
def nowMs : Storage Int := do
  let choice ← Program.answer
  return choice.nowMs

end Storage
end MotionSense
