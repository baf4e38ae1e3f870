import MotionSense.FrameQueue.Defs

/-!
# The memory card

What the writer keeps under `/mnt/sdcard/DCIM`: one directory for each day, in it
one folder for each segment and the day's `EventLogs.db`, and next to the days
`VideoMetadata.db`.  Paths are kept as their components.  A database file is a
number, so that a handle keeps denoting the file it was opened on after the name
is gone.
-/

namespace MotionSense

/-- The text of a C string. -/
abbrev CString := List Char

/-- `%0<width>d` of a natural number. -/
def zeroPadded (width value : Nat) : CString :=
  List.leftpad width '0' (Nat.toDigits 10 value)

/-- A padded number can be read back. -/
theorem ofDigitChars_zeroPadded (width value : Nat) :
    Nat.ofDigitChars 10 (zeroPadded width value) 0 = value := by
  rw [zeroPadded, List.leftpad, Nat.ofDigitChars_append,
    Nat.ofDigitChars_replicate_zero, mul_zero,
    Nat.ofDigitChars_ten_toDigits]

theorem zeroPadded_injective (width : Nat) :
    Function.Injective (zeroPadded width) := by
  intro first second same
  rw [← ofDigitChars_zeroPadded width first, same, ofDigitChars_zeroPadded]

/-- The fields of `struct tm` that the daemon prints or compares; the year and
the month as they are printed.  With a year of four digits and a valid month and
day a date fits every buffer it is copied to. -/
structure Tm where
  year : Nat := 2024
  mon : Nat := 1
  mday : Nat := 1
  hour : Nat := 0
  min : Nat := 0
  sec : Nat := 0
  yday : Nat := 0
  year_lt : year < 10000 := by decide
  mon_lt : mon < 100 := by decide
  mday_lt : mday < 100 := by decide
  deriving DecidableEq

/-- `strftime` with `%Y-%m-%d`. -/
def Tm.date (tm : Tm) : CString :=
  Nat.toDigits 10 tm.year ++ '-' :: zeroPadded 2 tm.mon ++
    '-' :: zeroPadded 2 tm.mday

/-- `%02d:%02d:%02d.%06ld` of the local time and the microseconds. -/
def Tm.startTime (tm : Tm) (usec : Nat) : CString :=
  zeroPadded 2 tm.hour ++ ':' :: zeroPadded 2 tm.min ++
    ':' :: zeroPadded 2 tm.sec ++ '.' :: zeroPadded 6 usec

/-! ## Files -/

/-- An entry of a playlist, as `hls_m3u8_add` is given it. -/
structure PlaylistEntry where
  name : CString
  pts : Int
  duration : Int
  discontinuity : Bool
  deriving DecidableEq

/-- Contents of a file in a segment folder: the frames muxed into a `.ts` file,
or the entries serialised into `index.m3u8`. -/
inductive FileData
  | media (frames : List FqFrame)
  | playlist (entries : List PlaylistEntry)
  deriving DecidableEq

/-- The files of a segment folder by name. -/
abbrev Folder := CString → Option FileData

/-! ## Databases -/

/-- A row of `VideoSegments`.  No row is ever deleted, so the id of a row is its
place in the table, counted from one. -/
structure SegmentRow where
  folder : CString
  startTime : CString
  totalFrames : Int := -1
  deriving DecidableEq

/-- A row of `EventDetails`. -/
structure EventRow where
  videoId : Int
  motionFrame : Int
  deriving DecidableEq

/-- An `EventLogs.db` file.  A table that was not created yet is `none`. -/
structure EventDb where
  videoSegments : Option (List SegmentRow) := none
  eventDetails : Option (List EventRow) := none
  deriving DecidableEq

/-- `VM_STATE_ACTIVE` and `VM_STATE_PENDING`. -/
inductive VmState
  | active
  | pending
  deriving DecidableEq

/-- A row of `VideoMetadata`. -/
structure MetaRow where
  date : CString
  motionCount : Int := -1
  state : VmState := .active
  deriving DecidableEq

/-! ## Directories -/

/-- A day's directory: its segment folders, and which database file its name
`EventLogs.db` denotes. -/
structure DayDir where
  folders : AList (fun _ : CString => Folder) := ∅
  eventLogs : Option Nat := none

/-- The card. -/
structure Disk where
  /-- `CFG_DCIM_ROOT` exists. -/
  dcim : Bool := false
  days : AList (fun _ : CString => DayDir) := ∅
  /-- Every database file ever created under a day's directory. -/
  eventDbs : List EventDb := []
  /-- The rows of `VideoMetadata` in rowid order, when the table exists. -/
  videoMetadata : Option (List MetaRow) := none

namespace Disk

/-- The directory of a day. -/
def day (disk : Disk) (date : CString) : Option DayDir :=
  disk.days.lookup date

/-- A folder of a day. -/
def folder (disk : Disk) (date name : CString) : Option Folder :=
  (disk.day date).bind fun day => day.folders.lookup name

/-- Write a day's directory. -/
def setDay (disk : Disk) (date : CString) (day : DayDir) : Disk :=
  { disk with days := disk.days.insert date day }

/-- The database file that a day's `EventLogs.db` denotes. -/
def eventLogs (disk : Disk) (date : CString) : Option Nat :=
  (disk.day date).bind DayDir.eventLogs

/-- A database file. -/
def eventDb (disk : Disk) (file : Nat) : EventDb :=
  disk.eventDbs.getD file {}

/-- Change a database file. -/
def updateEventDb (disk : Disk) (file : Nat) (update : EventDb → EventDb) :
    Disk :=
  { disk with eventDbs := disk.eventDbs.modify file update }

/-- The rows of `VideoMetadata`. -/
def metaRows (disk : Disk) : List MetaRow :=
  disk.videoMetadata.getD []

/-- The row of a day. -/
def metaRow (disk : Disk) (date : CString) : Option MetaRow :=
  disk.metaRows.find? fun row => row.date = date

end Disk

/-- Which parts of a day's tree a removal that stops halfway has removed.  A
folder goes only with everything in it. -/
structure Removal where
  folder : CString → Bool := fun _ => false
  file : CString → CString → Bool := fun _ _ => false
  eventLogs : Bool := false

/-- A day's directory after part of it was removed. -/
def DayDir.remove (day : DayDir) (removal : Removal) : DayDir where
  folders :=
    day.folders.keys.foldl
      (fun folders name =>
        if removal.folder name then folders.erase name
        else
          match folders.lookup name with
          | none => folders
          | some folder =>
              folders.replace name fun file =>
                if removal.file name file then none else folder file)
      day.folders
  eventLogs := if removal.eventLogs then none else day.eventLogs

end MotionSense
