import MotionSense.Foundations.Digits
import MotionSense.Storage.Writer

/-!
# The texts of the writer's paths

The `snprintf` calls of `storage.c` and `storage_db.c` that build paths, with
the sizes of their buffers, and what a padded decimal number looks like.
-/

namespace MotionSense

/-! ## Padded decimal numbers -/

/-- A text of decimal digits, `[0-9]{width}`. -/
def isDigits (width : Nat) (text : CString) : Bool :=
  text.length = width && text.all Char.isDigit

theorem isDigits_iff {width : Nat} {text : CString} :
    isDigits width text = true ↔
      text.length = width ∧ ∀ letter ∈ text, letter.isDigit = true := by
  rw [isDigits, Bool.and_eq_true, decide_eq_true_iff, List.all_eq_true]

theorem isDigit_of_mem_zeroPadded
    {width value : Nat}
    {letter : Char}
    (member : letter ∈ zeroPadded width value) :
    letter.isDigit = true := by
  rw [zeroPadded, List.leftpad, List.mem_append] at member
  rcases member with padding | digit
  · rw [List.eq_of_mem_replicate padding]
    rfl
  · exact Nat.isDigit_of_mem_toDigits (by decide) (by decide) digit

/-- A number is printed in the width it is padded to, unless it is too large
for it. -/
theorem isDigits_zeroPadded_iff
    {width : Nat}
    (positive : 0 < width)
    (value : Nat) :
    isDigits width (zeroPadded width value) = true ↔ value < 10 ^ width := by
  have digits := @Nat.length_toDigits_le_iff 10 value width (by decide) positive
  rw [isDigits_iff, ← digits, zeroPadded, List.length_leftpad]
  constructor
  · rintro ⟨exact_, -⟩
    omega
  · intro fits
    exact ⟨by omega, fun _ => isDigit_of_mem_zeroPadded⟩

theorem length_zeroPadded
    {width value : Nat}
    (positive : 0 < width)
    (fits : value < 10 ^ width) :
    (zeroPadded width value).length = width :=
  (isDigits_iff.mp ((isDigits_zeroPadded_iff positive value).mpr fits)).1

/-- A text of digits is a printed number. -/
theorem isDigits_iff_zeroPadded
    {width : Nat}
    (positive : 0 < width)
    {text : CString} :
    isDigits width text = true ↔
      ∃ value < 10 ^ width, text = zeroPadded width value := by
  constructor
  · intro isText
    obtain ⟨exact_, digits⟩ := isDigits_iff.mp isText
    have small := ofDigitChars_lt digits
    rw [exact_] at small
    refine ⟨_, small, ?_⟩
    apply ofDigitChars_injective digits
      fun _ => isDigit_of_mem_zeroPadded
    · rw [length_zeroPadded positive small, exact_]
    · rw [ofDigitChars_zeroPadded]
  · rintro ⟨value, fits, rfl⟩
    exact (isDigits_zeroPadded_iff positive value).mpr fits

/-! ## The paths -/

/-- `snprintf` into a buffer of some size. -/
def snprintf (size : Nat) (text : CString) : CString :=
  text.take (size - 1)

/-- `CFG_DCIM_ROOT`. -/
def cfgDcimRoot : CString := "/mnt/sdcard/DCIM/".toList

theorem length_cfgDcimRoot : cfgDcimRoot.length = 17 := by decide

/-- `EventLogs.db`. -/
def eventLogsName : CString := "EventLogs.db".toList

theorem length_eventLogsName : eventLogsName.length = 12 := by decide

/-- `date_dir`, as `open_today` builds it. -/
def dateDirPath (date : CString) : CString :=
  snprintf 64 (cfgDcimRoot ++ date ++ ['/'])

/-- `segment_dir`, as `open_today` builds it. -/
def segmentDirPath (date : CString) (interruptIdx : Nat) : CString :=
  snprintf 96 (dateDirPath date ++ zeroPadded 5 interruptIdx ++ ['/'])

/-- `ts_path` of `hls_cb`. -/
def tsPath (date : CString) (interruptIdx tsIdx : Nat) : CString :=
  snprintf 160 (segmentDirPath date interruptIdx ++ snprintf 16 (tsName tsIdx))

/-- `m3u_path` of `hls_cb`. -/
def m3uPath (date : CString) (interruptIdx : Nat) : CString :=
  snprintf 160 (segmentDirPath date interruptIdx ++ indexName)

/-- The path that `event_db_open` opens. -/
def eventLogsPath (date : CString) : CString :=
  snprintf 96 (dateDirPath date ++ eventLogsName)

/-- `folder` of `event_db_add_segment`, under which readers find the folder. -/
def segmentFolder (interruptIdx : Nat) : CString :=
  snprintf 8 (zeroPadded 5 interruptIdx)

theorem snprintf_of_lt
    {size : Nat}
    {text : CString}
    (fits : text.length < size) :
    snprintf size text = text :=
  List.take_of_length_le (by omega)

section Fits

variable {date : CString} (isDate : date.length = 10)

include isDate

theorem dateDirPath_eq :
    dateDirPath date = cfgDcimRoot ++ date ++ ['/'] := by
  apply snprintf_of_lt
  rw [List.length_append, List.length_append, length_cfgDcimRoot, isDate,
    List.length_singleton]
  omega

theorem eventLogsPath_eq :
    eventLogsPath date = cfgDcimRoot ++ date ++ '/' :: eventLogsName := by
  rw [eventLogsPath, dateDirPath_eq isDate, List.append_assoc,
    List.singleton_append]
  apply snprintf_of_lt
  rw [List.length_append, List.length_append, length_cfgDcimRoot, isDate,
    List.length_cons, length_eventLogsName]
  omega

variable {interruptIdx : Nat} (fits : interruptIdx < 100000)

include fits

theorem segmentDirPath_eq :
    segmentDirPath date interruptIdx =
      cfgDcimRoot ++ date ++ '/' :: (zeroPadded 5 interruptIdx ++ ['/']) := by
  rw [segmentDirPath, dateDirPath_eq isDate, List.append_assoc,
    List.append_assoc, List.singleton_append]
  apply snprintf_of_lt
  rw [List.length_append, List.length_append, length_cfgDcimRoot, isDate,
    List.length_cons, List.length_append,
    length_zeroPadded (by decide) fits, List.length_singleton]
  omega

/-- The path of a file with a short name in a segment folder. -/
theorem snprintf_segmentDirPath
    {name : CString}
    (short : name.length < 16) :
    snprintf 160 (segmentDirPath date interruptIdx ++ name) =
      cfgDcimRoot ++ date ++
        '/' :: (zeroPadded 5 interruptIdx ++ '/' :: name) := by
  have flat : cfgDcimRoot ++ date ++
      '/' :: (zeroPadded 5 interruptIdx ++ ['/']) ++ name =
        cfgDcimRoot ++ date ++
          '/' :: (zeroPadded 5 interruptIdx ++ '/' :: name) := by
    simp only [List.append_assoc, List.cons_append, List.nil_append]
  rw [segmentDirPath_eq isDate fits, flat]
  apply snprintf_of_lt
  rw [List.length_append, List.length_append, length_cfgDcimRoot, isDate,
    List.length_cons, List.length_append,
    length_zeroPadded (by decide) fits, List.length_cons]
  omega

end Fits

/-! ## Every number of a folder is reached -/

namespace Storage

theorem may_todayString
    {post : CString × Nat → State → Prop} {stopped : State → Prop}
    {state : State}
    (every : todayString.wp post stopped state)
    (tm : Tm) :
    post (tm.date, tm.yday) state :=
  every.2 { tm }

theorem may_ensureDir
    {dir : Dir}
    {post : Int → State → Prop} {stopped : State → Prop}
    {state : State}
    (every : (ensureDir dir).wp post stopped state)
    (there : state.disk.exists? dir = true) :
    post 0 state := by
  rw [ensureDir, Program.wp_bind, Program.wp_answer] at every
  have answered := every.2 {}
  rw [Program.wp_bind, Program.wp_current, there, if_pos (by decide)] at answered
  exact answered

theorem may_mkdir
    {dir : Dir}
    {post : Int → State → Prop} {stopped : State → Prop}
    {state : State}
    (every : (ensureDir dir).wp post stopped state)
    (parent : state.disk.parentExists dir = true)
    (new : state.disk.exists? dir = false) :
    post 0 (((state.log (.called .mkdir true)).updateDisk fun disk =>
      disk.mkdir dir).log (.made dir)) := by
  rw [ensureDir, Program.wp_bind, Program.wp_answer] at every
  have answered := every.2 {}
  rw [Program.wp_bind, Program.wp_current, new, if_neg (by decide),
    Program.wp_bind, wp_call] at answered
  exact answered.2 {} fun _ => by rw [new, parent]; rfl

theorem may_countSubdirs
    {date : CString}
    {post : Nat → State → Prop} {stopped : State → Prop}
    {state : State}
    (every : (countSubdirs date).wp post stopped state)
    {day : DayDir}
    (there : state.disk.day date = some day) :
    post day.folders.keys.length (state.log (.called .opendir true)) := by
  simp only [countSubdirs, Program.wp_bind, wp_call, Program.wp_current,
    Program.wp_pure, State.disk_log, there] at every
  exact every.2 {} fun _ => rfl

end Storage

section Reached

variable (config : Config)

/-- The writer can be stopped right after it has made the folder of a segment
on a day that has some folders. -/
theorem exists_reach_placed
    {tm : Tm}
    {state : State}
    (reached : (writer config).Reach State.Unused .off state)
    (dcim : state.disk.dcim = true)
    {day : DayDir}
    (there : state.disk.day tm.date = some day)
    (free : zeroPadded 5 day.folders.keys.length ∉ day.folders) :
    ∃ after, (writer config).Reach State.Unused .off after ∧
      after.ws.date = tm.date ∧
      after.ws.interruptIdx = day.folders.keys.length ∧
      after.disk = state.disk.mkdir
        (.segment ⟨tm.date, zeroPadded 5 day.folders.keys.length⟩) := by
  have isDay : (state.disk.day tm.date).isSome = true := by rw [there]; rfl
  have isFree : (state.disk.folder tm.date
      (zeroPadded 5 day.folders.keys.length)).isSome = false := by
    rw [Disk.folder, there]
    exact eq_false_of_ne_true (AList.lookup_isSome.not.mpr free)
  have booted : (Storage.writerBoot config).wp _ _ _ := reached.wp_boot
  rw [Storage.writerBoot, Program.wp_bind, Storage.openToday, Program.wp_bind,
    Storage.wp_log, Program.wp_bind, Storage.openFolder, Program.wp_bind]
    at booted
  have dated := Storage.may_todayString booted tm
  rw [Program.wp_bind, Storage.wp_setWs, Program.wp_bind] at dated
  have rooted := Storage.may_ensureDir dated dcim
  rw [Program.wp_bind] at rooted
  have found := Storage.may_ensureDir rooted isDay
  rw [Program.wp_bind] at found
  have counted := Storage.may_countSubdirs found there
  rw [Program.wp_bind, Storage.wp_setWs, Program.wp_bind, Storage.wp_log]
    at counted
  have made := Storage.may_mkdir counted isDay isFree
  rw [if_neg (by decide), Program.wp_bind, Storage.openSegment,
    Program.wp_bind, Storage.eventDbOpen, Program.wp_bind, Program.wp_current,
    Program.wp_bind, Storage.wp_call] at made
  exact ⟨_, made.1, rfl, rfl, rfl⟩

/-- On an empty card the writer can be stopped right after it has made the
directory of a day. -/
theorem exists_reach_empty_day :
    ∃ state, (writer config).Reach State.Unused .off state ∧
      state.disk.dcim = true ∧
      state.disk.day ({} : Tm).date = some {} := by
  have booted : (Storage.writerBoot config).wp _ _ _ :=
    (@Daemon.Reach.initial _ _ _ (writer config) State.Unused {} rfl).wp_boot
  rw [Storage.writerBoot, Program.wp_bind, Storage.openToday, Program.wp_bind,
    Storage.wp_log, Program.wp_bind, Storage.openFolder, Program.wp_bind]
    at booted
  have dated := Storage.may_todayString booted {}
  rw [Program.wp_bind, Storage.wp_setWs, Program.wp_bind] at dated
  have rooted := Storage.may_mkdir dated rfl rfl
  rw [Program.wp_bind] at rooted
  have found := Storage.may_mkdir rooted rfl rfl
  rw [Program.wp_bind, Storage.countSubdirs, Program.wp_bind,
    Storage.wp_call] at found
  exact ⟨_, found.1, rfl, rfl⟩

/-- A day with the folders below a number and no other numbered one. -/
structure DayDir.Filled (day : DayDir) (size : Nat) : Prop where
  length : day.folders.keys.length = size
  free : ∀ index, size ≤ index → zeroPadded 5 index ∉ day.folders

/-- The folder made next fills the day further. -/
theorem DayDir.Filled.insert
    {day : DayDir}
    {size : Nat}
    (filled : day.Filled size)
    (folder : Folder) :
    DayDir.Filled
      { day with folders := day.folders.insert (zeroPadded 5 size) folder }
      (size + 1) where
  length := by
    change (day.folders.insert (zeroPadded 5 size) folder).keys.length = _
    rw [AList.insert_of_notMem (filled.free size le_rfl)]
    exact congrArg (· + 1) filled.length
  free := by
    intro index large member
    rcases (AList.mem_insert _).mp member with same | there
    · have equal := zeroPadded_injective 5 same
      omega
    · exact filled.free index (by omega) there

/-- A history can fill a day with any number of folders. -/
theorem exists_reach_filled (size : Nat) :
    ∃ state, (writer config).Reach State.Unused .off state ∧
      state.disk.dcim = true ∧
      ∃ day, state.disk.day ({} : Tm).date = some day ∧ day.Filled size := by
  induction size with
  | zero =>
      obtain ⟨state, reached, dcim, there⟩ := exists_reach_empty_day config
      exact ⟨state, reached, dcim, {}, there, rfl, fun _ _ member =>
        absurd member (AList.notMem_empty _)⟩
  | succ size inductionHypothesis =>
      obtain ⟨state, reached, dcim, day, there, filled⟩ := inductionHypothesis
      have free : zeroPadded 5 day.folders.keys.length ∉ day.folders :=
        filled.free _ filled.length.ge
      obtain ⟨after, next, -, -, disk⟩ :=
        exists_reach_placed config reached dcim there free
      refine ⟨after, next, ?_, ?_⟩
      · rw [disk, Disk.mkdir, there]
        exact dcim
      · rw [disk, Disk.mkdir, there, filled.length]
        exact ⟨_, AList.lookup_insert _, filled.insert _⟩

/-- Every number of a segment folder is reached. -/
theorem exists_reach_interruptIdx (index : Nat) :
    ∃ state, (writer config).Reach State.Unused .off state ∧
      state.ws.date = ({} : Tm).date ∧ state.ws.interruptIdx = index := by
  obtain ⟨state, reached, dcim, day, there, filled⟩ :=
    exists_reach_filled config index
  obtain ⟨after, next, date, placed, -⟩ :=
    exists_reach_placed config reached dcim there
      (filled.free _ filled.length.ge)
  exact ⟨after, next, date, placed.trans filled.length⟩

end Reached
end MotionSense
