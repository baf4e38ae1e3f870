import MotionSense.Agent.Layout
import MotionSense.Foundations.Filepath
import MotionSense.Storage.Paths

/-!
# The recorder's paths and the agent's

`EventLogsDBPath` and `MediaFilePath` of `recording/layout.go` as texts, what
the names they accept look like, and when their paths are those that the writer
builds.
-/

namespace MotionSense
namespace Agent

/-- `dcimRoot` of `main.go`. -/
def dcimRoot : CString := "/mnt/sdcard/DCIM".toList

/-- The path `EventLogsDBPath` returns. -/
def eventLogsDbPathText (root date : CString) : Option CString :=
  (eventLogsDbPath date).map fun date =>
    Filepath.join [root, date, eventLogsName]

/-- The path `MediaFilePath` returns. -/
def mediaFilePathText (root date segment file : CString) : Option CString :=
  (mediaFilePath date segment file).map fun (dir, file) =>
    Filepath.join [root, dir.date, dir.name, file]

/-! ## Accepted segments and files -/

theorem validSegment_iff {segment : CString} :
    validSegment segment = true ↔
      ∃ index < 100000, segment = zeroPadded 5 index :=
  isDigits_iff_zeroPadded (by decide)

theorem validSegment_zeroPadded_iff (index : Nat) :
    validSegment (zeroPadded 5 index) = true ↔ index < 100000 :=
  isDigits_zeroPadded_iff (by decide) index

theorem validMediaFile_iff {file : CString} :
    validMediaFile file = true ↔
      file = indexName ∨ ∃ index < 100000, file = tsName index := by
  rw [validMediaFile, Bool.or_eq_true, Bool.and_eq_true, decide_eq_true_iff,
    decide_eq_true_iff, validSegment_iff, or_comm]
  refine or_congr_right ⟨?_, ?_⟩
  · rintro ⟨⟨index, small, digits⟩, suffix⟩
    refine ⟨index, small, ?_⟩
    rw [tsName, ← digits, ← suffix, List.take_append_drop]
  · rintro ⟨index, small, rfl⟩
    have digits : (zeroPadded 5 index).length = 5 :=
      length_zeroPadded (by decide) small
    rw [tsName, List.take_left' digits, List.drop_left' digits]
    exact ⟨⟨index, small, rfl⟩, rfl⟩

theorem validMediaFile_tsName_iff (index : Nat) :
    validMediaFile (tsName index) = true ↔ index < 100000 := by
  rw [validMediaFile_iff]
  constructor
  · rintro (isIndex | ⟨other, small, same⟩)
    · exact absurd isIndex (tsName_ne_indexName index)
    · rw [tsName_injective same]
      exact small
  · exact fun small => .inr ⟨index, small, rfl⟩

/-! ## Accepted dates -/

/-- A day of the calendar whose year has four digits when it is padded. -/
structure CalendarDate where
  year : Nat
  month : Nat
  day : Nat
  year_lt : year < 10000
  month_pos : 1 ≤ month
  month_le : month ≤ 12
  day_pos : 1 ≤ day
  day_le : day ≤ daysIn month year

/-- `YYYY-MM-DD`. -/
def CalendarDate.text (date : CalendarDate) : CString :=
  zeroPadded 4 date.year ++ '-' :: zeroPadded 2 date.month ++
    '-' :: zeroPadded 2 date.day

theorem daysIn_le (month year : Nat) : daysIn month year ≤ 31 := by
  unfold daysIn
  split_ifs <;> omega

theorem CalendarDate.day_lt (date : CalendarDate) : date.day < 100 := by
  have day := date.day_le
  have month := daysIn_le date.month date.year
  omega

theorem CalendarDate.month_lt (date : CalendarDate) : date.month < 100 := by
  have month := date.month_le
  omega

theorem CalendarDate.length_text (date : CalendarDate) :
    date.text.length = 10 := by
  have year : (zeroPadded 4 date.year).length = 4 :=
    length_zeroPadded (by decide) date.year_lt
  have month : (zeroPadded 2 date.month).length = 2 :=
    length_zeroPadded (by decide) date.month_lt
  have day : (zeroPadded 2 date.day).length = 2 :=
    length_zeroPadded (by decide) date.day_lt
  simp only [CalendarDate.text, List.length_append, List.length_cons, year,
    month, day]

/-- What a text of digits prints. -/
theorem zeroPadded_decimal
    {width : Nat}
    {text : CString}
    (positive : 0 < width)
    (digits : isDigits width text = true) :
    zeroPadded width (decimal text) = text ∧ decimal text < 10 ^ width := by
  obtain ⟨value, small, rfl⟩ := (isDigits_iff_zeroPadded positive).mp digits
  rw [decimal, ofDigitChars_zeroPadded]
  exact ⟨rfl, small⟩

/-- The accepted dates are those of the calendar. -/
theorem validDate_iff {date : CString} :
    validDate date = true ↔ ∃ day : CalendarDate, date = day.text := by
  constructor
  · intro valid
    unfold validDate at valid
    split at valid
    · rename_i y₁ y₂ y₃ y₄ m₁ m₂ d₁ d₂
      simp only [Bool.and_eq_true, decide_eq_true_iff, List.all_eq_true]
        at valid
      obtain ⟨digits, ⟨⟨month_pos, month_le⟩, day_pos⟩, day_le⟩ := valid
      obtain ⟨year, year_lt⟩ := @zeroPadded_decimal 4 [y₁, y₂, y₃, y₄]
        (by decide) (isDigits_iff.mpr ⟨rfl, fun letter member =>
          digits letter (List.mem_append_left [m₁, m₂, d₁, d₂] member)⟩)
      obtain ⟨month, -⟩ := @zeroPadded_decimal 2 [m₁, m₂]
        (by decide) (isDigits_iff.mpr ⟨rfl, fun letter member =>
          digits letter (List.mem_append_right [y₁, y₂, y₃, y₄]
            (List.mem_append_left [d₁, d₂] member))⟩)
      obtain ⟨day, -⟩ := @zeroPadded_decimal 2 [d₁, d₂]
        (by decide) (isDigits_iff.mpr ⟨rfl, fun letter member =>
          digits letter (List.mem_append_right [y₁, y₂, y₃, y₄, m₁, m₂]
            member)⟩)
      refine ⟨⟨_, _, _, year_lt, month_pos, month_le, day_pos, day_le⟩, ?_⟩
      change _ = zeroPadded 4 (decimal [y₁, y₂, y₃, y₄]) ++
        '-' :: zeroPadded 2 (decimal [m₁, m₂]) ++
          '-' :: zeroPadded 2 (decimal [d₁, d₂])
      rw [year, month, day]
      rfl
    · exact absurd valid Bool.false_ne_true
  · rintro ⟨day, rfl⟩
    have year : isDigits 4 (zeroPadded 4 day.year) = true :=
      (isDigits_zeroPadded_iff (by decide) _).mpr day.year_lt
    have month : isDigits 2 (zeroPadded 2 day.month) = true :=
      (isDigits_zeroPadded_iff (by decide) _).mpr day.month_lt
    have mday : isDigits 2 (zeroPadded 2 day.day) = true :=
      (isDigits_zeroPadded_iff (by decide) _).mpr day.day_lt
    have yearValue := ofDigitChars_zeroPadded 4 day.year
    have monthValue := ofDigitChars_zeroPadded 2 day.month
    have dayValue := ofDigitChars_zeroPadded 2 day.day
    rw [isDigits_iff] at year month mday
    rw [CalendarDate.text]
    generalize zeroPadded 4 day.year = yearText at *
    generalize zeroPadded 2 day.month = monthText at *
    generalize zeroPadded 2 day.day = dayText at *
    obtain ⟨y₁, y₂, y₃, y₄, rfl⟩ := List.length_eq_four.mp year.1
    obtain ⟨m₁, m₂, rfl⟩ := List.length_eq_two.mp month.1
    obtain ⟨d₁, d₂, rfl⟩ := List.length_eq_two.mp mday.1
    change validDate [y₁, y₂, y₃, y₄, '-', m₁, m₂, '-', d₁, d₂] = true
    simp only [validDate, decimal, yearValue, monthValue, dayValue,
      Bool.and_eq_true, decide_eq_true_iff]
    refine ⟨List.all_eq_true.mpr ?_,
      ⟨⟨day.month_pos, day.month_le⟩, day.day_pos⟩, day.day_le⟩
    intro letter member
    have inside : letter ∈ [y₁, y₂, y₃, y₄] ++ ([m₁, m₂] ++ [d₁, d₂]) :=
      member
    rw [List.mem_append, List.mem_append] at inside
    rcases inside with inYear | inMonth | inDay
    · exact year.2 letter inYear
    · exact month.2 letter inMonth
    · exact mday.2 letter inDay

/-! ## Accepted names are names -/

theorem isName_of_mem_date (date : CalendarDate) :
    Filepath.IsName date.text := by
  have length := date.length_text
  refine ⟨?_, ?_, ?_, ?_⟩
  · rintro none
    rw [none] at length
    exact absurd length (by decide)
  · intro slash
    have inside : '/' ∈ zeroPadded 4 date.year ++
        ('-' :: zeroPadded 2 date.month ++ '-' :: zeroPadded 2 date.day) := by
      rw [← List.append_assoc]
      exact slash
    rw [List.mem_append, List.mem_append, List.mem_cons, List.mem_cons]
      at inside
    rcases inside with digit | (dash | digit) | (dash | digit)
    · exact absurd (isDigit_of_mem_zeroPadded digit) (by decide)
    · exact absurd dash (by decide)
    · exact absurd (isDigit_of_mem_zeroPadded digit) (by decide)
    · exact absurd dash (by decide)
    · exact absurd (isDigit_of_mem_zeroPadded digit) (by decide)
  · rintro dot
    rw [dot] at length
    exact absurd length (by decide)
  · rintro dots
    rw [dots] at length
    exact absurd length (by decide)

/-- A number in front of a text without slashes and without a dot at its
start is a name. -/
theorem isName_zeroPadded_append
    (width index : Nat)
    {suffix : CString}
    (slashless : '/' ∉ suffix) :
    Filepath.IsName (zeroPadded width index ++ suffix) := by
  have digits : zeroPadded width index ≠ [] := by
    intro none
    have value := ofDigitChars_zeroPadded width index
    have padding := congrArg List.length none
    rw [zeroPadded, List.length_leftpad, List.length_nil] at padding
    have positive := @Nat.length_toDigits_pos 10 index
    omega
  obtain ⟨letter, text, printed⟩ := List.exists_cons_of_ne_nil digits
  have isDigit : letter.isDigit = true :=
    @isDigit_of_mem_zeroPadded width index letter
      (printed ▸ List.mem_cons_self)
  have notDot : letter ≠ '.' := by
    rintro rfl
    exact absurd isDigit (by decide)
  rw [printed, List.cons_append]
  refine ⟨List.cons_ne_nil _ _, ?_, ?_, ?_⟩
  · intro slash
    rw [← List.cons_append, ← printed, List.mem_append] at slash
    rcases slash with digit | inside
    · exact absurd (isDigit_of_mem_zeroPadded digit) (by decide)
    · exact slashless inside
  · exact fun same => notDot (List.cons.inj same).1
  · exact fun same => notDot (List.cons.inj same).1

theorem isName_segment (index : Nat) :
    Filepath.IsName (zeroPadded 5 index) := by
  rw [← List.append_nil (zeroPadded 5 index)]
  exact isName_zeroPadded_append 5 index List.not_mem_nil

theorem isName_of_validMediaFile
    {file : CString}
    (valid : validMediaFile file = true) :
    Filepath.IsName file := by
  rcases validMediaFile_iff.mp valid with rfl | ⟨index, -, rfl⟩
  · exact ⟨by decide, by decide, by decide, by decide⟩
  · exact isName_zeroPadded_append 5 index (by decide)

theorem isName_eventLogsName : Filepath.IsName eventLogsName :=
  ⟨by decide, by decide, by decide, by decide⟩

/-- The names that `MediaFilePath` accepts, and the path it returns for
them. -/
theorem mediaFilePathText_eq_some_iff
    {root date segment file path : CString} :
    mediaFilePathText root date segment file = some path ↔
      (validDate date = true ∧ validSegment segment = true ∧
        validMediaFile file = true) ∧
      path = Filepath.below root [date, segment, file] := by
  have joined : validDate date = true → validSegment segment = true →
      validMediaFile file = true →
        Filepath.join [root, date, segment, file] =
          Filepath.below root [date, segment, file] := by
    intro dated numbered named
    obtain ⟨day, rfl⟩ := validDate_iff.mp dated
    obtain ⟨index, -, rfl⟩ := validSegment_iff.mp numbered
    apply Filepath.join_names
    · intro name member
      simp only [List.mem_cons, List.not_mem_nil, or_false] at member
      rcases member with rfl | rfl | rfl
      · exact isName_of_mem_date day
      · exact isName_segment index
      · exact isName_of_validMediaFile named
    · exact List.cons_ne_nil _ _
  rw [mediaFilePathText, mediaFilePath, Option.map_eq_some_iff]
  constructor
  · rintro ⟨⟨dir, name⟩, accepted, rfl⟩
    split at accepted
    · rename_i valid
      rw [Bool.and_eq_true, Bool.and_eq_true] at valid
      obtain ⟨⟨dated, numbered⟩, named⟩ := valid
      cases accepted
      exact ⟨⟨dated, numbered, named⟩, joined dated numbered named⟩
    · cases accepted
  · rintro ⟨⟨dated, numbered, named⟩, rfl⟩
    refine ⟨(⟨date, segment⟩, file), ?_, joined dated numbered named⟩
    rw [dated, numbered, named]
    rfl

/-- The path of a day's database. -/
theorem eventLogsDbPathText_of_validDate
    (root : CString)
    {date : CString}
    (valid : validDate date = true) :
    eventLogsDbPathText root date =
      some (Filepath.below root [date, eventLogsName]) := by
  obtain ⟨day, rfl⟩ := validDate_iff.mp valid
  rw [eventLogsDbPathText, eventLogsDbPath, if_pos valid, Option.map_some,
    Filepath.join_names]
  · intro name member
    simp only [List.mem_cons, List.not_mem_nil, or_false] at member
    rcases member with rfl | rfl
    · exact isName_of_mem_date day
    · exact isName_eventLogsName
  · exact List.cons_ne_nil _ _

/-- Paths below the recorder's directory begin with its text. -/
theorem below_dcimRoot (name : CString) (names : List CString) :
    Filepath.below dcimRoot (name :: names) =
      cfgDcimRoot ++ ['/'].intercalate (name :: names) := by
  have directory : Filepath.directory dcimRoot =
      ["mnt".toList, "sdcard".toList, "DCIM".toList] := by decide
  have rooted : Filepath.isRooted dcimRoot = true := by decide
  rw [Filepath.below, directory, rooted, Filepath.render, if_pos rfl,
    List.cons_append, List.cons_append, List.cons_append, List.nil_append,
    List.intercalate_cons_cons, List.intercalate_cons_cons,
    List.intercalate_cons_cons]
  rfl

/-! ## The writer's paths -/

/-- The day of a clock reading, where it is one of the calendar and its year
has four digits. -/
structure OnCalendar (tm : Tm) : Prop where
  year_le : 1000 ≤ tm.year
  month_pos : 1 ≤ tm.mon
  month_le : tm.mon ≤ 12
  day_pos : 1 ≤ tm.mday
  day_le : tm.mday ≤ daysIn tm.mon tm.year

/-- The calendar day of a clock reading. -/
def OnCalendar.calendarDate {tm : Tm} (onCalendar : OnCalendar tm) :
    CalendarDate where
  year := tm.year
  month := tm.mon
  day := tm.mday
  year_lt := tm.year_lt
  month_pos := onCalendar.month_pos
  month_le := onCalendar.month_le
  day_pos := onCalendar.day_pos
  day_le := onCalendar.day_le

/-- `strftime` prints the calendar day. -/
theorem OnCalendar.date_eq {tm : Tm} (onCalendar : OnCalendar tm) :
    tm.date = onCalendar.calendarDate.text := by
  have wide : 4 ≤ (Nat.toDigits 10 tm.year).length := by
    have digits := @Nat.length_toDigits_le_iff 10 tm.year 3 (by decide)
      (by decide)
    have large := onCalendar.year_le
    by_contra narrow
    have small := digits.mp (by omega)
    omega
  have unpadded : zeroPadded 4 tm.year = Nat.toDigits 10 tm.year := by
    rw [zeroPadded, List.leftpad, Nat.sub_eq_zero_of_le wide,
      List.replicate_zero, List.nil_append]
  rw [Tm.date, CalendarDate.text]
  change _ = zeroPadded 4 tm.year ++ _ ++ _
  rw [unpadded]
  rfl

/-- The agent finds the day's database, the playlist and the media file where
the writer puts them. -/
structure PathsAgree (date : CString) (interruptIdx tsIdx : Nat) : Prop where
  eventLogs :
    eventLogsDbPathText dcimRoot date = some (eventLogsPath date)
  playlist :
    mediaFilePathText dcimRoot date (segmentFolder interruptIdx) indexName =
      some (m3uPath date interruptIdx)
  media :
    mediaFilePathText dcimRoot date (segmentFolder interruptIdx)
        (snprintf 16 (tsName tsIdx)) =
      some (tsPath date interruptIdx tsIdx)

/-- A folder is found under its name while the name has five digits. -/
theorem validSegment_segmentFolder_iff (interruptIdx : Nat) :
    validSegment (segmentFolder interruptIdx) = true ↔
      interruptIdx < 100000 := by
  rw [← validSegment_zeroPadded_iff]
  constructor
  · intro valid
    have length : min 7 (zeroPadded 5 interruptIdx).length = 5 := by
      rw [← List.length_take]
      exact (isDigits_iff.mp valid).1
    have untouched : segmentFolder interruptIdx = zeroPadded 5 interruptIdx :=
      snprintf_of_lt (by omega)
    rw [← untouched]
    exact valid
  · intro valid
    have length := (isDigits_iff.mp valid).1
    rw [segmentFolder, snprintf_of_lt (by omega)]
    exact valid

/-- A media file is found under its name while the name has five digits. -/
theorem validMediaFile_snprintf_iff (tsIdx : Nat) :
    validMediaFile (snprintf 16 (tsName tsIdx)) = true ↔ tsIdx < 100000 := by
  rw [← validMediaFile_tsName_iff]
  constructor
  · intro valid
    rcases validMediaFile_iff.mp valid with isIndex | ⟨index, small, same⟩
    · have length := congrArg List.length isIndex
      have short : (snprintf 16 (tsName tsIdx)).length = 10 := length
      rw [snprintf, List.length_take] at short
      have untouched : snprintf 16 (tsName tsIdx) = tsName tsIdx :=
        snprintf_of_lt (by omega)
      rw [← untouched]
      exact valid
    · have length := congrArg List.length same
      rw [snprintf, List.length_take, tsName, List.length_append,
        tsName, List.length_append,
        @length_zeroPadded 5 index (by decide) small] at length
      change min 15 ((zeroPadded 5 tsIdx).length + 3) = 8 at length
      have untouched : snprintf 16 (tsName tsIdx) = tsName tsIdx := by
        apply snprintf_of_lt
        rw [tsName, List.length_append]
        change (zeroPadded 5 tsIdx).length + 3 < 16
        omega
      rw [← untouched]
      exact valid
  · intro valid
    have small := (validMediaFile_tsName_iff tsIdx).mp valid
    rw [snprintf_of_lt]
    · exact valid
    · rw [tsName, List.length_append, length_zeroPadded (by decide) small]
      decide

/-- Both sides build the same paths exactly while the numbers have five
digits. -/
theorem pathsAgree_iff
    {tm : Tm}
    (onCalendar : OnCalendar tm)
    (interruptIdx tsIdx : Nat) :
    PathsAgree tm.date interruptIdx tsIdx ↔
      interruptIdx < 100000 ∧ tsIdx < 100000 := by
  have valid : validDate tm.date = true :=
    validDate_iff.mpr ⟨_, onCalendar.date_eq⟩
  have isDate : tm.date.length = 10 := by
    rw [onCalendar.date_eq]
    exact onCalendar.calendarDate.length_text
  constructor
  · intro agree
    obtain ⟨⟨_, numbered, named⟩, _⟩ :=
      mediaFilePathText_eq_some_iff.mp agree.media
    exact ⟨(validSegment_segmentFolder_iff interruptIdx).mp numbered,
      (validMediaFile_snprintf_iff tsIdx).mp named⟩
  · rintro ⟨few, short⟩
    have numbered := (validSegment_segmentFolder_iff interruptIdx).mpr few
    have named := (validMediaFile_snprintf_iff tsIdx).mpr short
    have folder : segmentFolder interruptIdx = zeroPadded 5 interruptIdx := by
      rw [segmentFolder, snprintf_of_lt]
      rw [length_zeroPadded (by decide) few]
      decide
    refine ⟨?_, ?_, ?_⟩
    · rw [eventLogsDbPathText_of_validDate _ valid, eventLogsPath_eq isDate,
        below_dcimRoot]
      simp
    · apply mediaFilePathText_eq_some_iff.mpr
      refine ⟨⟨valid, numbered, validMediaFile_iff.mpr (.inl rfl)⟩, ?_⟩
      rw [m3uPath, snprintf_segmentDirPath isDate few (by decide), folder,
        below_dcimRoot]
      simp
    · apply mediaFilePathText_eq_some_iff.mpr
      refine ⟨⟨valid, numbered, named⟩, ?_⟩
      rw [tsPath, snprintf_segmentDirPath isDate few, folder, below_dcimRoot]
      · simp
      · rw [snprintf, List.length_take]
        omega

/-! ## The layout as a whole -/

/-- On a day of the calendar the agent's paths are the writer's exactly while
both numbers have five digits; different accepted names give different paths;
and every path that `MediaFilePath` returns lies below the root and names a day
of the calendar, a folder of five digits, and in it the playlist or a media file
of five digits, so that it is no database's path. -/
theorem reader_agrees_on_layout_iff
    {tm : Tm} (onCalendar : OnCalendar tm) (interruptIdx tsIdx : Nat)
    (root : CString) :
    (PathsAgree tm.date interruptIdx tsIdx ↔
        interruptIdx < 100000 ∧ tsIdx < 100000) ∧
      (∀ date segment file date' segment' file' path,
        mediaFilePathText root date segment file = some path →
          mediaFilePathText root date' segment' file' = some path →
            date = date' ∧ segment = segment' ∧ file = file') ∧
      ∀ date segment file path,
        mediaFilePathText root date segment file = some path →
          ∃ day : CalendarDate, ∃ folder < 100000, ∃ name,
            (name = indexName ∨ ∃ index < 100000, name = tsName index) ∧
              path = Filepath.below root
                [day.text, zeroPadded 5 folder, name] ∧
              ∀ other, eventLogsDbPathText root other ≠ some path := by
  have areNames : ∀ {date segment file : CString},
      validDate date = true → validSegment segment = true →
        validMediaFile file = true →
          ∀ name ∈ [date, segment, file], Filepath.IsName name := by
    intro date segment file dated numbered named name member
    obtain ⟨day, rfl⟩ := validDate_iff.mp dated
    obtain ⟨index, -, rfl⟩ := validSegment_iff.mp numbered
    simp only [List.mem_cons, List.not_mem_nil, or_false] at member
    rcases member with rfl | rfl | rfl
    · exact isName_of_mem_date day
    · exact isName_segment index
    · exact isName_of_validMediaFile named
  refine ⟨pathsAgree_iff onCalendar interruptIdx tsIdx, ?_, ?_⟩
  · intro date segment file date' segment' file' path first second
    obtain ⟨⟨dated, numbered, named⟩, text⟩ :=
      mediaFilePathText_eq_some_iff.mp first
    obtain ⟨⟨dated', numbered', named'⟩, text'⟩ :=
      mediaFilePathText_eq_some_iff.mp second
    have same := Filepath.below_injective root
      (areNames dated numbered named) (areNames dated' numbered' named')
      (List.cons_ne_nil _ _) (List.cons_ne_nil _ _) (text.symm.trans text')
    simpa using same
  · intro date segment file path returned
    obtain ⟨⟨dated, numbered, named⟩, text⟩ :=
      mediaFilePathText_eq_some_iff.mp returned
    have names := areNames dated numbered named
    obtain ⟨day, rfl⟩ := validDate_iff.mp dated
    obtain ⟨folder, few, rfl⟩ := validSegment_iff.mp numbered
    refine ⟨day, folder, few, file, validMediaFile_iff.mp named, text, ?_⟩
    intro other isDatabase
    rw [eventLogsDbPathText, eventLogsDbPath] at isDatabase
    split at isDatabase
    · rename_i valid
      obtain ⟨otherDay, rfl⟩ := validDate_iff.mp valid
      have database := eventLogsDbPathText_of_validDate root valid
      rw [eventLogsDbPathText, eventLogsDbPath, if_pos valid, isDatabase,
        Option.some_inj, text] at database
      have same := Filepath.below_injective root names
        (by
          intro name member
          simp only [List.mem_cons, List.not_mem_nil, or_false] at member
          rcases member with rfl | rfl
          · exact isName_of_mem_date otherDay
          · exact isName_eventLogsName)
        (List.cons_ne_nil _ _) (List.cons_ne_nil _ _) database
      exact absurd (congrArg List.length same) (by decide : ¬(3 = 2))
    · cases isDatabase

/-- The first media file of a day's first folder. -/
theorem reader_agrees_on_layout_iff_first :
    PathsAgree ({} : Tm).date 0 0 ∧
      ∀ date segment file,
        mediaFilePathText dcimRoot date segment file =
            some (tsPath ({} : Tm).date 0 0) →
          date = ({} : Tm).date ∧ segment = segmentFolder 0 ∧
            file = tsName 0 := by
  have onCalendar : OnCalendar {} :=
    ⟨by decide, by decide, by decide, by decide, by decide⟩
  obtain ⟨agrees, injective, -⟩ :=
    reader_agrees_on_layout_iff onCalendar 0 0 dcimRoot
  have agree := agrees.mpr ⟨by decide, by decide⟩
  exact ⟨agree, fun date segment file returned =>
    injective date segment file _ _ _ _ returned agree.media⟩

/-- After a hundred thousand starts on one day the writer records into a folder
whose playlist and media files the agent refuses to name. -/
theorem reader_rejects_wide_folder :
    ∃ state, (writer {}).Reach State.Unused .off state ∧
      OnCalendar {} ∧ state.ws.date = ({} : Tm).date ∧
      state.ws.interruptIdx = 100000 ∧
      mediaFilePathText dcimRoot state.ws.date
        (segmentFolder state.ws.interruptIdx) indexName = none ∧
      ¬PathsAgree state.ws.date state.ws.interruptIdx 0 := by
  obtain ⟨state, reached, date, placed⟩ :=
    exists_reach_interruptIdx {} 100000
  have onCalendar : OnCalendar {} :=
    ⟨by decide, by decide, by decide, by decide, by decide⟩
  refine ⟨state, reached, onCalendar, date, placed, ?_, ?_⟩
  · rw [date, placed]
    decide +kernel
  · rw [date, placed, pathsAgree_iff onCalendar]
    decide

end Agent
end MotionSense
