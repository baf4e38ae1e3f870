import MotionSense.Agent.Layout
import MotionSense.Foundations.Regex

/-!
# The time zone of the agent

`localtime.go`: the agent reads the zone that the C library of the daemon honours
from `/etc/TZ`, with a regular expression for its standard-time part.  The daemon
names its directories by the local date of that zone, and `lastRecordDate` takes
the local date of the agent's zone for today.
-/

namespace MotionSense

namespace Agent

/-! ## Reading `/etc/TZ` -/

/-- `[A-Za-z]`. -/
def isLetter (char : Char) : Bool := char.isAlpha

/-- `[+-]`. -/
def isSign (char : Char) : Bool := char = '+' || char = '-'

/-- `(?::(\d{2}))?`. -/
def colonPart : Regex :=
  .optional <|
    .seq (.repeated (fun char => char = ':') 1 (some 1)) <|
      .group (.repeated Char.isDigit 2 (some 2))

/-- `posixTZ`, matched at the beginning of the text. -/
def posixTz : Regex :=
  .seq (.group (.repeated isLetter 3 none)) <|
    .seq (.group (.repeated isSign 0 (some 1))) <|
      .seq (.group (.repeated Char.isDigit 1 (some 2))) <|
        .seq colonPart colonPart

/-- `unicode.IsSpace`. -/
def isSpace (char : Char) : Bool :=
  (9 ≤ char.toNat && char.toNat ≤ 13) ||
    (0x2000 ≤ char.toNat && char.toNat ≤ 0x200a) ||
    [0x20, 0x85, 0xa0, 0x1680, 0x2028, 0x2029, 0x202f, 0x205f, 0x3000].contains
      char.toNat

/-- `strings.TrimSpace`. -/
def trimSpace (text : CString) : CString :=
  (text.dropWhile isSpace).rdropWhile isSpace

/-- What `time.FixedZone` returns: the zone so many seconds east of UTC. -/
structure Zone where
  name : CString
  offset : Int
  deriving DecidableEq

/-- `localFromEtcTZ`, given what reading the file returned. -/
def localFromEtcTz (file : Option CString) : Option Zone := do
  let raw ← file
  match posixTz.findSubmatch (trimSpace raw) with
  | some [name, sign, hours, minutes, seconds] =>
      let secs : Int :=
        decimal hours * 3600 + decimal minutes * 60 + decimal seconds
      some ⟨name, if sign ≠ ['-'] then -secs else secs⟩
  | _ => none

/-! ## Zones without daylight saving -/

/-- A standard-time zone of POSIX: a name of letters, or a quoted one, and the
offset that is added to the local time to arrive at UTC. -/
structure PosixTz where
  quoted : Bool
  name : CString
  sign : CString
  hours : CString
  /-- The minutes and the seconds, as far as they are given. -/
  parts : List CString
  name_long : 3 ≤ name.length
  name_chars : ∀ char ∈ name, isLetter char = true ∨
    quoted = true ∧ (char.isDigit || isSign char) = true
  sign_short : sign.length ≤ 1
  sign_chars : ∀ char ∈ sign, isSign char = true
  hours_length : hours.length = 1 ∨ hours.length = 2
  hours_digits : ∀ char ∈ hours, char.isDigit = true
  hours_le : decimal hours ≤ 24
  parts_length : parts.length ≤ 2
  part_length : ∀ part ∈ parts, part.length = 2
  part_digits : ∀ part ∈ parts, ∀ char ∈ part, char.isDigit = true
  part_lt : ∀ part ∈ parts, decimal part < 60

namespace PosixTz

/-- The zone as it is written in the file. -/
def text (tz : PosixTz) : CString :=
  (if tz.quoted then '<' :: tz.name ++ ['>'] else tz.name) ++
    (tz.sign ++ (tz.hours ++ tz.parts.flatMap (':' :: ·)))

/-- The value of `hh:mm:ss`. -/
def seconds (tz : PosixTz) : Nat :=
  decimal tz.hours * 3600 + decimal (tz.parts.getD 0 []) * 60 +
    decimal (tz.parts.getD 1 [])

/-- The offset with its sign, as POSIX writes it. -/
def posixOffset (tz : PosixTz) : Int :=
  if tz.sign = ['-'] then -tz.seconds else tz.seconds

/-- How far the zone is east of UTC. -/
def utcOffset (tz : PosixTz) : Int := -tz.posixOffset

end PosixTz

/-! ## Local dates -/

/-- A day of the calendar. -/
structure CivilDate where
  year : Nat
  month : Nat
  day : Nat
  deriving DecidableEq

/-- The date so many days after March 1 of the year 0, which begins an era of
146097 days. -/
def civilDate (days : Nat) : CivilDate :=
  let era := days / 146097
  let dayOfEra := days % 146097
  let yearOfEra :=
    (dayOfEra - dayOfEra / 1460 + dayOfEra / 36524 - dayOfEra / 146096) / 365
  let dayOfYear := dayOfEra - (365 * yearOfEra + yearOfEra / 4 - yearOfEra / 100)
  let shifted := (5 * dayOfYear + 2) / 153
  let month := if shifted < 10 then shifted + 3 else shifted - 9
  { year := era * 400 + yearOfEra + if month ≤ 2 then 1 else 0
    month
    day := dayOfYear - (153 * shifted + 2) / 5 + 1 }

/-- The local date so many seconds after the epoch, in a zone so many seconds east
of UTC; the epoch is 719468 days after March 1 of the year 0. -/
def localDate (offset : Int) (now : Nat) : CivilDate :=
  civilDate (((now : Int) + offset) / 86400 + 719468).toNat

/-- `strftime` with `%Y-%m-%d`. -/
def CivilDate.strftime (date : CivilDate) : CString :=
  Nat.toDigits 10 date.year ++ '-' :: zeroPadded 2 date.month ++
    '-' :: zeroPadded 2 date.day

/-- `Format` with `2006-01-02`. -/
def CivilDate.format (date : CivilDate) : CString :=
  zeroPadded 4 date.year ++ '-' :: zeroPadded 2 date.month ++
    '-' :: zeroPadded 2 date.day

/-- `today_string`, in the zone of the C library. -/
def todayString (tz : PosixTz) (now : Nat) : CString :=
  (localDate tz.utcOffset now).strftime

/-- `today` of `lastRecordDate`: `init` has set `time.Local`, which is UTC
otherwise. -/
def today (file : Option CString) (now : Nat) : CString :=
  (localDate (((localFromEtcTz file).map Zone.offset).getD 0) now).format

/-! ## Dates in four-digit years -/

/-- From the year 1000 on both formats print the year alike. -/
theorem CivilDate.format_eq_strftime
    {date : CivilDate} (recent : 1000 ≤ date.year) :
    date.format = date.strftime := by
  have long : ¬(Nat.toDigits 10 date.year).length ≤ 3 := by
    rw [Nat.length_toDigits_le_iff (by decide) (by decide)]
    omega
  unfold CivilDate.format CivilDate.strftime
  rw [zeroPadded, List.leftpad, Nat.sub_eq_zero_of_le (by omega),
    List.replicate_zero, List.nil_append]

/-- Instants since the epoch are in the year 1600 or later, in every zone within
two days of UTC. -/
theorem localDate_year
    {offset : Int} (near : -172800 ≤ offset) (now : Nat) :
    1600 ≤ (localDate offset now).year := by
  have days :
      719466 ≤ (((now : Int) + offset) / 86400 + 719468).toNat := by omega
  have era : 4 ≤ (((now : Int) + offset) / 86400 + 719468).toNat / 146097 := by
    omega
  rw [localDate, civilDate]
  exact le_add_right (le_add_right (Nat.mul_le_mul_right 400 era))

/-! ## What the expression accepts -/

/-- Letters, digits, signs, colons and angle brackets are no white space. -/
theorem isSpace_eq_false
    {char : Char} (visible : 33 ≤ char.toNat ∧ char.toNat ≤ 126) :
    isSpace char = false := by
  obtain ⟨least, most⟩ := visible
  simp only [isSpace, List.contains_cons, List.contains_nil, Bool.or_eq_false_iff,
    Bool.and_eq_false_iff, decide_eq_false_iff_not, beq_eq_false_iff_ne, and_true]
  omega

theorem visible_of_isLetter
    {char : Char} (letter : isLetter char = true) :
    65 ≤ char.toNat ∧ char.toNat ≤ 122 := by
  rw [isLetter, Char.isAlpha, Bool.or_eq_true] at letter
  rcases letter with upper | lower
  · rw [Char.isUpper, decide_eq_true_iff] at upper
    exact ⟨upper.1, le_trans upper.2 (by decide)⟩
  · rw [Char.isLower, Bool.and_eq_true, decide_eq_true_iff,
      decide_eq_true_iff] at lower
    exact ⟨le_trans (by decide) lower.1, lower.2⟩

theorem visible_of_isDigit
    {char : Char} (digit : char.isDigit = true) :
    48 ≤ char.toNat ∧ char.toNat ≤ 57 :=
  Char.isDigit_iff_toNat.mp digit

theorem visible_of_isSign
    {char : Char} (sign : isSign char = true) :
    char.toNat = 43 ∨ char.toNat = 45 := by
  rw [isSign, Bool.or_eq_true, decide_eq_true_iff, decide_eq_true_iff] at sign
  rcases sign with rfl | rfl
  · exact Or.inl rfl
  · exact Or.inr rfl

theorem not_isLetter_of_isSign
    {char : Char} (sign : isSign char = true) : isLetter char = false := by
  by_contra letter
  have first := visible_of_isSign sign
  have second := visible_of_isLetter ((Bool.not_eq_false _).mp letter)
  omega

theorem not_isLetter_of_isDigit
    {char : Char} (digit : char.isDigit = true) : isLetter char = false := by
  by_contra letter
  have first := visible_of_isDigit digit
  have second := visible_of_isLetter ((Bool.not_eq_false _).mp letter)
  omega

theorem not_isSign_of_isDigit
    {char : Char} (digit : char.isDigit = true) : isSign char = false := by
  by_contra sign
  have first := visible_of_isDigit digit
  have second := visible_of_isSign ((Bool.not_eq_false _).mp sign)
  omega

/-- White space behind a text without any is trimmed. -/
theorem trimSpace_append
    {text blank : CString} (solid : ∀ char ∈ text, isSpace char = false)
    (white : ∀ char ∈ blank, isSpace char = true) :
    trimSpace (text ++ blank) = text := by
  have kept : text.rdropWhile isSpace = text := by
    rw [List.rdropWhile_eq_self_iff]
    intro nonempty
    rw [solid _ (List.getLast_mem nonempty)]
    exact Bool.false_ne_true
  have trimmed : (text ++ blank).rdropWhile isSpace = text := by
    rw [List.rdropWhile, List.reverse_append,
      List.dropWhile_append_of_pos fun char member =>
        white char (List.mem_reverse.mp member)]
    exact kept
  rw [trimSpace]
  cases text with
  | nil =>
      rw [List.nil_append, List.dropWhile_eq_nil_iff.mpr white]
      rfl
  | cons char text =>
      rw [List.cons_append, List.dropWhile_cons_of_neg
        (Bool.not_eq_true _ ▸ solid char (List.mem_cons_self))]
      exact trimmed

open Regex in
/-- A part of two digits is taken. -/
theorem colonPart_prefers
    {part rest : CString} (length : part.length = 2)
    (digits : ∀ char ∈ part, char.isDigit = true) :
    colonPart.Prefers (':' :: part ++ rest) ([part], rest) := by
  have colon :
      (repeated (fun char => char = ':') 1 (some 1)).Prefers
        ([':'] ++ (part ++ rest)) ([], part ++ rest) :=
    prefers_repeated (longest_some (by simp) (Or.inl rfl)) le_rfl
  have two :
      (repeated Char.isDigit 2 (some 2)).Prefers (part ++ rest) ([], rest) :=
    prefers_repeated (longest_some digits (Or.inl length)) length.ge
  exact (colon.seq two.group).optional

open Regex in
/-- At the end of the text there is no part. -/
theorem colonPart_nil : colonPart.Prefers [] ([[]], []) :=
  (rejects_repeated Nat.zero_lt_one).seq.optional

/-- What the two optional groups take of the minutes and the seconds. -/
theorem parts_prefers
    {parts : List CString} (few : parts.length ≤ 2)
    (length : ∀ part ∈ parts, part.length = 2)
    (digits : ∀ part ∈ parts, ∀ char ∈ part, char.isDigit = true) :
    (Regex.seq colonPart colonPart).Prefers (parts.flatMap (':' :: ·))
      ([parts.getD 0 [], parts.getD 1 []], []) := by
  have taken : ∀ part ∈ parts, ∀ rest,
      colonPart.Prefers (':' :: part ++ rest) ([part], rest) :=
    fun part member rest =>
      colonPart_prefers (length part member) (digits part member)
  rcases parts with _ | ⟨minutes, _ | ⟨seconds, _ | ⟨third, more⟩⟩⟩
  · exact colonPart_nil.seq colonPart_nil
  · rw [List.flatMap_cons, List.flatMap_nil]
    exact (taken minutes (by simp) []).seq colonPart_nil
  · rw [List.flatMap_cons, List.flatMap_cons, List.flatMap_nil]
    exact (taken minutes (by simp) _).seq (taken seconds (by simp) [])
  · rw [List.length_cons, List.length_cons, List.length_cons] at few
    omega

namespace PosixTz

variable (tz : PosixTz)

/-- The first character behind the hours is a colon. -/
theorem head_parts :
    ∀ char ∈ (tz.parts.flatMap (':' :: ·)).head?, char = ':' := by
  intro char first
  cases parts : tz.parts with
  | nil => simp [parts] at first
  | cons part more => simpa [parts, eq_comm] using first

/-- The first character behind the sign is a digit. -/
theorem head_hours (rest : CString) :
    ∀ char ∈ (tz.hours ++ rest).head?, char.isDigit = true := by
  intro char first
  have digits := tz.hours_digits
  have length := tz.hours_length
  cases hours : tz.hours with
  | nil => simp [hours] at length
  | cons digit more =>
      rw [hours, List.cons_append, List.head?_cons, Option.mem_some_iff] at first
      exact digits char (by rw [hours, first]; exact List.mem_cons_self)

/-- The first character behind the name is a sign or a digit. -/
theorem head_sign (rest : CString) :
    ∀ char ∈ (tz.sign ++ (tz.hours ++ rest)).head?,
      isSign char = true ∨ char.isDigit = true := by
  intro char first
  have chars := tz.sign_chars
  cases sign : tz.sign with
  | nil =>
      rw [sign, List.nil_append] at first
      exact Or.inr (tz.head_hours rest char first)
  | cons symbol more =>
      rw [sign, List.cons_append, List.head?_cons, Option.mem_some_iff] at first
      exact Or.inl (chars char (by rw [sign, first]; exact List.mem_cons_self))

open Regex in
/-- The sign, the hours, the minutes and the seconds are what the groups behind
the name take. -/
theorem offset_prefers :
    (seq (group (repeated isSign 0 (some 1))) <|
      seq (group (repeated Char.isDigit 1 (some 2))) <|
        seq colonPart colonPart).Prefers
      (tz.sign ++ (tz.hours ++ tz.parts.flatMap (':' :: ·)))
      ([tz.sign, tz.hours, tz.parts.getD 0 [], tz.parts.getD 1 []], []) := by
  have hours :
      (repeated Char.isDigit 1 (some 2)).Prefers
        (tz.hours ++ tz.parts.flatMap (':' :: ·))
        ([], tz.parts.flatMap (':' :: ·)) := by
    refine prefers_repeated (longest_some tz.hours_digits ?_) (by
      rcases tz.hours_length with one | two <;> omega)
    rcases tz.hours_length with one | two
    · refine Or.inr ⟨by omega, fun char first => ?_⟩
      rw [tz.head_parts char first]
      rfl
    · exact Or.inl two
  have sign :
      (repeated isSign 0 (some 1)).Prefers
        (tz.sign ++ (tz.hours ++ tz.parts.flatMap (':' :: ·)))
        ([], tz.hours ++ tz.parts.flatMap (':' :: ·)) := by
    refine prefers_repeated (longest_some tz.sign_chars ?_) (Nat.zero_le _)
    rcases Nat.lt_or_ge tz.sign.length 1 with none | one
    · refine Or.inr ⟨none, fun char first => ?_⟩
      exact not_isSign_of_isDigit (tz.head_hours _ char first)
    · exact Or.inl (le_antisymm tz.sign_short one)
  exact sign.group.seq (hours.group.seq
    (parts_prefers tz.parts_length tz.part_length tz.part_digits))

/-- The expression takes a zone with a plain name apart as it was put together. -/
theorem posixTz_prefers (plain : tz.quoted = false) :
    posixTz.Prefers tz.text
      ([tz.name, tz.sign, tz.hours, tz.parts.getD 0 [], tz.parts.getD 1 []],
        []) := by
  have name :
      (Regex.repeated isLetter 3 none).Prefers
        (tz.name ++ (tz.sign ++ (tz.hours ++ tz.parts.flatMap (':' :: ·))))
        ([], tz.sign ++ (tz.hours ++ tz.parts.flatMap (':' :: ·))) := by
    refine Regex.prefers_repeated (Regex.longest_none ?_ ?_) tz.name_long
    · intro char member
      rcases tz.name_chars char member with letter | ⟨quoted, _⟩
      · exact letter
      · rw [plain] at quoted
        cases quoted
    · intro char first
      rcases tz.head_sign _ char first with sign | digit
      · exact not_isLetter_of_isSign sign
      · exact not_isLetter_of_isDigit digit
  rw [text, if_neg (by rw [plain]; exact Bool.false_ne_true)]
  exact name.group.seq tz.offset_prefers

/-- A quoted name is not accepted. -/
theorem posixTz_rejects (quoted : tz.quoted = true) :
    posixTz.Rejects tz.text := by
  have bracket : isLetter '<' = false := by decide
  have name : (Regex.repeated isLetter 3 none).Rejects tz.text := by
    apply Regex.rejects_repeated
    rw [text, if_pos quoted, List.cons_append, List.cons_append, Regex.longest,
      List.takeWhile_cons_of_neg (by rw [bracket]; exact Bool.false_ne_true)]
    exact Nat.zero_lt_succ 2
  exact name.group.seq

/-- No character of a zone is white space. -/
theorem solid : ∀ char ∈ tz.text, isSpace char = false := by
  have sign : ∀ char, isSign char = true → isSpace char = false := by
    intro char symbol
    have code := visible_of_isSign symbol
    exact isSpace_eq_false (by omega)
  have digit : ∀ char, char.isDigit = true → isSpace char = false := by
    intro char digit
    have code := visible_of_isDigit digit
    exact isSpace_eq_false (by omega)
  have name : ∀ char ∈ tz.name, isSpace char = false := by
    intro char member
    rcases tz.name_chars char member with letter | ⟨_, other⟩
    · have code := visible_of_isLetter letter
      exact isSpace_eq_false (by omega)
    · rcases (Bool.or_eq_true _ _).mp other with isDigit | isSign
      · exact digit char isDigit
      · exact sign char isSign
  intro char member
  rw [text, List.mem_append, List.mem_append, List.mem_append,
    List.mem_flatMap] at member
  rcases member with inName | inSign | inHours | ⟨part, inParts, inPart⟩
  · split at inName
    · rw [List.cons_append, List.mem_cons, List.mem_append,
        List.mem_singleton] at inName
      rcases inName with rfl | inName | rfl
      · rfl
      · exact name char inName
      · rfl
    · exact name char inName
  · exact sign char (tz.sign_chars char inSign)
  · exact digit char (tz.hours_digits char inHours)
  · rcases List.mem_cons.mp inPart with rfl | inPart
    · rfl
    · exact digit char (tz.part_digits part inParts char inPart)

/-! ## The zone that is returned -/

/-- The offset that the code computes is the one of POSIX. -/
theorem localFromEtcTz_plain
    (plain : tz.quoted = false) {blank : CString}
    (white : ∀ char ∈ blank, isSpace char = true) :
    localFromEtcTz (some (tz.text ++ blank)) = some ⟨tz.name, tz.utcOffset⟩ := by
  have found := (tz.posixTz_prefers plain).findSubmatch
  have secs : (decimal tz.hours * 3600 + decimal (tz.parts.getD 0 []) * 60 +
      decimal (tz.parts.getD 1 []) : Int) = tz.seconds := by
    rw [seconds]
    push_cast
    rfl
  have offset : (if tz.sign ≠ ['-'] then -(tz.seconds : Int) else tz.seconds) =
      tz.utcOffset := by
    rw [utcOffset, posixOffset]
    split_ifs <;> simp_all
  simp only [localFromEtcTz, Option.bind_eq_bind, Option.bind_some,
    trimSpace_append tz.solid white, found, secs, offset]

theorem localFromEtcTz_quoted
    (quoted : tz.quoted = true) {blank : CString}
    (white : ∀ char ∈ blank, isSpace char = true) :
    localFromEtcTz (some (tz.text ++ blank)) = none := by
  have found := (tz.posixTz_rejects quoted).findSubmatch
  simp only [localFromEtcTz, Option.bind_eq_bind, Option.bind_some,
    trimSpace_append tz.solid white, found]

/-- A zone is less than two days away from UTC. -/
theorem utcOffset_near : -172800 ≤ tz.utcOffset := by
  have small : ∀ index, decimal (tz.parts.getD index []) < 60 := by
    intro index
    rw [List.getD_eq_getElem?_getD]
    cases found : tz.parts[index]? with
    | none => decide
    | some part => exact tz.part_lt part (List.mem_of_getElem? found)
  have hours := tz.hours_le
  have minutes := small 0
  have secs := small 1
  rw [utcOffset, posixOffset, seconds]
  split_ifs <;> push_cast <;> omega

end PosixTz

/-- The agent's zone has the offset of the daemon's, and its local date is the name
of the daemon's directory at every instant, exactly if the name of the zone is not
quoted. -/
theorem local_date_shared_iff
    (tz : PosixTz)
    {blank : CString}
    (white : ∀ char ∈ blank, isSpace char = true) :
    ((∃ zone, localFromEtcTz (some (tz.text ++ blank)) = some zone ∧
          zone.offset = tz.utcOffset) ∧
        ∀ now, today (some (tz.text ++ blank)) now = todayString tz now) ↔
      tz.quoted = false := by
  constructor
  · rintro ⟨⟨zone, returned, _⟩, _⟩
    by_contra quoted
    rw [tz.localFromEtcTz_quoted ((Bool.not_eq_false _).mp quoted) white]
      at returned
    cases returned
  · intro plain
    have returned := tz.localFromEtcTz_plain plain white
    refine ⟨⟨_, returned, rfl⟩, fun now => ?_⟩
    have recent := localDate_year tz.utcOffset_near now
    rw [today, returned, todayString]
    change (localDate tz.utcOffset now).format = _
    exact CivilDate.format_eq_strftime (by omega)

/-- A zone eight hours east of UTC. -/
def eightEast
    (quoted : Bool)
    (name : CString)
    (long : 3 ≤ name.length)
    (chars : ∀ char ∈ name, isLetter char = true ∨
      quoted = true ∧ (char.isDigit || isSign char) = true) :
    PosixTz where
  quoted := quoted
  name := name
  sign := ['-']
  hours := ['8']
  parts := []
  name_long := long
  name_chars := chars
  sign_short := by decide
  sign_chars := by simp [isSign]
  hours_length := by decide
  hours_digits := by simp
  hours_le := by decide
  parts_length := by decide
  part_length := by simp
  part_digits := by simp
  part_lt := by simp

/-- `AWST-8`. -/
def awst : PosixTz :=
  eightEast false ['A', 'W', 'S', 'T'] (by decide) fun char member =>
    Or.inl (List.all_eq_true.mp (by decide) char member)

/-- `<+08>-8`. -/
def quotedEight : PosixTz :=
  eightEast true ['+', '0', '8'] (by decide) fun char member =>
    Or.inr ⟨rfl, List.all_eq_true.mp
      (by decide : (['+', '0', '8'].all fun char =>
        char.isDigit || isSign char) = true) char member⟩

theorem local_date_shared_awst :
    awst.text = "AWST-8".toList ∧
      (((∃ zone, localFromEtcTz (some (awst.text ++ ['\n'])) = some zone ∧
            zone.offset = awst.utcOffset) ∧
          ∀ now, today (some (awst.text ++ ['\n'])) now =
            todayString awst now) ↔
        awst.quoted = false) :=
  ⟨by decide, local_date_shared_iff awst (List.all_eq_true.mp (by decide))⟩

/-- At four in the afternoon of September 4, 2026 in UTC, the daemon has begun the
directory of the fifth. -/
theorem quoted_zone_rejected :
    quotedEight.text = "<+08>-8".toList ∧
      localFromEtcTz (some (quotedEight.text ++ ['\n'])) = none ∧
      quotedEight.utcOffset = 28800 ∧
      todayString quotedEight 1788537600 = "2026-09-05".toList ∧
      today (some (quotedEight.text ++ ['\n'])) 1788537600 =
        "2026-09-04".toList := by
  decide +kernel

end Agent

end MotionSense
