import MotionSense.Storage.Hls

/-!
# The recorder's layout as the agent knows it

`recording/layout.go`.  A path below `dcimRoot` is kept as its components, and
building one fails on names that do not look like the recorder's.
-/

namespace MotionSense

namespace Agent

/-- `daysIn` of package `time`. -/
def daysIn (month year : Nat) : Nat :=
  if month = 2 then
    if year % 4 = 0 ∧ (year % 100 ≠ 0 ∨ year % 400 = 0) then 29 else 28
  else if month = 4 ∨ month = 6 ∨ month = 9 ∨ month = 11 then 30
  else 31

/-- The value of decimal digits. -/
def decimal (digits : CString) : Nat :=
  Nat.ofDigitChars 10 digits 0

/-- `ValidDate`: `dateRe`, then `time.Parse` with `2006-01-02`. -/
def validDate : CString → Bool
  | [y₁, y₂, y₃, y₄, '-', m₁, m₂, '-', d₁, d₂] =>
      [y₁, y₂, y₃, y₄, m₁, m₂, d₁, d₂].all Char.isDigit &&
        (let year := decimal [y₁, y₂, y₃, y₄]
         let month := decimal [m₁, m₂]
         let day := decimal [d₁, d₂]
         1 ≤ month && month ≤ 12 && 1 ≤ day && day ≤ daysIn month year)
  | _ => false

/-- `ValidSegment`. -/
def validSegment (segment : CString) : Bool :=
  segment.length = 5 && segment.all Char.isDigit

/-- `ValidMediaFile`. -/
def validMediaFile (file : CString) : Bool :=
  (validSegment (file.take 5) && file.drop 5 = ".ts".toList) ||
    file = indexName

/-- `EventLogsDBPath`: the day whose database it is. -/
def eventLogsDbPath (date : CString) : Option CString :=
  if validDate date then some date else none

/-- `MediaFilePath`. -/
def mediaFilePath (date segment file : CString) :
    Option (SegmentDir × CString) :=
  if validDate date && validSegment segment && validMediaFile file then
    some (⟨date, segment⟩, file)
  else none

end Agent
end MotionSense
