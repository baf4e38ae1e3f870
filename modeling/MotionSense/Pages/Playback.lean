import MotionSense.Agent.Recordings

/-!
# The playback page

`loadDate` of `playback.js` sets the date at once and stores the segments when its
own reply arrives.  Any number of calls may wait at the same time, and their
replies arrive in any order.
-/

namespace MotionSense

open Agent

namespace Playback

/-- An element of `videoSegments`. -/
structure VideoSegment where
  folder : CString
  startTime : CString
  totalFrames : Int
  playlistUrl : CString
  durationMs : Int
  motionFrames : List Int
  deriving DecidableEq

/-- What `loadVideoSegments` makes of an element of `data.segments`. -/
def VideoSegment.of (segment : SegmentResponse) : VideoSegment where
  folder := segment.segment
  startTime := segment.startTime
  totalFrames := segment.totalFrames
  playlistUrl := segment.playlistUrl
  durationMs := segment.durationMs
  motionFrames := segment.motionFrames

/-- What a call of `loadVideoSegments` waits for: the response of its `fetch`, or
the body of the response. -/
inductive Awaits
  | response
  | body (data : DayRecordingResponse)

/-- A call of `loadDate` that waits. -/
structure Load where
  date : CString
  awaits : Awaits

/-- A call of `loadDate` that has come to its end, with the segments it has stored.
It stores none when it ends in its `catch` branch. -/
structure Ended where
  date : CString
  stored : Option (List VideoSegment)
  deriving DecidableEq

/-- The segments of the day, none if the request failed. -/
def Ended.segments (ended : Ended) : List VideoSegment :=
  ended.stored.getD []

/-- `PlaybackApp`: the calls under way, and those that have ended, newest first.
No function of the page reads what has ended. -/
structure PlaybackApp where
  currentDate : Option CString := none
  currentSegment : Option CString := none
  videoSegments : List VideoSegment := []
  /-- What `player.src` was given last. -/
  source : Option CString := none
  /-- Calls of `player.ready` that wait for the player. -/
  callbacks : Nat := 0
  loads : List Load := []
  ended : List Ended := []

/-- The URL of a playlist, as the agent and the page make it. -/
def playlistUrl (date folder : CString) : CString :=
  "/media/".toList ++ date ++ '/' :: folder ++ "/index.m3u8".toList

namespace PlaybackApp

variable (app : PlaybackApp)

/-- `playVideoSegment`, as far as the player's source goes. -/
def playVideoSegment (folder : CString) : PlaybackApp :=
  match app.currentDate with
  | none => app
  | some date =>
      let videoSource :=
        match app.videoSegments.find? fun segment => segment.folder = folder with
        | none => playlistUrl date folder
        | some segment =>
            if segment.playlistUrl ≠ [] then segment.playlistUrl
            else playlistUrl date folder
      { app with source := some videoSource, currentSegment := some folder }

/-- `loadDate`, up to its `fetch`. -/
def loadDate (date : CString) : PlaybackApp :=
  if date = [] then app
  else
    { app with
      currentDate := some date
      loads := app.loads ++ [⟨date, .response⟩] }

/-- A call ends, and others wait on. -/
def finish (others : List Load) (ended : Ended) : PlaybackApp :=
  { app with loads := others, ended := ended :: app.ended }

/-- A call stores its segments and ends. -/
def store
    (others : List Load) (date : CString) (videoSegments : List VideoSegment) :
    PlaybackApp :=
  { app with videoSegments }.finish others ⟨date, some videoSegments⟩

/-- `loadVideoSegments` behind its `fetch`, between the calls made before and
after it. -/
def responds
    (before after : List Load) (date : CString)
    (reply : Response DayRecordingResponse) : PlaybackApp :=
  match reply with
  | .error _ _ => app.store (before ++ after) date []
  | .okay data =>
      { app with loads := before ++ ⟨date, .body data⟩ :: after }

/-- The callback given to `player.ready`.  Without segments it throws. -/
def playFirst : PlaybackApp :=
  match app.videoSegments with
  | [] => app
  | first :: _ => app.playVideoSegment first.folder

/-- The end of `loadVideoSegments`, which loads the first segment, at once or when
the player is ready. -/
def loadFirst (readyState : Nat) : PlaybackApp :=
  match app.videoSegments with
  | [] => app
  | first :: _ =>
      if readyState ≥ 1 then app.playVideoSegment first.folder
      else { app with callbacks := app.callbacks + 1 }

/-- `loadVideoSegments` behind `json`.  The agent's answers always have an array of
segments. -/
def parses
    (others : List Load) (date : CString) (data : DayRecordingResponse)
    (readyState : Nat) : PlaybackApp :=
  (app.store others date (data.segments.map VideoSegment.of)).loadFirst
    readyState

/-- The player gets ready. -/
def playerReady : PlaybackApp :=
  { app with callbacks := app.callbacks - 1 }.playFirst

end PlaybackApp

/-- What the agent can answer for a day. -/
def Answers (date : CString) : Response DayRecordingResponse → Prop
  | .error _ _ => True
  | .okay data => validDate date = true ∧ ∀ segment ∈ data.segments,
      segment.playlistUrl = playlistUrl date segment.segment

/-- One step of the page: the user asks for a day or plays a row of the table, a
request comes to something, or the player gets ready. -/
inductive Step : PlaybackApp → PlaybackApp → Prop
  | loadDate (app : PlaybackApp) (date : CString) :
      Step app (app.loadDate date)
  | responds (app : PlaybackApp) {before after : List Load} {date : CString}
      (waiting : app.loads = before ++ ⟨date, .response⟩ :: after)
      {reply : Response DayRecordingResponse} (answers : Answers date reply) :
      Step app (app.responds before after date reply)
  | parses (app : PlaybackApp) {before after : List Load} {date : CString}
      {data : DayRecordingResponse}
      (waiting : app.loads = before ++ ⟨date, .body data⟩ :: after)
      (readyState : Nat) :
      Step app (app.parses (before ++ after) date data readyState)
  | rejects (app : PlaybackApp) {before after : List Load} {load : Load}
      (waiting : app.loads = before ++ load :: after) :
      Step app (app.finish (before ++ after) ⟨load.date, none⟩)
  | ready (app : PlaybackApp) (pending : 0 < app.callbacks) :
      Step app app.playerReady
  | plays (app : PlaybackApp) {segment : VideoSegment}
      (listed : segment ∈ app.videoSegments) :
      Step app (app.playVideoSegment segment.folder)

/-- The states of the page. -/
def Reach (app : PlaybackApp) : Prop := Relation.ReflTransGen Step {} app

/-- The page shows the day it was last asked for: it has the segments of that day,
none if the request failed, and the rows of its table play playlists of that
day. -/
def PlaybackApp.ShowsCurrentDay (app : PlaybackApp) : Prop :=
  ∀ date ∈ app.currentDate,
    (∃ ended ∈ app.ended, ended.date = date ∧
      app.videoSegments = ended.segments) ∧
    ∀ segment ∈ app.videoSegments,
      (app.playVideoSegment segment.folder).source =
        some (playlistUrl date segment.folder)

/-- The reply stored last. -/
def PlaybackApp.lastStored (app : PlaybackApp) : Option Ended :=
  app.ended.find? fun ended => ended.stored.isSome

/-- The reply stored last is for the day asked for last, unless it is empty and so
is that day. -/
def PlaybackApp.LastReplyFits (app : PlaybackApp) : Prop :=
  ∀ date ∈ app.currentDate, ∀ last ∈ app.lastStored,
    last.date = date ∨
      last.segments = [] ∧
        ∃ ended ∈ app.ended, ended.date = date ∧ ended.segments = []

instance (app : PlaybackApp) : Decidable app.ShowsCurrentDay :=
  inferInstanceAs (Decidable (∀ date ∈ app.currentDate,
    (∃ ended ∈ app.ended, ended.date = date ∧
      app.videoSegments = ended.segments) ∧
    ∀ segment ∈ app.videoSegments, _ = _))

instance (app : PlaybackApp) : Decidable app.LastReplyFits :=
  inferInstanceAs (Decidable (∀ date ∈ app.currentDate,
    ∀ last ∈ app.lastStored, last.date = date ∨
      last.segments = [] ∧ ∃ ended ∈ app.ended, ended.date = date ∧
        ended.segments = []))

/-! ## The agent's answers -/

theorem length_of_validDate {date : CString} (valid : validDate date = true) :
    date.length = 10 := by
  unfold validDate at valid
  split at valid
  · rfl
  · cases valid

/-- A playlist's URL names its day. -/
theorem date_of_playlistUrl
    {date other folder otherFolder : CString}
    (valid : validDate date = true) (validToo : validDate other = true)
    (same : playlistUrl date folder = playlistUrl other otherFolder) :
    date = other := by
  unfold playlistUrl at same
  rw [List.append_assoc, List.append_assoc, List.append_assoc,
    List.append_assoc] at same
  exact (List.append_inj (List.append_cancel_left same)
    ((length_of_validDate valid).trans (length_of_validDate validToo).symm)).1

open Program in
/-- The elements of an answer have the URLs of their day. -/
theorem segmentResponses_playlistUrl
    (date : CString) (events : List EventDetail) (segments : List Segment)
    (agent : AgentState) :
    (segmentResponses date events segments).wp
      (fun responses _ => ∀ segment ∈ responses,
        segment.playlistUrl = playlistUrl date segment.segment)
      (fun _ => True) agent := by
  induction segments generalizing agent with
  | nil => exact fun segment member => absurd member List.not_mem_nil
  | cons segment segments inductionHypothesis =>
      have one : (segmentResponse date events segment).wp
          (fun response _ =>
            response.playlistUrl = playlistUrl date response.segment)
          (fun _ => True) agent :=
        wp_then (wp_true _ agent) fun _ _ _ => rfl
      refine wp_then one fun first reached first_url => ?_
      refine wp_then (inductionHypothesis reached) fun rest _ urls => ?_
      intro other member
      rcases List.mem_cons.mp member with rfl | later
      · exact first_url
      · exact urls other later

open Program in
/-- Every answer of `recordingDayHandler` is one that the page expects. -/
theorem recordingDayHandler_answers (date : CString) (agent : AgentState) :
    (recordingDayHandler date).wp (fun reply _ => Answers date reply)
      (fun _ => True) agent := by
  refine wp_split (fun _ => trivial) fun valid => ?_
  refine wp_then (wp_true _ agent) fun segments queried _ => ?_
  cases noRecordingsAsEmpty segments with
  | error error => exact trivial
  | ok segments =>
      refine wp_then (wp_true _ queried) fun events read _ => ?_
      cases noRecordingsAsEmpty events with
      | error error => exact trivial
      | ok events =>
          refine wp_then (segmentResponses_playlistUrl date events segments read)
            fun responses _ urls => ?_
          exact ⟨by simpa using valid, urls⟩

/-! ## What every step keeps -/

/-- The segments that a reply for the day can have stored. -/
def Made (ended : Ended) : Prop :=
  ∀ segments ∈ ended.stored, ∀ segment ∈ segments,
    validDate ended.date = true ∧
      segment.playlistUrl = playlistUrl ended.date segment.folder

theorem Made.of_mem
    {ended : Ended} (made : Made ended)
    {segment : VideoSegment} (member : segment ∈ ended.segments) :
    validDate ended.date = true ∧
      segment.playlistUrl = playlistUrl ended.date segment.folder := by
  rw [Ended.segments] at member
  cases stored : ended.stored with
  | none =>
      rw [stored] at member
      exact absurd member List.not_mem_nil
  | some segments =>
      rw [stored] at member
      exact made segments stored segment member

/-- The page shows what was stored last; what was stored, or is about to be, comes
from the agent; and the day asked for last is waited for or has ended. -/
structure Sound (app : PlaybackApp) : Prop where
  shown : app.videoSegments = (app.lastStored.map Ended.segments).getD []
  made : ∀ ended ∈ app.ended, Made ended
  awaited : ∀ date data, ⟨date, .body data⟩ ∈ app.loads →
    Answers date (.okay data)
  current : ∀ date ∈ app.currentDate,
    (∃ load ∈ app.loads, load.date = date) ∨
      ∃ ended ∈ app.ended, ended.date = date

namespace Sound

variable {app : PlaybackApp} (sound : Sound app)

include sound

/-- Playing changes nothing that this is about. -/
theorem playVideoSegment (folder : CString) :
    Sound (app.playVideoSegment folder) := by
  unfold PlaybackApp.playVideoSegment
  split
  · exact sound
  · exact ⟨sound.shown, sound.made, sound.awaited, sound.current⟩

theorem withCallbacks (callbacks : Nat) : Sound { app with callbacks } :=
  ⟨sound.shown, sound.made, sound.awaited, sound.current⟩

theorem playFirst : Sound app.playFirst := by
  unfold PlaybackApp.playFirst
  split
  · exact sound
  · exact sound.playVideoSegment _

theorem loadFirst (readyState : Nat) : Sound (app.loadFirst readyState) := by
  unfold PlaybackApp.loadFirst
  split
  · exact sound
  · split_ifs
    · exact sound.playVideoSegment _
    · exact sound.withCallbacks _

theorem loadDate (date : CString) : Sound (app.loadDate date) := by
  unfold PlaybackApp.loadDate
  split
  · exact sound
  · refine ⟨sound.shown, sound.made, ?_, ?_⟩
    · intro other data member
      rcases List.mem_append.mp member with earlier | new
      · exact sound.awaited other data earlier
      · cases List.mem_singleton.mp new
    · intro other asked
      obtain rfl := Option.some.inj asked
      exact Or.inl ⟨⟨date, .response⟩, by simp, rfl⟩

/-- A call ends with what it has stored, if anything. -/
theorem finish
    {before after : List Load} {load : Load}
    (waiting : app.loads = before ++ load :: after)
    {ended : Ended} (date : ended.date = load.date) (made : Made ended)
    {videoSegments : List VideoSegment}
    (shows : videoSegments = ended.stored.getD app.videoSegments) :
    Sound ({ app with videoSegments }.finish (before ++ after) ended) where
  shown := by
    change videoSegments = (((ended :: app.ended).find? _).map _).getD []
    rw [shows]
    cases stored : ended.stored with
    | none =>
        rw [List.find?_cons_of_neg (by rw [stored]; exact Bool.false_ne_true)]
        exact sound.shown
    | some segments =>
        rw [List.find?_cons_of_pos (by rw [stored]; rfl), Option.map_some,
          Ended.segments, stored]
        rfl
  made := by
    rintro other (_ | ⟨_, member⟩)
    · exact made
    · exact sound.made other member
  awaited := by
    intro other data member
    apply sound.awaited other data
    rw [waiting]
    rcases List.mem_append.mp member with earlier | later
    · exact List.mem_append_left _ earlier
    · exact List.mem_append_right _ (List.mem_cons_of_mem _ later)
  current := by
    intro other asked
    rcases sound.current other asked with ⟨its, member, same⟩ | past
    · rw [waiting] at member
      rcases List.mem_append.mp member with earlier | atOrLater
      · exact Or.inl ⟨its, List.mem_append_left _ earlier, same⟩
      · rcases List.mem_cons.mp atOrLater with rfl | later
        · exact Or.inr ⟨ended, List.mem_cons_self, date.trans same⟩
        · exact Or.inl ⟨its, List.mem_append_right _ later, same⟩
    · obtain ⟨its, member, same⟩ := past
      exact Or.inr ⟨its, List.mem_cons_of_mem _ member, same⟩

end Sound

/-- What an answer lets the page store. -/
theorem made_of_answers
    {date : CString} {data : DayRecordingResponse}
    (answers : Answers date (.okay data)) :
    Made ⟨date, some (data.segments.map VideoSegment.of)⟩ := by
  intro segments stored segment member
  obtain rfl := Option.some.inj stored
  obtain ⟨its, listed, rfl⟩ := List.mem_map.mp member
  exact ⟨answers.1, answers.2 its listed⟩

theorem made_nil (date : CString) : Made ⟨date, some []⟩ := by
  intro segments stored segment member
  cases Option.some.inj stored
  exact absurd member List.not_mem_nil

theorem made_none (date : CString) : Made ⟨date, none⟩ := by
  intro segments stored
  cases stored

/-- The response of a call is there, and its body is waited for. -/
theorem Sound.okay
    {app : PlaybackApp} (sound : Sound app)
    {before after : List Load} {date : CString}
    (waiting : app.loads = before ++ ⟨date, .response⟩ :: after)
    {data : DayRecordingResponse} (answers : Answers date (.okay data)) :
    Sound { app with loads := before ++ ⟨date, .body data⟩ :: after } where
  shown := sound.shown
  made := sound.made
  awaited := by
    intro other its member
    have old := sound.awaited other its
    rw [waiting] at old
    rcases List.mem_append.mp member with earlier | new
    · exact old (List.mem_append_left _ earlier)
    · rcases List.mem_cons.mp new with same | later
      · cases same
        exact answers
      · exact old (List.mem_append_right _ (List.mem_cons_of_mem _ later))
  current := by
    intro other asked
    have old := sound.current other asked
    rw [waiting] at old
    rcases old with ⟨load, member, same⟩ | past
    · refine Or.inl ?_
      rcases List.mem_append.mp member with earlier | new
      · exact ⟨load, List.mem_append_left _ earlier, same⟩
      · rcases List.mem_cons.mp new with rfl | later
        · exact ⟨⟨date, .body data⟩, by simp, same⟩
        · exact ⟨load, List.mem_append_right _
            (List.mem_cons_of_mem _ later), same⟩
    · exact Or.inr past

theorem sound_step
    {before after : PlaybackApp} (step : Step before after)
    (sound : Sound before) : Sound after := by
  cases step with
  | loadDate date => exact sound.loadDate date
  | @responds earlier later date waiting reply answers =>
      cases reply with
      | error message code =>
          exact sound.finish waiting rfl (made_nil date) rfl
      | okay data => exact sound.okay waiting answers
  | @parses earlier later date data waiting readyState =>
      have answers := sound.awaited date data (by rw [waiting]; simp)
      exact (sound.finish waiting rfl (made_of_answers answers) rfl).loadFirst
        readyState
  | @rejects earlier later load waiting =>
      exact sound.finish waiting rfl (made_none load.date) rfl
  | ready pending =>
      exact (sound.withCallbacks (before.callbacks - 1)).playFirst
  | @plays segment _ => exact sound.playVideoSegment segment.folder

theorem sound_of_reach {app : PlaybackApp} (reached : Reach app) : Sound app := by
  induction reached with
  | refl =>
      refine ⟨rfl, ?_, ?_, ?_⟩
      · exact fun ended member => absurd member List.not_mem_nil
      · exact fun date data member => absurd member List.not_mem_nil
      · exact fun date asked => by cases asked
  | tail _ step earlier => exact sound_step step earlier

/-! ## The day on the page -/

namespace Sound

variable {app : PlaybackApp} (sound : Sound app)

include sound

/-- The segments on the page are those of the reply stored last. -/
theorem of_lastStored
    {last : Ended} (stored : app.lastStored = some last) :
    last ∈ app.ended ∧ app.videoSegments = last.segments ∧ Made last := by
  have member : last ∈ app.ended := List.mem_of_find?_eq_some stored
  refine ⟨member, ?_, sound.made last member⟩
  rw [sound.shown, stored]
  rfl

/-- A row plays the playlist of the day that the segments are of. -/
theorem plays
    {date : CString} (asked : app.currentDate = some date)
    {last : Ended} (stored : app.lastStored = some last)
    (itsDay : last.date = date)
    (segment : VideoSegment) :
    (app.playVideoSegment segment.folder).source =
      some (playlistUrl date segment.folder) := by
  obtain ⟨_, shows, made⟩ := sound.of_lastStored stored
  have urls : ∀ other ∈ app.videoSegments,
      other.playlistUrl = playlistUrl date other.folder := by
    intro other member
    rw [shows] at member
    rw [← itsDay]
    exact (made.of_mem member).2
  unfold PlaybackApp.playVideoSegment
  rw [asked]
  cases found : app.videoSegments.find? fun other =>
      other.folder = segment.folder with
  | none => rfl
  | some other =>
      have sameFolder : other.folder = segment.folder := by
        simpa using List.find?_some found
      have url := urls other (List.mem_of_find?_eq_some found)
      have nonempty : other.playlistUrl ≠ [] := by
        rw [url]
        exact List.cons_ne_nil _ _
      simp only [if_pos nonempty]
      rw [url, sameFolder]

end Sound

/-- When no call waits any more, the page shows the day it was last asked for
exactly if the reply stored last is for that day, or is empty and so is that
day. -/
theorem shows_current_day_iff
    {app : PlaybackApp} (reached : Reach app) (settled : app.loads = []) :
    app.ShowsCurrentDay ↔ app.LastReplyFits := by
  have sound := sound_of_reach reached
  constructor
  · intro shows date asked last stored
    obtain ⟨ended, member, itsDay, same⟩ := (shows date asked).1
    obtain ⟨_, shown, made⟩ := sound.of_lastStored stored
    rw [shown] at same
    cases segments : last.segments with
    | nil => exact Or.inr ⟨rfl, ended, member, itsDay, same ▸ segments⟩
    | cons segment rest =>
        -- A segment names its day by its URL.
        have first : segment ∈ last.segments := by rw [segments]; simp
        obtain ⟨valid, url⟩ := made.of_mem first
        obtain ⟨validToo, urlToo⟩ :=
          (sound.made ended member).of_mem (same ▸ first)
        refine Or.inl ?_
        rw [← itsDay]
        exact date_of_playlistUrl valid validToo (url.symm.trans urlToo)
  · intro fits date asked
    obtain ⟨ended, member, itsDay⟩ : ∃ ended ∈ app.ended, ended.date = date := by
      rcases sound.current date asked with ⟨load, waiting, _⟩ | past
      · rw [settled] at waiting
        exact absurd waiting List.not_mem_nil
      · exact past
    cases stored : app.lastStored with
    | none =>
        have nothing : app.videoSegments = [] := by
          rw [sound.shown, stored]
          rfl
        have unstored := List.find?_eq_none.mp stored ended member
        refine ⟨⟨ended, member, itsDay, ?_⟩, ?_⟩
        · rw [nothing, Ended.segments,
            Option.not_isSome_iff_eq_none.mp unstored]
          rfl
        · rw [nothing]
          exact fun segment listed => absurd listed List.not_mem_nil
    | some last =>
        obtain ⟨inEnded, shown, _⟩ := sound.of_lastStored stored
        rcases fits date asked last stored with same | ⟨empty, its, past, day, none⟩
        · exact ⟨⟨last, inEnded, same, shown⟩, fun segment _ =>
            sound.plays asked stored same segment⟩
        · rw [empty] at shown
          refine ⟨⟨its, past, day, shown.trans none.symm⟩, ?_⟩
          rw [shown]
          exact fun segment listed => absurd listed List.not_mem_nil

/-! ## Two days -/

/-- The answer for a day with one segment. -/
def oneSegment (date : CString) : DayRecordingResponse where
  date := date
  segments := [
    { segment := "00000".toList
      startTime := "08:00:00.000000".toList
      totalFrames := 30
      playlistUrl := playlistUrl date "00000".toList
      motionFrames := []
      durationMs := 1000 }]

/-- A call that waits between others is answered with one segment. -/
def PlaybackApp.answered
    (app : PlaybackApp) (before after : List Load) (date : CString) :
    PlaybackApp :=
  (app.responds before after date (.okay (oneSegment date))).parses
    (before ++ after) date (oneSegment date) 1

theorem reach_answered
    {app : PlaybackApp} (reached : Reach app)
    {before after : List Load} {date : CString}
    (valid : validDate date = true)
    (waiting : app.loads = before ++ ⟨date, .response⟩ :: after) :
    Reach (app.answered before after date) := by
  have answers : Answers date (.okay (oneSegment date)) := by
    refine ⟨valid, fun segment member => ?_⟩
    rw [List.mem_singleton.mp member]
  exact .tail (.tail reached (.responds app waiting answers))
    (.parses _ rfl 1)

theorem loads_answered
    (app : PlaybackApp) (before after : List Load) (date : CString) :
    (app.answered before after date).loads = before ++ after := by
  unfold PlaybackApp.answered PlaybackApp.parses PlaybackApp.loadFirst
  unfold PlaybackApp.playVideoSegment
  change PlaybackApp.loads (match app.currentDate with | none => _ | some _ => _) = _
  cases app.currentDate with
  | none => rfl
  | some _ => rfl

/-- The user asks for one day and then for another. -/
def bothAsked : PlaybackApp :=
  (PlaybackApp.loadDate {} "2026-09-03".toList).loadDate "2026-09-04".toList

theorem reach_bothAsked : Reach bothAsked :=
  .tail (.tail .refl (.loadDate _ _)) (.loadDate _ _)

theorem loads_bothAsked :
    bothAsked.loads = [⟨"2026-09-03".toList, .response⟩,
      ⟨"2026-09-04".toList, .response⟩] := rfl

/-- The reply for the first day comes last. -/
def lateReply : PlaybackApp :=
  (bothAsked.answered [⟨"2026-09-03".toList, .response⟩] []
    "2026-09-04".toList).answered [] [] "2026-09-03".toList

/-- The replies come in the order of the calls. -/
def inOrder : PlaybackApp :=
  (bothAsked.answered [] [⟨"2026-09-04".toList, .response⟩]
    "2026-09-03".toList).answered [] [] "2026-09-04".toList

theorem reach_lateReply : Reach lateReply :=
  reach_answered (reach_answered reach_bothAsked (by decide +kernel)
    loads_bothAsked) (by decide +kernel) (loads_answered _ _ _ _)

theorem reach_inOrder : Reach inOrder :=
  reach_answered (reach_answered reach_bothAsked (by decide +kernel)
    loads_bothAsked) (by decide +kernel) (loads_answered _ _ _ _)

/-- The page has the segments of the first day, and its player has one of them. -/
theorem late_reply_shown :
    Reach lateReply ∧ lateReply.loads = [] ∧
      lateReply.currentDate = some "2026-09-04".toList ∧
      lateReply.source =
        some (playlistUrl "2026-09-03".toList "00000".toList) ∧
      ¬lateReply.ShowsCurrentDay :=
  ⟨reach_lateReply, by decide +kernel, by decide +kernel, by decide +kernel,
    by decide +kernel⟩

theorem shows_current_day_iff_in_order :
    inOrder.LastReplyFits ∧
      (inOrder.ShowsCurrentDay ↔ inOrder.LastReplyFits) :=
  ⟨by decide +kernel, shows_current_day_iff reach_inOrder (by decide +kernel)⟩

end Playback
end MotionSense
