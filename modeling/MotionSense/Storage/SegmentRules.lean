import MotionSense.Storage.Feeds

/-!
# Rules for what the muxer files

What the muxer puts into a folder depends on the frames it was given since its
creation and on the cuts that failed in between.  A rule says which frames and
failures it bears, what it keeps of the muxer and its playlist, and what it
promises of every file.  It is checked on the operations of the muxer alone, and
then holds in every history of the writer.
-/

namespace MotionSense

namespace HlsMedia

/-- `hls_media_input` starts a new segment with this call. -/
def starts (hls : HlsMedia) (payload : Option FqFrame) (dts : Int)
    (isKey : Bool) : Bool :=
  hls.bytes = 0 || hls.cuts dts isKey || hls.forces payload dts

/-- The end of `hls_media_input`: the frame is added to the segment. -/
def feed (hls : HlsMedia) (payload : Option FqFrame) (dts : Int)
    (packets : Nat) : HlsMedia :=
  { hls with audioOnlyFlag := false, dtsLast := dts }.write payload packets

/-- What the playlist lists of the segment that a call ends. -/
def entry (hls : HlsMedia) (payload : Option FqFrame) (dts : Int)
    (name : CString) (discontinuity : Bool) : PlaylistEntry where
  name := name
  pts := hls.pts
  duration := hls.segmentDuration payload dts
  discontinuity := discontinuity

@[simp] theorem bytes_feed
    (hls : HlsMedia) (frame : FqFrame) (dts : Int) (packets : Nat) :
    (hls.feed (some frame) dts packets).bytes =
      hls.bytes + 188 * (packets + 1) := rfl

@[simp] theorem frames_feed
    (hls : HlsMedia) (frame : FqFrame) (dts : Int) (packets : Nat) :
    (hls.feed (some frame) dts packets).frames = hls.frames ++ [frame] := rfl

@[simp] theorem duration_feed
    (hls : HlsMedia) (frame : FqFrame) (dts : Int) (packets : Nat) :
    (hls.feed (some frame) dts packets).duration = hls.duration := rfl

@[simp] theorem dts_feed
    (hls : HlsMedia) (frame : FqFrame) (dts : Int) (packets : Nat) :
    (hls.feed (some frame) dts packets).dts = hls.dts := rfl

@[simp] theorem pts_feed
    (hls : HlsMedia) (frame : FqFrame) (dts : Int) (packets : Nat) :
    (hls.feed (some frame) dts packets).pts = hls.pts := rfl

@[simp] theorem dtsLast_feed
    (hls : HlsMedia) (frame : FqFrame) (dts : Int) (packets : Nat) :
    (hls.feed (some frame) dts packets).dtsLast = dts := rfl

theorem starts_eq_false_iff
    {hls : HlsMedia} {payload : Option FqFrame} {dts : Int} {isKey : Bool} :
    hls.starts payload dts isKey = false ↔
      hls.bytes ≠ 0 ∧ hls.cuts dts isKey = false ∧
        hls.forces payload dts = false := by
  simp [starts, and_assoc]

end HlsMedia

/-- What is kept of a muxer and its playlist while the frames it is given and the
cuts that fail are borne, and what is promised of the files. -/
structure SegmentRule (config : Config) where
  /-- The muxer may be given the frame at a time. -/
  bears : HlsMedia → FqFrame → Int → Bool
  /-- A cut may fail. -/
  bearsFailure : Bool
  /-- What is kept of the muxer and its playlist. -/
  keeps : HlsMedia → List PlaylistEntry → Prop
  /-- What is promised of a file. -/
  files : FileData → Prop
  created : keeps (HlsMedia.create (config.hlsDurationS * 1000)) []
  media : ∀ {hls entries}, keeps hls entries → 0 < hls.bytes →
    files (.media hls.frames)
  playlist : ∀ {hls entries payload dts}, keeps hls entries → 0 < hls.bytes →
    (∀ frame, payload = some frame → bears hls frame dts = true) →
    ∀ name discontinuity,
      files (.playlist (entries ++ [hls.entry payload dts name discontinuity]))
  failed : ∀ {hls entries}, bearsFailure = true → keeps hls entries →
    0 < hls.bytes → ∀ entry, keeps hls (entries ++ [entry])
  began : ∀ {hls entries frame dts}, keeps hls entries → hls.bytes = 0 →
    frame.isKey = true →
    ∀ packets, keeps ((hls.begin dts dts).feed (some frame) dts packets) entries
  cut : ∀ {hls entries frame dts}, keeps hls entries → 0 < hls.bytes →
    bears hls frame dts = true →
    hls.starts (some frame) dts frame.isKey = true →
    ∀ name discontinuity packets,
      keeps ((hls.begin dts dts).feed (some frame) dts packets)
        (entries ++ [hls.entry (some frame) dts name discontinuity])
  continued : ∀ {hls entries frame dts}, keeps hls entries →
    bears hls frame dts = true →
    hls.starts (some frame) dts frame.isKey = false →
    ∀ packets, keeps (hls.feed (some frame) dts packets) entries

namespace SegmentRule

variable {config : Config} (rule : SegmentRule config)

/-- The rule bears the frame that the current muxer is given. -/
def bearsFed (ws : WriterState) (frame : FqFrame) : Bool :=
  frame.payload.isSome &&
    ws.hls.all fun hls => rule.bears hls frame ws.ptsMs

/-- Since the current muxer was created, every frame given to it carried data and
was borne, and so was every failure of a cut. -/
def undisturbed : List Moment → Bool
  | [] => true
  | moment :: older =>
      match moment.event with
      | .started | .opening => true
      | .fed frame => rule.bearsFed moment.ws frame && undisturbed older
      | .cutDone result =>
          (rule.bearsFailure || decide (result = 0)) && undisturbed older
      | _ => undisturbed older

/-- Every file was put into its folder as promised, unless its muxer was
disturbed before. -/
def Filed : List Moment → Prop
  | [] => True
  | moment :: older =>
      match moment.event with
      | .renamed _ data =>
          (rule.undisturbed older = true → rule.files data) ∧ Filed older
      | _ => Filed older

/-- The promise, for one file. -/
theorem Filed.files
    {rule : SegmentRule config} {moments : List Moment} (filed : rule.Filed moments)
    {moment : Moment} {older : List Moment}
    (place : moment :: older <:+ moments)
    {name : CString} {data : FileData}
    (renamed : moment.event = .renamed name data)
    (calm : rule.undisturbed older = true) : rule.files data := by
  induction moments with
  | nil => exact absurd (List.suffix_nil.mp place) (List.cons_ne_nil _ _)
  | cons latest earlier inductionHypothesis =>
      rcases List.suffix_cons_iff.mp place with same | before
      · obtain ⟨rfl, rfl⟩ := List.cons.inj same
        rw [Filed, renamed] at filed
        exact filed.1 calm
      · apply inductionHypothesis _ before
        rw [Filed] at filed
        split at filed
        · exact filed.2
        · exact filed

/-- What the muxer keeps depends on, apart from what was filed. -/
@[ext]
structure View where
  hls : Option HlsMedia
  m3u : Option (List PlaylistEntry)
  seen : Bool
  calm : Bool

/-- The view of the current muxer. -/
def view (state : State) : View where
  hls := state.ws.hls
  m3u := state.ws.m3u
  seen := state.ws.seenKeyframe
  calm := rule.undisturbed state.trace

/-- The current muxer looks the same, and nothing was filed. -/
structure Same (before after : State) : Prop where
  view : rule.view after = rule.view before
  filed : rule.Filed before.trace → rule.Filed after.trace

theorem same_statementStep
    {writes : (EventDb → EventDb) → Prop}
    (before after : State) (step : StatementStep writes before after) :
    rule.Same before after := by
  cases step <;> exact ⟨rfl, id⟩

theorem same_totalStep
    (before after : State) (step : TotalStep before after) :
    rule.Same before after := by
  cases step <;> exact ⟨rfl, id⟩

theorem same_progressStep
    (before after : State) (step : ProgressStep before after) :
    rule.Same before after := by
  cases step with
  | marks step =>
      cases step with
      | statement step => exact rule.same_statementStep _ _ step
      | _ => exact ⟨rfl, id⟩
  | total step => exact rule.same_totalStep _ _ step
  | _ => exact ⟨rfl, id⟩

theorem same_retentionStep
    (before after : State) (step : RetentionStep before after) :
    rule.Same before after := by
  cases step <;> exact ⟨rfl, id⟩

theorem same_dbStep
    (before after : State) (step : DbStep before after) :
    rule.Same before after := by
  cases step with
  | statement step => exact rule.same_statementStep _ _ step
  | _ => exact ⟨rfl, id⟩

theorem same_folderStep
    (before after : State) (step : FolderStep before after) :
    rule.Same before after := by
  cases step <;> exact ⟨rfl, id⟩

/-- The view after `hls_cb` has added an entry to the playlist. -/
def View.list (view : View) (entries : List PlaylistEntry)
    (entry : PlaylistEntry) : View :=
  { view with m3u := some (entries ++ [entry]) }

/-- The view after `hls_cb` has returned. -/
def afterCut (view : View) (result : Int) : View :=
  { view with
    calm := (rule.bearsFailure || decide (result = 0)) && view.calm }

/-- The view of the current muxer together with the promise for every file. -/
def Shows (view : View) (state : State) : Prop :=
  rule.view state = view ∧ rule.Filed state.trace

theorem Shows.add
    {rule : SegmentRule config} {view : View} {state : State}
    (shows : rule.Shows view state)
    {entries : List PlaylistEntry} (listed : state.ws.m3u = some entries)
    (entry : PlaylistEntry) :
    rule.Shows (view.list entries entry)
      (state.updateWs fun ws =>
        { ws with m3u := ws.m3u.map fun added => added ++ [entry] }) := by
  obtain ⟨rfl, filed⟩ := shows
  refine ⟨?_, filed⟩
  have added : state.ws.m3u.map (fun added => added ++ [entry]) =
      some (entries ++ [entry]) := by
    rw [listed]
    rfl
  rw [View.list, ← added]
  rfl

theorem Shows.change
    {rule : SegmentRule config} {view : View} {state : State}
    (shows : rule.Shows view state)
    {hls : HlsMedia} (current : view.hls = some hls)
    (change : HlsMedia → HlsMedia) :
    rule.Shows { view with hls := some (change hls) }
      (state.updateWs fun ws => { ws with hls := ws.hls.map change }) := by
  obtain ⟨rfl, filed⟩ := shows
  refine ⟨?_, filed⟩
  have changed : state.ws.hls.map change = some (change hls) := by
    change state.ws.hls = some hls at current
    rw [current]
    rfl
  rw [← changed]
  rfl

theorem Shows.cutDone
    {rule : SegmentRule config} {view : View} {state : State}
    (shows : rule.Shows view state) (result : Int) :
    rule.Shows (rule.afterCut view result) (state.log (.cutDone result)) := by
  obtain ⟨rfl, filed⟩ := shows
  exact ⟨rfl, filed⟩

/-- What is filed so far is as promised. -/
def Promised (state : State) : Prop := rule.Filed state.trace

end SegmentRule

namespace Storage

open Program SegmentRule

variable {config : Config} {rule : SegmentRule config}

/-- A program whose steps leave the muxer alone. -/
theorem shows_of_within
    {program : Storage α} (within : program.Within rule.Same)
    {view : View} {state : State} (shows : rule.Shows view state) :
    program.wp (fun _ => rule.Shows view) rule.Promised state :=
  wp_mono
    (@Within.keeps _ _ _ _ _ within (rule.Shows view)
      (fun _ _ same shows => ⟨same.view.trans shows.1, same.filed shows.2⟩)
      state shows)
    (fun _ _ shows => shows) fun _ shows => shows.2

/-- A file that is written keeps the promise. -/
theorem writeFileAtomic_shows
    (dir : SegmentDir) (name : CString) {data : FileData} {view : View}
    {state : State} (shows : rule.Shows view state)
    (may : view.calm = true → rule.files data) :
    (writeFileAtomic dir name data).wp (fun _ => rule.Shows view)
      rule.Promised state := by
  have within := @writeFileAtomic_within_of
    (fun before after => rule.Shows view before → rule.Shows view after)
    dir name data (fun _ _ _ => id) (fun _ => id) ?_
  · exact wp_mono (within.keeps (fun _ _ keeps => keeps) state shows)
      (fun _ _ shows => shows) fun _ shows => shows.2
  · rintro before ⟨same, filed⟩
    refine ⟨same, fun calm => may ?_, filed⟩
    rw [← same]
    exact calm

/-! ## Giving a frame to the muxer -/

/-- `hls_cb` lists the segment and files it, or fails. -/
theorem hlsCb_shows
    {frames : List FqFrame} {pts dts duration : Int} {view : View}
    (may : view.calm = true → ∀ entries, view.m3u = some entries →
      rule.files (.media frames) ∧ ∀ name discontinuity, rule.files
        (.playlist (entries ++ [⟨name, pts, duration, discontinuity⟩])))
    {state : State} (shows : rule.Shows view state) :
    (hlsCb config frames pts dts duration).wp
      (fun result after => ∃ entries name discontinuity,
        view.m3u = some entries ∧
        rule.Shows (rule.afterCut
          (view.list entries ⟨name, pts, duration, discontinuity⟩) result)
          after)
      rule.Promised state := by
  obtain ⟨rfl, filed⟩ := shows
  rw [hlsCb, wp_bind, wp_log, wp_bind, wp_current, wp_bind, wp_modify,
    wp_bind, wp_setWs]
  simp only [State.ws_log]
  cases listed : state.ws.m3u with
  | none => exact filed
  | some entries =>
      simp only
      rw [wp_bind, wp_setWs]
      generalize tsName state.ws.tsIdx = name
      generalize (if (state.log (.cut frames)).lastDts < 0 then false
        else decide (dts > (state.log (.cut frames)).lastDts +
          config.hlsDuration.tdiv 2)) = discontinuity
      have returns : ∀ result after,
          rule.Shows ((rule.view state).list entries
            ⟨name, pts, duration, discontinuity⟩) after →
          ∃ entries name discontinuity, (rule.view state).m3u = some entries ∧
            rule.Shows (rule.afterCut ((rule.view state).list entries
              ⟨name, pts, duration, discontinuity⟩) result)
              (after.log (.cutDone result)) := by
        intro result after shows
        exact ⟨entries, name, discontinuity, listed, shows.cutDone result⟩
      refine wp_then (@writeFileAtomic_shows _ rule _ _ (.media frames)
        ((rule.view state).list entries ⟨name, pts, duration, discontinuity⟩)
        _ (Shows.add ⟨rfl, filed⟩ listed _)
        fun calm => (may calm entries listed).1)
        fun written reached shows => ?_
      refine wp_split (fun _ => returns (-1) _ shows) fun _ => ?_
      refine wp_then (writeFileAtomic_shows _ _ shows fun calm =>
        (may calm entries listed).2 name discontinuity)
        fun indexed last shows => ?_
      refine wp_split (fun _ => returns (-1) _ shows) fun _ => ?_
      exact returns 0 _ ⟨shows.1, shows.2⟩

/-- What starting a new segment makes of the view, with the result. -/
inductive Turned (rule : SegmentRule config) (view : View) (hls : HlsMedia)
    (payload : Option FqFrame) (dts : Int) : Int → View → Prop
  | opened (empty : hls.bytes = 0) :
      Turned rule view hls payload dts 0
        { view with hls := some (hls.begin dts dts) }
  | cut {entries : List PlaylistEntry} (filled : 0 < hls.bytes)
      (listed : view.m3u = some entries) (name : CString)
      (discontinuity : Bool) :
      Turned rule view hls payload dts 0
        { rule.afterCut (view.list entries
            (hls.entry payload dts name discontinuity)) 0 with
          hls := some (hls.begin dts dts) }
  | failed {entries : List PlaylistEntry} {result : Int}
      (filled : 0 < hls.bytes) (listed : view.m3u = some entries)
      (name : CString) (discontinuity : Bool) (nonzero : result ≠ 0) :
      Turned rule view hls payload dts result
        (rule.afterCut (view.list entries
          (hls.entry payload dts name discontinuity)) result)

/-- The muxer of the view may be cut by a call. -/
def MayCut (rule : SegmentRule config) (view : View) (hls : HlsMedia)
    (payload : Option FqFrame) (dts : Int) : Prop :=
  view.calm = true →
    (∀ entries, view.m3u = some entries → rule.keeps hls entries) ∧
      ∀ frame, payload = some frame → rule.bears hls frame dts = true

/-- A new segment begins, unless `hls_cb` fails on the one before it. -/
theorem hlsNewSegment_shows
    {hls : HlsMedia} {payload : Option FqFrame} {dts : Int} {view : View}
    (current : view.hls = some hls) (may : MayCut rule view hls payload dts)
    {state : State} (shows : rule.Shows view state) :
    (hlsNewSegment config hls payload dts dts).wp
      (fun result after => ∃ next,
        Turned rule view hls payload dts result next ∧
          rule.Shows next after)
      rule.Promised state := by
  rw [hlsNewSegment]
  refine wp_via (fun result after =>
    (result = 0 ∧ hls.bytes = 0 ∧ rule.Shows view after) ∨
      (0 < hls.bytes ∧ ∃ entries name discontinuity,
        view.m3u = some entries ∧
        rule.Shows (rule.afterCut (view.list entries
          (hls.entry payload dts name discontinuity)) result) after))
    (wp_split (fun filled => ?_) fun empty => ?_) ?_
  · refine wp_mono (hlsCb_shows (fun calm entries listed => ?_) shows) ?_
      fun _ promised => promised
    · have kept := (may calm).1 entries listed
      exact ⟨rule.media kept filled,
        rule.playlist kept filled (may calm).2⟩
    · rintro result after ⟨entries, name, discontinuity, listed, shows⟩
      exact Or.inr ⟨filled, entries, name, discontinuity, listed, shows⟩
  · exact Or.inl ⟨rfl, Nat.eq_zero_of_not_pos empty, shows⟩
  rintro result after (⟨rfl, empty, shows⟩ |
    ⟨filled, entries, name, discontinuity, listed, shows⟩)
  · exact ⟨_, .opened empty, shows.change current fun hls => hls.begin dts dts⟩
  · refine wp_split (fun failed => ?_) fun success => ?_
    · exact ⟨_, .failed filled listed name discontinuity failed, shows⟩
    · obtain rfl := not_not.mp success
      exact ⟨_, .cut filled listed name discontinuity,
        shows.change current fun hls => hls.begin dts dts⟩

/-- What a call of `hls_media_input` makes of the view. -/
inductive Given (rule : SegmentRule config) (view : View) (hls : HlsMedia)
    (payload : Option FqFrame) (dts : Int) (isKey : Bool) : View → Prop
  | lost {result : Int} {next : View} (nonzero : result ≠ 0)
      (turned : Turned rule view hls payload dts result next) :
      Given rule view hls payload dts isKey next
  | began {next : View} (starts : hls.starts payload dts isKey = true)
      (turned : Turned rule view hls payload dts 0 next) (packets : Nat) :
      Given rule view hls payload dts isKey
        { next with
          hls := some ((hls.begin dts dts).feed payload dts packets) }
  | continued (goesOn : hls.starts payload dts isKey = false)
      (packets : Nat) :
      Given rule view hls payload dts isKey
        { view with hls := some (hls.feed payload dts packets) }

theorem Turned.hls
    {view next : View} {hls : HlsMedia} {payload : Option FqFrame} {dts : Int}
    (turned : Turned rule view hls payload dts 0 next) :
    next.hls = some (hls.begin dts dts) := by
  cases turned with
  | opened => rfl
  | cut => rfl
  | failed _ _ _ _ nonzero => exact absurd rfl nonzero

theorem Turned.calm
    {view next : View} {hls : HlsMedia} {payload : Option FqFrame} {dts : Int}
    {result : Int} (turned : Turned rule view hls payload dts result next)
    (calm : next.calm = true) : view.calm = true := by
  cases turned with
  | opened => exact calm
  | cut => exact (Bool.and_eq_true_iff.mp calm).2
  | failed => exact (Bool.and_eq_true_iff.mp calm).2

/-- Nothing that was disturbed is mended by a frame. -/
theorem Given.calm
    {view next : View} {hls : HlsMedia} {payload : Option FqFrame} {dts : Int}
    {isKey : Bool} (given : Given rule view hls payload dts isKey next)
    (calm : next.calm = true) : view.calm = true := by
  cases given with
  | lost _ turned => exact turned.calm calm
  | began _ turned => exact turned.calm calm
  | continued => exact calm

theorem noteAppended_shows
    (payload : Option FqFrame) {view : View} {state : State}
    (shows : rule.Shows view state) :
    (noteAppended payload).wp (fun _ => rule.Shows view) rule.Promised
      state := by
  apply wp_noteAppended
  · exact fun _ => shows
  · exact fun _ _ => shows

/-- `hls_media_input` on the current muxer. -/
theorem hlsMediaInput_shows
    {payload : Option FqFrame} {dts : Int} {isKey : Bool} {view : View}
    (may : ∀ hls, view.hls = some hls → MayCut rule view hls payload dts)
    {state : State} (shows : rule.Shows view state) :
    (hlsMediaInput config payload dts dts isKey).wp
      (fun _ after => ∃ hls next, view.hls = some hls ∧
        Given rule view hls payload dts isKey next ∧ rule.Shows next after)
      rule.Promised state := by
  rw [hlsMediaInput, wp_bind, wp_current]
  have current : view.hls = state.ws.hls := by
    rw [← shows.1]
    rfl
  cases muxer : state.ws.hls with
  | none => exact shows.2
  | some hls =>
      rw [muxer] at current
      refine wp_via (fun result after =>
        (hls.starts payload dts isKey = true ∧ ∃ next,
          Turned rule view hls payload dts result next ∧
            rule.Shows next after) ∨
        (result = 0 ∧ hls.starts payload dts isKey = false ∧
          rule.Shows view after))
        (wp_split (fun starts => ?_) fun goesOn => ?_) ?_
      · refine wp_mono (hlsNewSegment_shows current (may hls current) shows)
          (fun _ _ turned => Or.inl ⟨?_, turned⟩) fun _ promised => promised
        simpa [HlsMedia.starts, or_assoc] using starts
      · refine Or.inr ⟨rfl, ?_, shows⟩
        simpa [HlsMedia.starts, and_assoc] using goesOn
      rintro result after kept
      refine wp_split (fun failed => ?_) fun success => ?_
      · rcases kept with ⟨_, next, turned, shows⟩ | ⟨zero, _⟩
        · exact ⟨hls, next, current, .lost failed turned, shows⟩
        · exact absurd zero failed
      obtain rfl := not_not.mp success
      have promised : rule.Promised after := by
        rcases kept with ⟨_, _, _, shows⟩ | ⟨_, _, shows⟩
        · exact shows.2
        · exact shows.2
      rw [wp_bind, wp_answer]
      refine ⟨promised, fun written => ?_⟩
      rw [wp_bind, wp_setWs]
      rcases kept with ⟨starts, next, turned, shows⟩ | ⟨_, goesOn, shows⟩
      · refine wp_then (noteAppended_shows payload (shows.change turned.hls
          fun hls => hls.feed payload dts written.packets))
          fun _ last shows => ?_
        exact ⟨hls, _, current, .began starts turned written.packets, shows⟩
      · refine wp_then (noteAppended_shows payload (shows.change current
          fun hls => hls.feed payload dts written.packets))
          fun _ last shows => ?_
        exact ⟨hls, _, current, .continued goesOn written.packets, shows⟩

/-- While nothing disturbs it, the current muxer is as the rule keeps it, and its
segment is empty until its first keyframe. -/
def Held (rule : SegmentRule config) (view : View) : Prop :=
  view.calm = true → ∀ hls, view.hls = some hls →
    (hls.bytes = 0 ↔ view.seen = false) ∧
      ∀ entries, view.m3u = some entries → rule.keeps hls entries

/-- A frame leaves the muxer as the rule keeps it. -/
theorem Given.held
    {view next : View} {hls : HlsMedia} {frame : FqFrame} {dts : Int}
    (given : Given rule view hls (some frame) dts frame.isKey next)
    (current : view.hls = some hls) (seen : view.seen = true)
    (kept : view.calm = true →
      rule.bears hls frame dts = true ∧
      (hls.bytes = 0 → frame.isKey = true) ∧
      ∀ entries, view.m3u = some entries → rule.keeps hls entries) :
    Held rule next := by
  have filledOf : ∀ (fed : HlsMedia) (packets : Nat),
      (fed.feed (some frame) dts packets).bytes = 0 ↔ view.seen = false := by
    intro fed packets
    rw [seen, HlsMedia.bytes_feed]
    constructor
    · omega
    · intro absurdity
      cases absurdity
  cases given with
  | lost nonzero turned =>
      cases turned with
      | opened => exact absurd rfl nonzero
      | cut => exact absurd rfl nonzero
      | @failed entries _ filled listed name discontinuity _ =>
          intro calm muxer same
          obtain rfl := Option.some.inj (current.symm.trans same)
          have both := Bool.and_eq_true_iff.mp calm
          have bearsFailure : rule.bearsFailure = true := by
            simpa [nonzero] using both.1
          have kept := kept both.2
          refine ⟨?_, fun added same => ?_⟩
          · have empty : hls.bytes ≠ 0 := by omega
            change hls.bytes = 0 ↔ view.seen = false
            simp [empty, seen]
          · obtain rfl := Option.some.inj same
            exact rule.failed bearsFailure (kept.2.2 entries listed) filled _
  | began starts turned packets =>
      cases turned with
      | opened empty =>
          intro calm current same
          obtain rfl := Option.some.inj same
          refine ⟨filledOf _ packets, fun entries listed => ?_⟩
          have kept := kept calm
          exact rule.began (kept.2.2 entries listed) empty (kept.2.1 empty)
            packets
      | @cut entries filled listed name discontinuity =>
          intro calm current same
          obtain rfl := Option.some.inj same
          refine ⟨filledOf _ packets, fun added same => ?_⟩
          obtain rfl := Option.some.inj same
          have kept := kept (Bool.and_eq_true_iff.mp calm).2
          exact rule.cut (kept.2.2 entries listed) filled kept.1 starts name
            discontinuity packets
      | failed _ _ _ _ nonzero => exact absurd rfl nonzero
  | continued goesOn packets =>
      intro calm current same
      obtain rfl := Option.some.inj same
      refine ⟨filledOf _ packets, fun entries listed => ?_⟩
      have kept := kept calm
      exact rule.continued (kept.2.2 entries listed) kept.1 goesOn packets

/-! ## The writer -/

/-- Between two frames the muxer is as the rule keeps it, and every file is as
promised. -/
def Ready (rule : SegmentRule config) (state : State) : Prop :=
  Held rule (rule.view state) ∧ rule.Promised state

theorem Ready.of_shows
    {view : View} {state : State} (held : Held rule view)
    (shows : rule.Shows view state) : Ready rule state := by
  obtain ⟨rfl, filed⟩ := shows
  exact ⟨held, filed⟩

/-- Steps that leave the muxer alone keep it between two frames. -/
theorem ready_of_within
    {program : Storage α} (within : program.Within rule.Same)
    {state : State} (ready : Ready rule state) :
    program.wp (fun _ => Ready rule) rule.Promised state :=
  wp_mono (shows_of_within within ⟨rfl, ready.2⟩)
    (fun _ _ shows => Ready.of_shows ready.1 shows)
    fun _ promised => promised

/-- A call that carries a frame carries the one at hand. -/
theorem payload_of_isSome
    {frame : FqFrame} (carries : frame.payload.isSome = true) :
    frame.payload = some frame := by
  rw [FqFrame.payload] at carries ⊢
  split at carries
  · cases carries
  · rename_i hasData
    rw [if_neg hasData]

/-- A muxer whose frame was recorded as fed. -/
theorem undisturbed_fed
    {rule : SegmentRule config} {state : State} {frame : FqFrame}
    (calm : (rule.view (state.log (.fed frame))).calm = true) :
    frame.payload = some frame ∧
      (∀ hls, state.ws.hls = some hls →
        rule.bears hls frame state.ws.ptsMs = true) ∧
      (rule.view state).calm = true := by
  have both := Bool.and_eq_true_iff.mp calm
  have fed := Bool.and_eq_true_iff.mp both.1
  refine ⟨payload_of_isSome fed.1, fun hls current => ?_, both.2⟩
  have bears := fed.2
  rw [current] at bears
  exact bears

/-- `ingest_frame` gives a frame to the muxer. -/
theorem feedMuxer_ready
    (frame : FqFrame) {state : State} (promised : rule.Promised state)
    (seen : state.ws.seenKeyframe = true)
    (kept : (rule.view state).calm = true → ∀ hls, state.ws.hls = some hls →
      (hls.bytes = 0 → frame.isKey = true) ∧
        ∀ entries, state.ws.m3u = some entries → rule.keeps hls entries) :
    (feedMuxer config frame).wp (fun _ => Ready rule) rule.Promised state := by
  rw [feedMuxer, wp_bind, wp_divide_of_ne (by decide), wp_bind, wp_setWs,
    wp_bind, wp_log]
  refine wp_then (@hlsMediaInput_shows _ rule _ _ _ _ ?_ _ ⟨rfl, promised⟩) ?_
  · intro hls current calm
    have fed := undisturbed_fed calm
    refine ⟨(kept fed.2.2 hls current).2, fun given same => ?_⟩
    obtain rfl := Option.some.inj (fed.1.symm.trans same)
    exact fed.2.1 hls current
  · rintro _ after ⟨hls, next, current, given, shows⟩
    refine @Ready.of_shows _ rule next _ ?_ ⟨shows.1, shows.2⟩
    intro calm
    have fed := undisturbed_fed (given.calm calm)
    rw [fed.1] at given
    refine given.held current seen (fun calm => ?_) calm
    have kept := kept fed.2.2 hls current
    exact ⟨fed.2.1 hls current, kept⟩

/-- With no muxer there is nothing to keep. -/
theorem Ready.of_none
    {view : View} (none : view.hls = none) {state : State}
    (shows : rule.Shows view state) : Ready rule state := by
  refine Ready.of_shows (fun _ hls current => ?_) shows
  rw [none] at current
  cases current

/-- A new muxer has an empty playlist. -/
theorem hlsCreate_ready
    {state : State} (seen : state.ws.seenKeyframe = false)
    (promised : rule.Promised state) :
    (hlsCreate config).wp (fun _ => Ready rule) rule.Promised state := by
  rw [hlsCreate, wp_bind, wp_call]
  refine ⟨promised, fun m3u _ => ?_⟩
  rw [wp_bind, wp_setWs, wp_bind, wp_call]
  refine ⟨promised, fun hls _ => ?_⟩
  rw [wp_bind, wp_setWs]
  refine ⟨fun _ created current => ?_, promised⟩
  have muxer : created = HlsMedia.create (config.hlsDurationS * 1000) := by
    change (if hls.ok then some (HlsMedia.create (config.hlsDurationS * 1000))
      else none) = some created at current
    split at current
    · exact (Option.some.inj current).symm
    · cases current
  refine ⟨?_, fun entries listed => ?_⟩
  · rw [muxer]
    exact iff_of_true rfl seen
  · have empty : entries = [] := by
      change (if m3u.ok then some [] else none) = some entries at listed
      split at listed
      · exact (Option.some.inj listed).symm
      · cases listed
    rw [muxer, empty]
    exact rule.created

theorem openSegment_ready
    {view : View} (none : view.hls = none)
    {state : State} (shows : rule.Shows view state) :
    (openSegment config).wp (fun _ => Ready rule) rule.Promised state := by
  rw [openSegment]
  refine wp_then (shows_of_within
    (eventDbOpen_within.mono rule.same_dbStep) shows) fun db state shows => ?_
  refine wp_split (fun _ => Ready.of_none none shows) fun _ => ?_
  refine wp_then (shows_of_within
    (eventDbAddSegment_within.mono rule.same_dbStep) shows)
    fun id state shows => ?_
  rw [wp_bind, wp_setWs]
  refine wp_split (fun _ => Ready.of_none none ⟨shows.1, shows.2⟩) fun _ => ?_
  rw [wp_bind, resetSegment, wp_setWs]
  refine wp_then (hlsCreate_ready rfl shows.2) fun hls state ready => ?_
  refine wp_split (fun _ => ?_) fun _ => ready
  exact ⟨ready.1, ready.2⟩

/-- `open_today`, with no muxer left, makes a new one or none. -/
theorem openToday_ready
    {state : State} (none : state.ws.hls = none)
    (promised : rule.Promised state) :
    (openToday config).wp (fun _ => Ready rule) rule.Promised state := by
  rw [openToday, wp_bind, wp_log]
  refine wp_then (shows_of_within (openFolder_within.mono rule.same_folderStep)
    ⟨rfl, promised⟩) fun folder reached shows => ?_
  refine wp_via (fun _ => Ready rule) (wp_split (fun _ => ?_) fun _ => ?_)
    fun result last ready => ⟨ready.1, ready.2⟩
  · exact Ready.of_none none shows
  · exact openSegment_ready none shows

/-- Flushing files the last segment as promised. -/
theorem hlsFlushAndDestroy_promised
    {state : State} (ready : Ready rule state) :
    (hlsFlushAndDestroy config).wp
      (fun _ after => after.ws.hls = none ∧ rule.Promised after)
      rule.Promised state := by
  have promised : (hlsFlushAndDestroy config).wp (fun _ => rule.Promised)
      rule.Promised state := by
    rw [hlsFlushAndDestroy, wp_bind, wp_current]
    refine wp_via (fun _ => rule.Promised)
      (wp_split (fun _ => ?_) fun _ => ready.2) fun _ _ promised => promised
    rw [hlsFlush]
    refine wp_then (@hlsMediaInput_shows _ rule _ _ _ _ ?_ _ ⟨rfl, ready.2⟩) ?_
    · intro hls current calm
      refine ⟨(ready.1 calm hls current).2, fun frame absurdity => ?_⟩
      cases absurdity
    · rintro _ after ⟨_, _, _, _, shows⟩
      exact shows.2
  have gone := hlsFlushAndDestroy_none config state
  exact wp_mono (wp_and gone promised) (fun _ _ both => both)
    fun _ both => both.2

theorem metaDbEnsureDay_same : metaDbEnsureDay.Within rule.Same :=
  Within.bind (Within.modify fun _ => ⟨rfl, id⟩) fun _ =>
    @insertDay_within (fun _ => False) |>.mono rule.same_statementStep

/-- A rollover ends with a new muxer or none. -/
theorem rolloverDay_ready {state : State} (ready : Ready rule state) :
    (rolloverDay config).wp (fun _ => Ready rule) rule.Promised state := by
  rw [rolloverDay]
  refine wp_then (hlsFlushAndDestroy_promised ready) ?_
  rintro _ state ⟨none, promised⟩
  refine wp_then (shows_of_within
    (eventDbUpdateTotalFrames_within.mono rule.same_totalStep)
    ⟨rfl, promised⟩) fun _ reached shows => ?_
  rw [wp_bind, eventDbClose, wp_setWs]
  have gone : reached.ws.hls = Option.none := by
    have same := congrArg View.hls shows.1
    exact same.trans none
  refine wp_then (openToday_ready gone shows.2) fun result reached ready => ?_
  refine wp_via (fun _ => Ready rule) (wp_split (fun _ => ?_) fun _ => ready)
    fun _ _ ready => ready
  exact ready_of_within metaDbEnsureDay_same ready

theorem rolloverIfNewDay_ready {state : State} (ready : Ready rule state) :
    (rolloverIfNewDay config).wp (fun _ => Ready rule) rule.Promised
      state := by
  rw [rolloverIfNewDay, wp_bind, todayString, wp_bind, wp_answer]
  refine ⟨ready.2, fun today => ?_⟩
  rw [wp_pure, wp_bind, wp_log, wp_bind, wp_current]
  refine wp_split (fun _ => ?_) fun _ => ⟨ready.1, ready.2⟩
  exact wp_then (rolloverDay_ready ⟨ready.1, ready.2⟩) fun _ _ ready => ready

/-- A frame passes the gate behind a keyframe, or is one. -/
theorem passesGate_ready
    (frame : FqFrame) {state : State} (ready : Ready rule state) :
    (passesGate frame).wp
      (fun passes after =>
        if passes then
          rule.Promised after ∧ after.ws.seenKeyframe = true ∧
            ((rule.view after).calm = true →
              ∀ hls, after.ws.hls = some hls →
                (hls.bytes = 0 → frame.isKey = true) ∧
                  ∀ entries, after.ws.m3u = some entries →
                    rule.keeps hls entries)
        else Ready rule after)
      rule.Promised state := by
  rw [passesGate, wp_bind, wp_log, wp_bind, wp_current]
  refine wp_split (fun seen => ⟨ready.2, seen, fun calm hls current => ?_⟩)
    fun _ => wp_split (fun _ => ⟨ready.1, ready.2⟩) fun key =>
      ⟨ready.2, rfl, fun calm hls current => ?_⟩
  · have held := ready.1 calm hls current
    refine ⟨fun empty => ?_, held.2⟩
    have unseen : state.ws.seenKeyframe = false := held.1.mp empty
    rw [State.ws_log, unseen] at seen
    cases seen
  · exact ⟨fun _ => by simpa using key, (ready.1 calm hls current).2⟩

/-- `ingest_frame` keeps the muxer. -/
theorem ingestFrame_ready
    (frame : FqFrame) {state : State} (ready : Ready rule state) :
    (ingestFrame config frame).wp (fun _ => Ready rule) rule.Promised
      state := by
  rw [ingestFrame]
  refine wp_then (rolloverIfNewDay_ready ready) fun _ state ready => ?_
  refine wp_then (passesGate_ready frame ready) fun passes state passed => ?_
  cases passes with
  | false => exact passed
  | true =>
      obtain ⟨promised, seen, kept⟩ := passed
      refine wp_then (feedMuxer_ready frame promised seen kept)
        fun _ state ready => ?_
      refine wp_then (ready_of_within ((recordProgress_within config).mono
        rule.same_progressStep) ready) fun _ state ready => ?_
      exact ready_of_within ((checkAndCleanup_within config).mono
        rule.same_retentionStep) ready

/-- A start leaves a new muxer or none. -/
theorem writerBoot_ready {state : State} (promised : rule.Promised state) :
    (writerBoot config).wp
      (fun succeeded after =>
        if succeeded then Ready rule after else rule.Promised after)
      rule.Promised state.restart := by
  rw [writerBoot]
  refine wp_then (@openToday_ready _ rule state.restart rfl promised)
    fun opened state ready => ?_
  refine wp_split (fun _ => ready.2) fun _ => ?_
  refine wp_then (ready_of_within (metaDbInit_within.mono rule.same_dbStep)
    ready) fun initialised state ready => ?_
  refine wp_split (fun _ => ?_) fun _ => ?_
  · refine wp_then (hlsFlushAndDestroy_promised ready) ?_
    rintro _ state ⟨_, promised⟩
    exact promised
  · exact wp_then (ready_of_within metaDbEnsureDay_same ready)
      fun _ _ ready => ready

theorem writerStop_promised {state : State} (ready : Ready rule state) :
    (writerStop config).wp (fun _ => rule.Promised) rule.Promised state := by
  rw [writerStop]
  refine wp_then (hlsFlushAndDestroy_promised ready) ?_
  rintro _ state ⟨_, promised⟩
  refine wp_then (shows_of_within
    (eventDbUpdateTotalFrames_within.mono rule.same_totalStep)
    ⟨rfl, promised⟩) fun _ reached shows => ?_
  exact shows.2

end Storage

/-- In every history, what is put into a folder is as the rule promises, unless the
folder's muxer was disturbed before. -/
theorem SegmentRule.filed
    {config : Config} (rule : SegmentRule config)
    {phase : Daemon.Phase} {state : State}
    (reached : (writer config).Reach State.Unused phase state) :
    rule.Filed state.trace := by
  apply @Daemon.Reach.everywhere _ _ _ (writer config) State.Unused
    rule.Promised (Storage.Ready rule)
  · exact fun _ ready => ready.2
  · intro first unused
    rw [Promised, unused]
    trivial
  · exact fun _ promised => Storage.writerBoot_ready promised
  · exact fun frame _ ready => Storage.ingestFrame_ready frame ready
  · exact fun _ ready => Storage.writerStop_promised ready
  · exact reached

end MotionSense
