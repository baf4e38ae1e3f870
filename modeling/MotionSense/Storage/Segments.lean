import MotionSense.Storage.SegmentRules

/-!
# Segments and the timeline

Every segment begins with a keyframe and, with the configured duration of zero, is
one group of pictures.  The segments of a playlist tile its timeline: each ends
where the next one begins, or the stream itself has a gap there.
-/

namespace MotionSense

variable (config : Config)

/-! ## Groups of pictures -/

/-- The frames of a file that can be decoded from its start.  With a duration of
zero, nothing but its first frame is a keyframe. -/
def Decodable : List FqFrame → Prop
  | [] => False
  | first :: rest =>
      first.isKey = true ∧
        (config.hlsDurationS = 0 → ∀ frame ∈ rest, frame.isKey = false)

instance decidableDecodable :
    (frames : List FqFrame) → Decidable (Decodable config frames)
  | [] => inferInstanceAs (Decidable False)
  | first :: rest => inferInstanceAs (Decidable (first.isKey = true ∧
      (config.hlsDurationS = 0 → ∀ frame ∈ rest, frame.isKey = false)))

/-- A group of pictures goes on with a frame. -/
theorem Decodable.append
    {config : Config} {frames : List FqFrame}
    (decodable : Decodable config frames)
    {frame : FqFrame} (other : config.hlsDurationS = 0 → frame.isKey = false) :
    Decodable config (frames ++ [frame]) := by
  cases frames with
  | nil => exact absurd decodable id
  | cons first rest =>
      refine ⟨decodable.1, fun zero given member => ?_⟩
      rcases List.mem_append.mp member with before | last
      · exact decodable.2 zero given before
      · rw [List.mem_singleton.mp last]
        exact other zero

/-- A muxer whose segment can be decoded from its start. -/
structure StartsDecodable (hls : HlsMedia) : Prop where
  duration : hls.duration = config.hlsDurationS * 1000
  frames : 0 < hls.bytes → Decodable config hls.frames

/-- A keyframe is cut off at once when the duration is zero. -/
theorem StartsDecodable.other
    {config : Config} {hls : HlsMedia} (starts : StartsDecodable config hls)
    {frame : FqFrame} {dts : Int}
    (goesOn : hls.cuts dts frame.isKey = false)
    (zero : config.hlsDurationS = 0) : frame.isKey = false := by
  have duration : hls.duration = 0 := by
    rw [starts.duration, zero]
    rfl
  rw [Bool.eq_false_iff]
  intro key
  simp [HlsMedia.cuts, duration, key] at goesOn

/-- A new muxer has no segment yet. -/
theorem StartsDecodable.create
    (config : Config) :
    StartsDecodable config (HlsMedia.create (config.hlsDurationS * 1000)) where
  duration := rfl
  frames filled := absurd filled (Nat.lt_irrefl _)

/-- The first segment begins with a keyframe. -/
theorem StartsDecodable.begun
    {config : Config} {hls : HlsMedia} (starts : StartsDecodable config hls)
    {frame : FqFrame} {dts : Int} (key : frame.isKey = true) (packets : Nat) :
    StartsDecodable config
      ((hls.begin dts dts).feed (some frame) dts packets) where
  duration := starts.duration
  frames _ := by
    refine ⟨key, fun _ _ member => ?_⟩
    cases member

/-- A segment begins with a keyframe when no other frame may end the one before. -/
theorem StartsDecodable.cut
    {config : Config} {hls : HlsMedia} (starts : StartsDecodable config hls)
    (filled : 0 < hls.bytes) {frame : FqFrame} {dts : Int}
    (borne : (frame.isKey ||
      !(hls.cuts dts false || hls.forces (some frame) dts)) = true)
    (cut : hls.starts (some frame) dts frame.isKey = true) (packets : Nat) :
    StartsDecodable config
      ((hls.begin dts dts).feed (some frame) dts packets) := by
  apply starts.begun
  by_contra other
  rw [Bool.not_eq_true] at other
  have unequal := Nat.pos_iff_ne_zero.mp filled
  simp only [other, Bool.false_or, Bool.not_eq_true', Bool.or_eq_false_iff]
    at borne
  simp [HlsMedia.starts, other, unequal, borne] at cut

/-- A segment goes on. -/
theorem StartsDecodable.continued
    {config : Config} {hls : HlsMedia} (starts : StartsDecodable config hls)
    {frame : FqFrame} {dts : Int}
    (goesOn : hls.starts (some frame) dts frame.isKey = false)
    (packets : Nat) :
    StartsDecodable config (hls.feed (some frame) dts packets) where
  duration := starts.duration
  frames _ := by
    obtain ⟨filled, uncut, _⟩ := HlsMedia.starts_eq_false_iff.mp goesOn
    exact (starts.frames (Nat.pos_of_ne_zero filled)).append
      (starts.other uncut)

/-- Every file begins with a keyframe when no other frame starts a segment: none of
them arrives with a timestamp that goes back or finds a full segment.  Cuts may
fail. -/
def keyframeRule : SegmentRule config where
  bears hls frame dts :=
    frame.isKey || !(hls.cuts dts false || hls.forces (some frame) dts)
  bearsFailure := true
  keeps hls _ := StartsDecodable config hls
  files
    | .media frames => Decodable config frames
    | .playlist _ => True
  created := StartsDecodable.create config
  media starts filled := starts.frames filled
  playlist _ _ _ _ _ := trivial
  failed _ starts _ _ := starts
  began starts _ key packets := starts.begun key packets
  cut starts filled borne cut _ _ packets := starts.cut filled borne cut packets
  continued starts _ goesOn packets := starts.continued goesOn packets

/-- In every history, every `.ts` file that is put into a folder begins with a
keyframe, whatever cuts fail, and with a duration of zero it holds no other one.
What may disturb that, since the folder's muxer was created, is a frame without
data, or one that is no keyframe and whose timestamp goes back or whose segment is
full. -/
theorem segments_begin_with_keyframe
    {phase : Daemon.Phase} {state : State}
    (reached : (writer config).Reach State.Unused phase state)
    {moment : Moment} {older : List Moment}
    (place : moment :: older <:+ state.trace)
    {name : CString} {frames : List FqFrame}
    (filed : moment.event = .renamed name (.media frames))
    (calm : (keyframeRule config).undisturbed older = true) :
    Decodable config frames :=
  ((keyframeRule config).filed reached).files place filed calm

/-- A keyframe with one frame behind it, and two keyframes. -/
theorem segments_begin_with_keyframe_three_files :
    let frame : Bool → Int → FqFrame := fun isKey ptsUs =>
      ⟨some ⟨0, [1]⟩, 1, isKey, ptsUs⟩
    let frames := [frame true 0, frame false 40000, frame true 80000,
      frame true 300000]
    let state := (((writer {}).life frames).run (State.restart {})
      (List.replicate 120 ({} : Choice))).state
    ∃ moment older, moment :: older <:+ state.trace ∧
      moment.event = .renamed (tsName 0)
        (.media [frame true 0, frame false 40000]) ∧
      Decodable {} [frame true 0, frame false 40000] := by
  intro frame frames state
  have reached : (writer {}).Reach State.Unused .off state :=
    @Daemon.Reach.life _ _ _ (writer {}) State.Unused {} (.initial rfl) _ _
  obtain ⟨place, filed, calm⟩ : ∃ place : Fin state.trace.length,
      (state.trace.get place).event = .renamed (tsName 0)
        (.media [frame true 0, frame false 40000]) ∧
      (keyframeRule {}).undisturbed (state.trace.drop (place + 1)) = true := by
    decide +kernel
  have suffix : state.trace.get place :: state.trace.drop (place + 1) <:+
      state.trace := suffix_cons_iff_place.mpr ⟨place, rfl, rfl⟩
  clear_value state
  exact ⟨_, _, suffix, filed,
    segments_begin_with_keyframe {} reached suffix filed calm⟩

/-! ## The timeline -/

namespace PlaylistEntry

/-- The entry ends where the next one starts, or the stream has a gap of more than
100 ms there. -/
def Adjoins (entry : PlaylistEntry) (start : Int) : Prop :=
  entry.pts + entry.duration = start ∨
    entry.pts + entry.duration + 100 < start

instance (entry : PlaylistEntry) (start : Int) :
    Decidable (entry.Adjoins start) :=
  inferInstanceAs (Decidable (_ ∨ _))

end PlaylistEntry

/-- Every entry takes some time, and adjoins the next one. -/
structure Tiles (entries : List PlaylistEntry) : Prop where
  durations : ∀ entry ∈ entries, 0 ≤ entry.duration
  chain : entries.IsChain fun entry next => entry.Adjoins next.pts

instance (entries : List PlaylistEntry) : Decidable (Tiles entries) :=
  decidable_of_iff
    ((∀ entry ∈ entries, 0 ≤ entry.duration) ∧
      entries.IsChain fun entry next => entry.Adjoins next.pts)
    ⟨fun both => ⟨both.1, both.2⟩, fun tiles => ⟨tiles.1, tiles.2⟩⟩

theorem Tiles.append
    {entries : List PlaylistEntry} (tiles : Tiles entries)
    {entry : PlaylistEntry} (lasts : 0 ≤ entry.duration)
    (adjoins : ∀ last ∈ entries.getLast?, last.Adjoins entry.pts) :
    Tiles (entries ++ [entry]) where
  durations := by
    intro given member
    rcases List.mem_append.mp member with before | last
    · exact tiles.durations given before
    · rw [List.mem_singleton.mp last]
      exact lasts
  chain := by
    rw [List.isChain_append]
    refine ⟨tiles.chain, .singleton entry, fun last isLast next isNext => ?_⟩
    obtain rfl := Option.some.inj isNext
    exact adjoins last isLast

/-- The durations add up to no more than the time from the first segment to the
end of the last one. -/
theorem Tiles.total_le
    {entries : List PlaylistEntry} (tiles : Tiles entries)
    {first last : PlaylistEntry} (isFirst : first ∈ entries.head?)
    (isLast : last ∈ entries.getLast?) :
    (entries.map PlaylistEntry.duration).sum ≤
      last.pts + last.duration - first.pts := by
  induction entries generalizing first with
  | nil => cases isFirst
  | cons entry rest inductionHypothesis =>
      obtain rfl := Option.some.inj isFirst
      cases rest with
      | nil =>
          obtain rfl := Option.some.inj isLast
          simp
      | cons next rest =>
          have chain := List.isChain_cons_cons.mp tiles.chain
          have later : Tiles (next :: rest) :=
            ⟨fun given member => tiles.durations given
              (List.mem_cons_of_mem _ member), chain.2⟩
          have rests := inductionHypothesis later rfl
            (by rwa [List.getLast?_cons_cons] at isLast)
          have adjoins := chain.1
          rw [List.map_cons, List.sum_cons]
          unfold PlaylistEntry.Adjoins at adjoins
          omega

/-- The playlist tiles the time up to the segment under way. -/
structure TilesUpTo (hls : HlsMedia) (entries : List PlaylistEntry) :
    Prop where
  tiles : Tiles entries
  none : hls.bytes = 0 → entries = []
  start : 0 < hls.bytes → hls.pts = hls.dts ∧ hls.dts ≤ hls.dtsLast
  adjoins : 0 < hls.bytes → ∀ last ∈ entries.getLast?, last.Adjoins hls.dts

namespace TilesUpTo

variable {hls : HlsMedia} {entries : List PlaylistEntry}

/-- The segment is listed as one more tile. -/
theorem list
    (upTo : TilesUpTo hls entries) (filled : 0 < hls.bytes)
    {payload : Option FqFrame} {dts : Int}
    (ordered : payload.isSome = true → hls.dtsLast ≤ dts)
    (name : CString) (discontinuity : Bool) :
    Tiles (entries ++ [hls.entry payload dts name discontinuity]) := by
  have start := upTo.start filled
  apply upTo.tiles.append
  · change 0 ≤ (if _ then _ else _) - hls.dts
    cases payload with
    | none =>
        rw [if_pos (by simp [HlsMedia.forces])]
        omega
    | some frame =>
        have ordered := ordered rfl
        split <;> omega
  · intro last isLast
    change last.Adjoins hls.pts
    rw [start.1]
    exact upTo.adjoins filled last isLast

/-- It adjoins the segment that begins. -/
theorem entry_adjoins
    (upTo : TilesUpTo hls entries) (filled : 0 < hls.bytes)
    {frame : FqFrame} {dts : Int}
    (unforced : hls.forces (some frame) dts = false)
    (name : CString) (discontinuity : Bool) :
    (hls.entry (some frame) dts name discontinuity).Adjoins dts := by
  have start := upTo.start filled
  simp only [PlaylistEntry.Adjoins, HlsMedia.entry, HlsMedia.segmentDuration,
    unforced, start.1]
  by_cases gap : dts > hls.dtsLast + 100
  · right
    simp only [gap, decide_true, Bool.or_true, if_true]
    omega
  · left
    simp [gap]

/-- A new muxer has no playlist yet. -/
theorem create
    (config : Config) :
    TilesUpTo (HlsMedia.create (config.hlsDurationS * 1000)) [] where
  tiles := ⟨fun _ member => absurd member List.not_mem_nil, .nil⟩
  none _ := rfl
  start filled := absurd filled (Nat.lt_irrefl _)
  adjoins filled := absurd filled (Nat.lt_irrefl _)

/-- The first segment begins. -/
theorem begun
    (upTo : TilesUpTo hls entries) (empty : hls.bytes = 0) {frame : FqFrame}
    (dts : Int) (packets : Nat) :
    TilesUpTo ((hls.begin dts dts).feed (some frame) dts packets) entries where
  tiles := upTo.tiles
  none _ := upTo.none empty
  start _ := ⟨rfl, le_rfl⟩
  adjoins := by
    intro _ last isLast
    rw [upTo.none empty] at isLast
    cases isLast

/-- What a frame has to keep to once a segment is under way. -/
theorem ordered_of_borne
    {frame : FqFrame} {dts : Int} (filled : 0 < hls.bytes)
    (borne : (hls.bytes = 0 ||
      (decide (hls.dtsLast ≤ dts) && !hls.forces (some frame) dts)) = true) :
    hls.dtsLast ≤ dts ∧ hls.forces (some frame) dts = false := by
  have unequal := Nat.pos_iff_ne_zero.mp filled
  simpa [unequal] using borne

/-- The playlist that a segment is listed in. -/
theorem listed
    (upTo : TilesUpTo hls entries) (filled : 0 < hls.bytes)
    {payload : Option FqFrame} {dts : Int}
    (borne : ∀ frame, payload = some frame →
      (hls.bytes = 0 ||
        (decide (hls.dtsLast ≤ dts) && !hls.forces (some frame) dts)) = true)
    (name : CString) (discontinuity : Bool) :
    Tiles (entries ++ [hls.entry payload dts name discontinuity]) := by
  refine upTo.list filled (fun carries => ?_) name discontinuity
  obtain ⟨frame, given⟩ := Option.isSome_iff_exists.mp carries
  exact (ordered_of_borne filled (borne frame given)).1

/-- A segment ends and the next one begins. -/
theorem cut
    (upTo : TilesUpTo hls entries) (filled : 0 < hls.bytes) {frame : FqFrame}
    {dts : Int}
    (borne : (hls.bytes = 0 ||
      (decide (hls.dtsLast ≤ dts) && !hls.forces (some frame) dts)) = true)
    (name : CString) (discontinuity : Bool) (packets : Nat) :
    TilesUpTo ((hls.begin dts dts).feed (some frame) dts packets)
      (entries ++ [hls.entry (some frame) dts name discontinuity]) := by
  obtain ⟨ordered, unforced⟩ := ordered_of_borne filled borne
  refine ⟨upTo.list filled (fun _ => ordered) name discontinuity, ?_,
    fun _ => ⟨rfl, le_rfl⟩, fun _ last isLast => ?_⟩
  · intro empty
    rw [HlsMedia.bytes_feed] at empty
    omega
  · rw [List.getLast?_append_of_ne_nil _ (List.cons_ne_nil _ _)] at isLast
    obtain rfl := Option.some.inj isLast
    exact upTo.entry_adjoins filled unforced name discontinuity

/-- A segment goes on. -/
theorem continued
    (upTo : TilesUpTo hls entries) {frame : FqFrame} {dts : Int}
    (borne : (hls.bytes = 0 ||
      (decide (hls.dtsLast ≤ dts) && !hls.forces (some frame) dts)) = true)
    (goesOn : hls.starts (some frame) dts frame.isKey = false)
    (packets : Nat) :
    TilesUpTo (hls.feed (some frame) dts packets) entries := by
  have filled :=
    Nat.pos_of_ne_zero (HlsMedia.starts_eq_false_iff.mp goesOn).1
  have start := upTo.start filled
  refine ⟨upTo.tiles, fun empty => ?_, fun _ => ⟨start.1, ?_⟩, fun _ =>
    upTo.adjoins filled⟩
  · rw [HlsMedia.bytes_feed] at empty
    omega
  · exact start.2.trans (ordered_of_borne filled borne).1

end TilesUpTo

/-- Every playlist tiles its timeline when the frames that do not begin it arrive in
order and no cut fails. -/
def tilingRule : SegmentRule config where
  bears hls frame dts :=
    hls.bytes = 0 ||
      (decide (hls.dtsLast ≤ dts) && !hls.forces (some frame) dts)
  bearsFailure := false
  keeps := TilesUpTo
  files
    | .media _ => True
    | .playlist entries => Tiles entries
  created := TilesUpTo.create config
  media _ _ := trivial
  playlist upTo filled borne name discontinuity :=
    upTo.listed filled borne name discontinuity
  failed bears := absurd bears Bool.false_ne_true
  began {_ _ _ dts} upTo empty _ packets := upTo.begun empty dts packets
  cut upTo filled borne _ name discontinuity packets :=
    upTo.cut filled borne name discontinuity packets
  continued upTo borne goesOn packets := upTo.continued borne goesOn packets

/-- In every history, the segments of every playlist that is put into a folder tile
its timeline: none overlaps the next, and where one does not end with the start of the
next, the stream has a gap of more than 100 ms.  So their durations add up to no more
than the time they cover.  What may disturb that, since the folder's muxer was created,
is a cut that failed, a frame without data, or one whose timestamp goes back. -/
theorem playlists_tile
    {phase : Daemon.Phase} {state : State}
    (reached : (writer config).Reach State.Unused phase state)
    {moment : Moment} {older : List Moment}
    (place : moment :: older <:+ state.trace)
    {name : CString} {entries : List PlaylistEntry}
    (filed : moment.event = .renamed name (.playlist entries))
    (calm : (tilingRule config).undisturbed older = true) :
    Tiles entries ∧
      ∀ first ∈ entries.head?, ∀ last ∈ entries.getLast?,
        (entries.map PlaylistEntry.duration).sum ≤
          last.pts + last.duration - first.pts := by
  have tiles : Tiles entries :=
    ((tilingRule config).filed reached).files place filed calm
  exact ⟨tiles, fun _ isFirst _ isLast => tiles.total_le isFirst isLast⟩

/-- Three segments, and a gap of 220 ms before the last one. -/
theorem playlists_tile_three_entries :
    let frame : Bool → Int → FqFrame := fun isKey ptsUs =>
      ⟨some ⟨0, [1]⟩, 1, isKey, ptsUs⟩
    let frames := [frame true 0, frame false 40000, frame true 80000,
      frame true 300000]
    let entries : List PlaylistEntry :=
      [⟨tsName 0, 0, 80, false⟩, ⟨tsName 1, 80, 0, false⟩,
        ⟨tsName 2, 300, 0, false⟩]
    let state := (((writer {}).life frames).run (State.restart {})
      (List.replicate 120 ({} : Choice))).state
    ∃ moment older, moment :: older <:+ state.trace ∧
      moment.event = .renamed indexName (.playlist entries) ∧
      Tiles entries := by
  intro frame frames entries state
  have reached : (writer {}).Reach State.Unused .off state :=
    @Daemon.Reach.life _ _ _ (writer {}) State.Unused {} (.initial rfl) _ _
  obtain ⟨place, filed, calm⟩ : ∃ place : Fin state.trace.length,
      (state.trace.get place).event = .renamed indexName
        (.playlist entries) ∧
      (tilingRule {}).undisturbed (state.trace.drop (place + 1)) = true := by
    decide +kernel
  have suffix : state.trace.get place :: state.trace.drop (place + 1) <:+
      state.trace := suffix_cons_iff_place.mpr ⟨place, rfl, rfl⟩
  clear_value state
  exact ⟨_, _, suffix, filed,
    (playlists_tile {} reached suffix filed calm).1⟩

end MotionSense
