import MotionSense.Storage.Folders

/-!
# The published playlist

`hls_cb` takes the next name and adds the playlist entry before it writes the
segment and the playlist, and the muxer keeps its buffer when `hls_cb` fails.
The playlist on the card is sound as long as it is not replaced behind a failed
cut: from then on it names a segment that may be missing, or one whose frames
are published again under the next name.
-/

namespace MotionSense

/-- The frames that calls of `hls_media_input` carry. -/
def MediaInput.frames (inputs : List MediaInput) : List FqFrame :=
  inputs.filterMap MediaInput.payload

/-- Calls of `hls_media_input` one after the other, their results not looked
at. -/
def Storage.hlsMediaInputs (config : Config) (inputs : List MediaInput) :
    Storage Unit :=
  Program.forEach
    (fun input => do
      let _ ← hlsMediaInput config input.payload input.pts input.dts input.isKey)
    inputs

/-! ## What has happened in the folder -/

namespace Moment

/-- The buffers handed to `hls_cb` since the folder was opened, oldest first. -/
def cuts : List Moment → List (List FqFrame)
  | [] => []
  | moment :: earlier =>
      match moment.event with
      | .opened _ => []
      | .cut frames => cuts earlier ++ [frames]
      | _ => cuts earlier

/-- `hls_cb` has failed since the folder was opened. -/
def cutFailed : List Moment → Bool
  | [] => false
  | moment :: earlier =>
      match moment.event with
      | .opened _ => false
      | .cutDone result => result != 0 || cutFailed earlier
      | _ => cutFailed earlier

/-- Since the folder was opened, its playlist has not been replaced behind a
failed cut. -/
def keepsIndex : List Moment → Bool
  | [] => true
  | moment :: earlier =>
      match moment.event with
      | .opened _ => true
      | .renamed name _ =>
          (name ≠ indexName || !cutFailed earlier) && keepsIndex earlier
      | _ => keepsIndex earlier

/-- The same as a proposition. -/
abbrev KeepsIndex (trace : List Moment) : Prop := keepsIndex trace = true

theorem keepsIndex_renamed
    (name : CString) (data : FileData) (ws : WriterState) (disk : Disk)
    (earlier : List Moment) :
    KeepsIndex (⟨.renamed name data, ws, disk⟩ :: earlier) ↔
      (name = indexName → cutFailed earlier = false) ∧
        KeepsIndex earlier := by
  simp [KeepsIndex, keepsIndex, Decidable.imp_iff_not_or]

end Moment

namespace State

/-- A file of the writer's segment folder. -/
def file (state : State) (name : CString) : Option FileData :=
  (state.disk.folder state.ws.segmentDir.date state.ws.segmentDir.name).bind
    fun folder => folder name

/-- What `open_today` leaves behind when it has made a new folder. -/
structure FreshSegment (state : State) : Prop where
  opened : state.trace.head?.map Moment.event = some (.opened 0)
  empty : ∀ name, state.file name = none
  playlist : state.ws.m3u = some []
  muxer : ∃ duration, state.ws.hls = some (HlsMedia.create duration)
  index : state.ws.tsIdx = 0

/-- The playlist on the card names distinct files, the file of each entry holds
the whole segment that the entry was added for, and no frame of those given to
the muxer is listed twice. -/
def PlaylistSound (state : State) (given : List FqFrame) : Prop :=
  ∀ entries, state.file indexName = some (.playlist entries) →
    (entries.map PlaylistEntry.name).Nodup ∧
    (∀ (k : Nat) (entry : PlaylistEntry), entries[k]? = some entry →
      ∃ frames, (Moment.cuts state.trace)[k]? = some frames ∧
        state.file entry.name = some (.media frames)) ∧
    ((Moment.cuts state.trace).take entries.length).flatten.Sublist given

end State

/-! ## Files -/

/-- A file after one file of the writer's folder was replaced. -/
theorem State.file_putFile
    {state : State}
    (present : state.disk.exists? (.segment state.ws.segmentDir) = true)
    (name : CString) (data : FileData) :
    (state.updateDisk fun disk =>
      disk.putFile state.ws.segmentDir name data).file =
      Function.update state.file name (some data) := by
  obtain ⟨folder, found⟩ := Option.isSome_iff_exists.mp present
  have replaced := Disk.folder_putFile_self name data found
  funext other
  simp only [State.file, State.ws_updateDisk, State.disk_updateDisk, replaced,
    Option.bind_some]
  by_cases same : other = name
  · subst same
    rw [Function.update_self, Function.update_self]
  · rw [Function.update_of_ne same, Function.update_of_ne same, State.file,
      found, Option.bind_some]

/-! ## The published part of a folder -/

/-- The first `published` cuts are on the card under their names, and the
playlist on the card names no others. -/
structure Published
    (file : CString → Option FileData) (cuts : List (List FqFrame))
    (given : List FqFrame) (published : Nat) : Prop where
  bound : published ≤ cuts.length
  index : ∀ entries, file indexName = some (.playlist entries) →
    entries.length ≤ published ∧
      entries.map PlaylistEntry.name = (List.range entries.length).map tsName
  media : ∀ k < published, ∃ frames, cuts[k]? = some frames ∧
    file (tsName k) = some (.media frames)
  once : (cuts.take published).flatten.Sublist given

namespace Published

variable {file : CString → Option FileData} {cuts : List (List FqFrame)}
  {given : List FqFrame} {published : Nat}

/-- A further cut leaves the published ones alone. -/
theorem cut (holds : Published file cuts given published)
    (frames : List FqFrame) :
    Published file (cuts ++ [frames]) given published where
  bound := by
    rw [List.length_append]
    exact Nat.le_add_right_of_le holds.bound
  index := holds.index
  media k below := by
    obtain ⟨media, found, stored⟩ := holds.media k below
    refine ⟨media, ?_, stored⟩
    rw [List.getElem?_append_left (Nat.lt_of_lt_of_le below holds.bound)]
    exact found
  once := by
    rw [List.take_append_of_le_length holds.bound]
    exact holds.once

/-- A name that is not published yet may be written. -/
theorem put (holds : Published file cuts given published)
    {index : Nat} (fresh : published ≤ index) (data : FileData) :
    Published (Function.update file (tsName index) (some data)) cuts given
      published where
  bound := holds.bound
  index entries := by
    rw [Function.update_of_ne (tsName_ne_indexName index).symm]
    exact holds.index entries
  media k below := by
    rw [Function.update_of_ne fun same =>
      absurd (tsName_injective same) (Nat.ne_of_lt (Nat.lt_of_lt_of_le below fresh))]
    exact holds.media k below
  once := holds.once

/-- The playlist of all cuts may be published once the last one is on the
card. -/
theorem publish {frames : List FqFrame}
    (holds : Published file (cuts ++ [frames]) given cuts.length)
    (stored : file (tsName cuts.length) = some (.media frames))
    (fits : (cuts ++ [frames]).flatten.Sublist given)
    {entries : List PlaylistEntry}
    (names : entries.map PlaylistEntry.name =
      (List.range (cuts.length + 1)).map tsName) :
    Published (Function.update file indexName (some (.playlist entries)))
      (cuts ++ [frames]) given (cuts.length + 1) where
  bound := by rw [List.length_append, List.length_singleton]
  index listed found := by
    rw [Function.update_self, Option.some.injEq, FileData.playlist.injEq]
      at found
    subst found
    have length := congrArg List.length names
    rw [List.length_map, List.length_map, List.length_range] at length
    rw [length]
    exact ⟨le_rfl, names⟩
  media k below := by
    rw [Function.update_of_ne (tsName_ne_indexName k)]
    rcases Nat.lt_succ_iff_lt_or_eq.mp below with earlier | rfl
    · exact holds.media k earlier
    · exact ⟨frames, List.getElem?_concat_length, stored⟩
  once := by
    rw [List.take_of_length_le (by
      rw [List.length_append, List.length_singleton])]
    exact fits

/-- More frames may be given. -/
theorem mono (holds : Published file cuts given published)
    (more : List FqFrame) :
    Published file cuts (given ++ more) published :=
  { holds with once := holds.once.trans (List.sublist_append_left _ _) }

end Published

/-! ## Between two calls -/

namespace State

/-- Some part of the folder is published, unless the playlist was replaced
behind a failed cut. -/
def PartlyPublished (given : List FqFrame) (state : State) : Prop :=
  Moment.KeepsIndex state.trace → ∃ published,
    Published state.file (Moment.cuts state.trace) given published

/-- As long as no cut has failed, every cut is published and the buffer holds
what is left of the frames given. -/
structure Listed (given buffer : List FqFrame) (state : State) : Prop where
  partly : state.PartlyPublished given
  index : state.ws.tsIdx = (Moment.cuts state.trace).length
  intact : Moment.cutFailed state.trace = false →
    Moment.KeepsIndex state.trace →
    Published state.file (Moment.cuts state.trace) given
      (Moment.cuts state.trace).length ∧
    ((Moment.cuts state.trace).flatten ++ buffer).Sublist given ∧
    ∃ entries, state.ws.m3u = some entries ∧
      entries.map PlaylistEntry.name =
        (List.range (Moment.cuts state.trace).length).map tsName

/-- The buffer of the muxer is the one that goes with the playlist. -/
def Running (given : List FqFrame) (state : State) : Prop :=
  ∃ hls, state.ws.hls = some hls ∧ state.Listed given hls.frames

theorem PartlyPublished.mono
    {given : List FqFrame} {state : State}
    (partly : state.PartlyPublished given) (more : List FqFrame) :
    state.PartlyPublished (given ++ more) := fun keeps => by
  obtain ⟨published, holds⟩ := partly keeps
  exact ⟨published, holds.mono more⟩

/-- The playlist of a folder published in part is sound. -/
theorem PartlyPublished.playlistSound
    {given : List FqFrame} {state : State}
    (partly : state.PartlyPublished given)
    (keeps : Moment.KeepsIndex state.trace) :
    state.PlaylistSound given := by
  obtain ⟨published, holds⟩ := partly keeps
  intro entries found
  obtain ⟨bound, names⟩ := holds.index entries found
  refine ⟨?_, fun k entry listed => ?_, ?_⟩
  · rw [names]
    exact List.Nodup.map tsName_injective List.nodup_range
  · have inside : k < entries.length :=
      (List.getElem?_eq_some_iff.mp listed).1
    obtain ⟨frames, cut, stored⟩ :=
      holds.media k (Nat.lt_of_lt_of_le inside bound)
    have named := congrArg (fun names => names[k]?) names
    simp only [List.getElem?_map, listed, Option.map_some,
      List.getElem?_range inside, Option.some.injEq] at named
    exact ⟨frames, cut, by rw [named]; exact stored⟩
  · exact (List.Sublist.flatten
      (List.take_sublist_take_left bound)).trans holds.once

/-- Calls leave what is between two calls of the muxer as it is. -/
theorem Listed.calls
    {given buffer : List FqFrame} {state after : State}
    (listed : state.Listed given buffer)
    (calls : Relation.ReflTransGen CallStep state after) :
    after.Listed given buffer ∧ after.ws.hls = state.ws.hls := by
  induction calls with
  | refl => exact ⟨listed, rfl⟩
  | tail _ last earlier =>
      cases last with
      | called kind succeeded =>
          exact ⟨⟨earlier.1.partly, earlier.1.index, earlier.1.intact⟩, earlier.2⟩

/-- Frames may be dropped from the buffer. -/
theorem Listed.shrink
    {given buffer kept : List FqFrame} {state : State}
    (listed : state.Listed given buffer) (part : kept.Sublist buffer) :
    state.Listed given kept where
  partly := listed.partly
  index := listed.index
  intact unfailed keeps := by
    obtain ⟨holds, fits, names⟩ := listed.intact unfailed keeps
    exact ⟨holds, ((List.Sublist.refl _).append part).trans fits, names⟩

/-- Frames are given, and some of them added to the buffer. -/
theorem Listed.give
    {given buffer kept more : List FqFrame} {state : State}
    (listed : state.Listed given buffer) (part : kept.Sublist more) :
    state.Listed (given ++ more) (buffer ++ kept) where
  partly := listed.partly.mono more
  index := listed.index
  intact unfailed keeps := by
    obtain ⟨holds, fits, names⟩ := listed.intact unfailed keeps
    refine ⟨holds.mono more, ?_, names⟩
    rw [← List.append_assoc]
    exact fits.append part

theorem Listed.muxer
    {given buffer : List FqFrame} {state : State}
    (listed : state.Listed given buffer)
    (update : Option HlsMedia → Option HlsMedia) :
    (state.updateWs fun ws => { ws with hls := update ws.hls }).Listed
      given buffer :=
  ⟨listed.partly, listed.index, listed.intact⟩

/-- The end of a cut that failed behind the publication. -/
theorem Listed.failed
    {given : List FqFrame} {state : State}
    (listed : state.Listed given []) (frames : List FqFrame) :
    (state.log (.cutDone (-1))).Listed given frames where
  partly := listed.partly
  index := listed.index
  intact unfailed := by simp [Moment.cutFailed] at unfailed

/-- The end of a cut that succeeded. -/
theorem Listed.succeeded
    {given : List FqFrame} {state : State}
    (listed : state.Listed given []) :
    ((state.updateWs fun ws =>
      { ws with tsSinceCleanup := ws.tsSinceCleanup + 1 }).log
        (.cutDone 0)).Listed given [] where
  partly := listed.partly
  index := listed.index
  intact unfailed := listed.intact (by simpa [Moment.cutFailed] using unfailed)

end State

/-! ## One cut -/

/-- During a cut begun in `start`: the segment is the last of the cuts, its
name is taken and its entry is added. -/
structure Cutting
    (given frames : List FqFrame) (start : State)
    (entries : List PlaylistEntry) (state : State) : Prop where
  index : start.ws.tsIdx = (Moment.cuts start.trace).length
  ws : state.ws =
    { start.ws with tsIdx := start.ws.tsIdx + 1, m3u := some entries }
  cuts : Moment.cuts state.trace = Moment.cuts start.trace ++ [frames]
  partly : Moment.KeepsIndex state.trace →
    ∃ published ≤ (Moment.cuts start.trace).length,
      Published state.file (Moment.cuts start.trace ++ [frames]) given published
  intact : Moment.cutFailed state.trace = false →
    Moment.KeepsIndex state.trace →
    Published state.file (Moment.cuts start.trace ++ [frames]) given
      (Moment.cuts start.trace).length ∧
    (Moment.cuts start.trace ++ [frames]).flatten.Sublist given ∧
    entries.map PlaylistEntry.name =
      (List.range ((Moment.cuts start.trace).length + 1)).map tsName

namespace Cutting

variable {given frames : List FqFrame} {start state : State}
  {entries : List PlaylistEntry}

theorem partlyPublished (cutting : Cutting given frames start entries state) :
    state.PartlyPublished given := fun keeps => by
  obtain ⟨published, _, holds⟩ := cutting.partly keeps
  exact ⟨published, by rw [cutting.cuts]; exact holds⟩

theorem tsIdx (cutting : Cutting given frames start entries state) :
    state.ws.tsIdx = (Moment.cuts state.trace).length := by
  rw [cutting.ws, cutting.cuts, cutting.index, List.length_append,
    List.length_singleton]

/-- The moment the entry is added. -/
theorem begin
    {listed : List PlaylistEntry}
    (held : start.Listed given frames)
    (playlist : start.ws.m3u = some listed)
    (dts pts duration : Int) (discontinuity : Bool) :
    let entry : PlaylistEntry :=
      ⟨tsName start.ws.tsIdx, pts, duration, discontinuity⟩
    Cutting given frames start (listed ++ [entry])
      (({ start.log (.cut frames) with lastDts := dts }.updateWs fun ws =>
        { ws with tsIdx := ws.tsIdx + 1 }).updateWs fun ws =>
          { ws with m3u := ws.m3u.map fun added => added ++ [entry] }) := by
  intro entry
  constructor
  · exact held.index
  · simp [playlist]
  · rfl
  · intro keeps
    obtain ⟨published, holds⟩ := held.partly keeps
    exact ⟨published, holds.bound, holds.cut frames⟩
  · intro unfailed keeps
    obtain ⟨holds, fits, entries, added, names⟩ := held.intact unfailed keeps
    rw [playlist, Option.some.injEq] at added
    subst added
    refine ⟨holds.cut frames, by
      rw [List.flatten_append, List.flatten_singleton]
      exact fits, ?_⟩
    rw [List.map_append, names, List.range_succ, List.map_append,
      ← held.index]
    rfl

/-- A cut that fails leaves its frames in the buffer. -/
theorem failed (cutting : Cutting given frames start entries state) :
    (state.log (.cutDone (-1))).Listed given frames where
  partly := cutting.partlyPublished
  index := cutting.tsIdx
  intact unfailed := by simp [Moment.cutFailed] at unfailed

theorem calls {after : State}
    (cutting : Cutting given frames start entries state)
    (calls : Relation.ReflTransGen CallStep state after) :
    Cutting given frames start entries after ∧ after.file = state.file := by
  induction calls with
  | refl => exact ⟨cutting, rfl⟩
  | tail _ last earlier =>
      cases last with
      | called kind succeeded =>
          obtain ⟨held, same⟩ := earlier
          exact ⟨⟨held.index, held.ws, held.cuts, held.partly, held.intact⟩, same⟩

/-- The segment is on the card. -/
theorem stored
    (cutting : Cutting given frames start entries state)
    (present :
      state.disk.exists? (.segment start.ws.segmentDir) = true) :
    let after := (state.updateDisk fun disk => disk.putFile
      start.ws.segmentDir (tsName start.ws.tsIdx) (.media frames)).log
        (.renamed (tsName start.ws.tsIdx) (.media frames))
    Cutting given frames start entries after ∧
      after.file (tsName start.ws.tsIdx) = some (.media frames) := by
  intro after
  have sameDir : start.ws.segmentDir = state.ws.segmentDir := by
    rw [cutting.ws]
  have file : after.file = Function.update state.file
      (tsName start.ws.tsIdx) (some (.media frames)) := by
    rw [sameDir] at present
    have replaced := State.file_putFile present (tsName start.ws.tsIdx)
      (.media frames)
    rw [← sameDir] at replaced
    exact replaced
  refine ⟨⟨cutting.index, cutting.ws, cutting.cuts, fun keeps => ?_,
    fun unfailed keeps => ?_⟩, by rw [file, Function.update_self]⟩
  · obtain ⟨published, bound, holds⟩ :=
      cutting.partly ((Moment.keepsIndex_renamed _ _ _ _ _).mp keeps).2
    rw [file]
    exact ⟨published, bound, holds.put (by rw [cutting.index]; exact bound) _⟩
  · obtain ⟨holds, fits, names⟩ := cutting.intact unfailed
      ((Moment.keepsIndex_renamed _ _ _ _ _).mp keeps).2
    rw [file]
    exact ⟨holds.put (by rw [cutting.index]) _, fits, names⟩

/-- The playlist is on the card as well. -/
theorem published
    (cutting : Cutting given frames start entries state)
    (stored : state.file (tsName start.ws.tsIdx) = some (.media frames))
    (present :
      state.disk.exists? (.segment start.ws.segmentDir) = true) :
    ((state.updateDisk fun disk => disk.putFile start.ws.segmentDir indexName
      (.playlist entries)).log (.renamed indexName (.playlist entries))).Listed
        given [] := by
  have sameDir : start.ws.segmentDir = state.ws.segmentDir := by
    rw [cutting.ws]
  rw [sameDir] at present ⊢
  have file := State.file_putFile present indexName (.playlist entries)
  have all : Moment.KeepsIndex (state.log
      (.renamed indexName (.playlist entries))).trace →
      Published (Function.update state.file indexName
        (some (.playlist entries)))
        (Moment.cuts state.trace) given (Moment.cuts state.trace).length ∧
      (Moment.cuts state.trace).flatten.Sublist given ∧
      entries.map PlaylistEntry.name =
        (List.range (Moment.cuts state.trace).length).map tsName := by
    intro keepsNow
    obtain ⟨unfailed, keeps⟩ :=
      (Moment.keepsIndex_renamed _ _ _ _ _).mp keepsNow
    obtain ⟨holds, fits, names⟩ := cutting.intact (unfailed rfl) keeps
    rw [cutting.index] at stored
    rw [cutting.cuts, List.length_append, List.length_singleton]
    exact ⟨holds.publish stored fits names, fits, names⟩
  constructor
  · intro keeps
    exact ⟨_, by rw [← file] at all; exact (all keeps).1⟩
  · exact cutting.tsIdx
  · intro _ keeps
    obtain ⟨holds, fits, names⟩ := all keeps
    rw [← file] at holds
    refine ⟨holds, by rw [List.append_nil]; exact fits, entries, ?_, names⟩
    change state.ws.m3u = some entries
    rw [cutting.ws]

end Cutting

namespace Storage

open Program

variable (config : Config)

/-- Writing the segment. -/
theorem writeMedia_cutting
    {given frames : List FqFrame} {start state : State}
    {entries : List PlaylistEntry}
    (cutting : Cutting given frames start entries state) :
    (writeFileAtomic start.ws.segmentDir (tsName start.ws.tsIdx)
      (.media frames)).wp
      (fun result after => Cutting given frames start entries after ∧
        (result = 0 →
          after.file (tsName start.ws.tsIdx) = some (.media frames)))
      (State.PartlyPublished given) state := by
  refine wp_writeFileAtomic (fun after calls => ?_)
    fun before after earlier present calls => ?_
  · have held := (cutting.calls calls).1
    exact ⟨held.partlyPublished, held, fun impossible => by simp at impossible⟩
  · obtain ⟨written, stored⟩ := (cutting.calls earlier).1.stored present
    obtain ⟨held, same⟩ := written.calls calls
    rw [← same] at stored
    exact ⟨held.partlyPublished, ⟨held, fun _ => stored⟩, held, fun _ => stored⟩

/-- Writing the playlist once the segment is on the card. -/
theorem writeIndex_listed
    {given frames : List FqFrame} {start state : State}
    {entries : List PlaylistEntry}
    (cutting : Cutting given frames start entries state)
    (stored : state.file (tsName start.ws.tsIdx) = some (.media frames)) :
    (writeFileAtomic start.ws.segmentDir indexName (.playlist entries)).wp
      (fun result after => after.ws.hls = start.ws.hls ∧
        (result = 0 → after.Listed given []) ∧
        (result ≠ 0 → (after.log (.cutDone (-1))).Listed given frames))
      (State.PartlyPublished given) state := by
  refine wp_writeFileAtomic (fun after calls => ?_)
    fun before after earlier present calls => ?_
  · have held := (cutting.calls calls).1
    exact ⟨held.partlyPublished, by rw [held.ws],
      fun impossible => by simp at impossible, fun _ => held.failed⟩
  · obtain ⟨held, same⟩ := cutting.calls earlier
    rw [← same] at stored
    obtain ⟨listed, muxer⟩ := (held.published stored present).calls calls
    have sameMuxer : after.ws.hls = start.ws.hls := by
      rw [muxer]
      change before.ws.hls = start.ws.hls
      rw [held.ws]
    exact ⟨listed.partly, ⟨sameMuxer, fun impossible => by simp at impossible,
      fun _ => listed.failed frames⟩, sameMuxer, fun _ => listed,
      fun nonzero => absurd rfl nonzero⟩

/-- A cut that succeeds leaves no frames to be published; one that fails leaves
its own. -/
theorem hlsCb_listed
    {given frames : List FqFrame} {state : State}
    (listed : state.Listed given frames)
    (pts dts duration : Int) :
    (hlsCb config frames pts dts duration).wp
      (fun result after => after.ws.hls = state.ws.hls ∧
        after.Listed given (if result = 0 then [] else frames))
      (State.PartlyPublished given) state := by
  rw [hlsCb, wp_bind, wp_log, wp_bind, wp_current, wp_bind, wp_modify,
    wp_bind, wp_setWs]
  cases playlist : state.ws.m3u with
  | none =>
      simp only [State.ws_log, playlist]
      intro keeps
      obtain ⟨published, holds⟩ := listed.partly keeps
      exact ⟨published, holds.cut frames⟩
  | some entries =>
      simp only [State.ws_log, playlist]
      rw [wp_bind, wp_setWs]
      have begun := Cutting.begin listed playlist dts pts duration
        (if state.lastDts < 0 then false
          else decide (dts > state.lastDts + config.hlsDuration.tdiv 2))
      refine wp_then (writeMedia_cutting begun) fun media written first => ?_
      obtain ⟨cutting, stored⟩ := first
      refine wp_split (fun _ => ?_) fun ok => ?_
      · exact ⟨by change written.ws.hls = _; rw [cutting.ws], cutting.failed⟩
      refine wp_then (writeIndex_listed cutting (stored (by simpa using ok)))
        fun index after second => ?_
      obtain ⟨muxer, published, failed⟩ := second
      refine wp_split (fun nonzero => ⟨muxer, failed nonzero⟩) fun ok => ?_
      exact ⟨muxer, (published (by simpa using ok)).succeeded⟩

/-- A new segment is begun, or the frames of the old one are kept. -/
theorem hlsNewSegment_running
    {given : List FqFrame} {state : State} {hls : HlsMedia}
    (muxer : state.ws.hls = some hls)
    (listed : state.Listed given hls.frames)
    (payload : Option FqFrame) (pts dts : Int) :
    (hlsNewSegment config hls payload pts dts).wp
      (fun _ => State.Running given) (State.PartlyPublished given) state := by
  have handed : (if 0 < hls.bytes then
      hlsCb config hls.frames hls.pts hls.dts (hls.segmentDuration payload dts)
      else Pure.pure 0).wp
      (fun result after => after.ws.hls = some hls ∧
        after.Listed given (if result = 0 then [] else hls.frames))
      (State.PartlyPublished given) state := by
    rw [← muxer]
    refine wp_split (fun _ => hlsCb_listed config listed _ _ _) fun _ => ?_
    exact ⟨rfl, listed.shrink (List.nil_sublist _)⟩
  refine wp_then handed fun result after held => ?_
  obtain ⟨kept, listed⟩ := held
  refine wp_split (fun nonzero => ?_) fun ok => ?_
  · rw [if_neg nonzero] at listed
    exact ⟨hls, kept, listed⟩
  · rw [if_pos (by simpa using ok)] at listed
    exact ⟨hls.begin pts dts, by simp [kept], listed.muxer _⟩

/-- What a call of the muxer keeps. -/
theorem hlsMediaInput_running
    {given : List FqFrame} {state : State}
    (running : state.Running given)
    (input : MediaInput) :
    (hlsMediaInput config input.payload input.pts input.dts input.isKey).wp
      (fun _ => State.Running (given ++ input.payload.toList))
      (State.PartlyPublished (given ++ input.payload.toList)) state := by
  obtain ⟨hls, muxer, listed⟩ := running
  have stops : ∀ after, State.PartlyPublished given after →
      State.PartlyPublished (given ++ input.payload.toList) after :=
    fun _ partly => partly.mono _
  rw [hlsMediaInput, wp_bind, wp_current]
  simp only [muxer]
  have begun : (if hls.bytes = 0 || hls.cuts input.dts input.isKey ||
        hls.forces input.payload input.dts then
      hlsNewSegment config hls input.payload input.pts input.dts
      else Pure.pure 0).wp (fun _ => State.Running given)
      (State.PartlyPublished given) state :=
    wp_split (fun _ => hlsNewSegment_running config muxer listed _ _ _)
      fun _ => ⟨hls, muxer, listed⟩
  refine wp_then (wp_mono begun (fun _ _ held => held) stops)
    fun result after held => ?_
  obtain ⟨current, muxer, listed⟩ := held
  refine wp_split (fun _ => ?_) fun _ => ?_
  · refine ⟨current, muxer, ?_⟩
    have given := listed.give (List.nil_sublist input.payload.toList)
    rw [List.append_nil] at given
    exact given
  rw [wp_bind, wp_answer]
  refine ⟨stops _ listed.partly, fun written => ?_⟩
  rw [wp_bind, wp_setWs, wp_bind]
  have appended : ∀ reached : State,
      reached.ws.hls = some ({ current with
        audioOnlyFlag := false, dtsLast := input.dts }.write input.payload
          written.packets) →
      reached.Listed (given ++ input.payload.toList)
        (current.frames ++ input.payload.toList) →
      reached.Running (given ++ input.payload.toList) := by
    intro reached muxer listed
    refine ⟨_, muxer, ?_⟩
    rw [HlsMedia.frames_write]
    exact listed
  have stored := (listed.give
    (List.Sublist.refl input.payload.toList)).muxer fun hls =>
      hls.map fun hls =>
        { hls with audioOnlyFlag := false, dtsLast := input.dts }.write
          input.payload written.packets
  apply wp_noteAppended
  · exact fun _ => appended _ (by rw [State.ws_updateWs, muxer]; rfl) stored
  · exact fun frame _ => appended _
      (by rw [State.ws_log, State.ws_updateWs, muxer]; rfl)
      ⟨stored.partly, stored.index, stored.intact⟩

/-- What calls of the muxer keep, one after the other. -/
theorem hlsMediaInputs_partlyPublished
    (inputs : List MediaInput)
    {given : List FqFrame} {state : State}
    (running : state.Running given) :
    (hlsMediaInputs config inputs).wp
      (fun _ => State.PartlyPublished (given ++ MediaInput.frames inputs))
      (State.PartlyPublished (given ++ MediaInput.frames inputs)) state := by
  induction inputs generalizing given state with
  | nil =>
      obtain ⟨_, _, listed⟩ := running
      exact listed.partly.mono _
  | cons input inputs inductionHypothesis =>
      have frames : MediaInput.frames (input :: inputs) =
          input.payload.toList ++ MediaInput.frames inputs := by
        rw [MediaInput.frames, List.filterMap_cons]
        cases input.payload <;> rfl
      have first := hlsMediaInput_running config running input
      rw [frames, ← List.append_assoc]
      refine wp_via
        (fun _ => State.Running (given ++ input.payload.toList)) ?_
        fun _ after held => inductionHypothesis held
      refine wp_then (wp_mono first (fun _ _ held => held)
        fun _ stopped => stopped.mono _) fun _ after held => ?_
      exact held

end Storage

/-- A new folder is ready for its first frame. -/
theorem State.FreshSegment.running
    {state : State} (fresh : state.FreshSegment) :
    state.Running [] := by
  obtain ⟨duration, muxer⟩ := fresh.muxer
  obtain ⟨moment, earlier, trace, opened⟩ : ∃ moment earlier,
      state.trace = moment :: earlier ∧ moment.event = .opened 0 := by
    have opened := fresh.opened
    cases trace : state.trace with
    | nil => simp [trace] at opened
    | cons moment earlier =>
        exact ⟨moment, earlier, rfl, by simpa [trace] using opened⟩
  have cuts : Moment.cuts state.trace = [] := by
    rw [trace, Moment.cuts, opened]
  have published : Published state.file (Moment.cuts state.trace) [] 0 := by
    refine ⟨Nat.zero_le _, fun entries found => ?_, fun k below => ?_, ?_⟩
    · simp [fresh.empty] at found
    · exact absurd below (Nat.not_lt_zero k)
    · exact List.Sublist.refl _
  refine ⟨HlsMedia.create duration, muxer, fun _ => ⟨0, published⟩, ?_, ?_⟩
  · rw [fresh.index, cuts, List.length_nil]
  · intro _ _
    rw [cuts] at published ⊢
    exact ⟨published, List.Sublist.refl _, [], fresh.playlist, rfl⟩

/-- Calls of the muxer on a new folder, cut short anywhere: its playlist is
sound unless it has been replaced behind a failed cut. -/
theorem playlist_sound_of_keepsIndex
    (config : Config)
    (inputs : List MediaInput)
    (start : State)
    (fresh : start.FreshSegment)
    (script : List Choice)
    (after : State)
    (ran : ((Storage.hlsMediaInputs config inputs).run start script).state =
      after)
    (keeps : Moment.KeepsIndex after.trace) :
    after.PlaylistSound (MediaInput.frames inputs) := by
  have kept := Program.Outcome.Meets.state ((Program.wp_iff_run _ _ _ _).mp
    (Storage.hlsMediaInputs_partlyPublished config inputs fresh.running) script)
  rw [ran, List.nil_append] at kept
  exact kept.playlistSound keeps

/-- A segment that cannot be written, and one that can: the playlist names the
missing one. -/
theorem playlist_names_missing_segment :
    let works : Choice := {}
    let fails : Choice := { ok := false }
    let start := ((Storage.openToday {}).run (State.restart {})
      (List.replicate 40 works)).state
    let inputs : List MediaInput :=
      [⟨some ⟨some ⟨0, [1]⟩, 1, true, 0⟩, 0, 0, true⟩,
        ⟨some ⟨some ⟨1, [2]⟩, 1, true, 40000⟩, 40, 40, true⟩,
        ⟨some ⟨some ⟨2, [3]⟩, 1, true, 80000⟩, 80, 80, true⟩]
    let after := ((Storage.hlsMediaInputs {} inputs).run start
      ([works, fails] ++ List.replicate 7 works)).state
    start.FreshSegment ∧ ¬ after.PlaylistSound (MediaInput.frames inputs) := by
  refine ⟨⟨by decide +kernel, fun _ => rfl, by decide +kernel,
    ⟨0, by decide +kernel⟩, by decide +kernel⟩, fun sound => ?_⟩
  obtain ⟨frames, _, stored⟩ := (sound
    [⟨tsName 0, 0, 40, false⟩, ⟨tsName 1, 0, 80, false⟩]
    (by decide +kernel)).2.1 0 _ rfl
  refine Option.some_ne_none _ (stored.symm.trans ?_)
  decide +kernel

/-- Three keyframes, all of whose segments can be written. -/
theorem playlist_sound_of_keepsIndex_three_keyframes :
    let works : Choice := {}
    let start := ((Storage.openToday {}).run (State.restart {})
      (List.replicate 40 works)).state
    let inputs : List MediaInput :=
      [⟨some ⟨some ⟨0, [1]⟩, 1, true, 0⟩, 0, 0, true⟩,
        ⟨some ⟨some ⟨1, [2]⟩, 1, true, 40000⟩, 40, 40, true⟩,
        ⟨some ⟨some ⟨2, [3]⟩, 1, true, 80000⟩, 80, 80, true⟩]
    let after := ((Storage.hlsMediaInputs {} inputs).run start
      (List.replicate 20 works)).state
    after.PlaylistSound (MediaInput.frames inputs) :=
  playlist_sound_of_keepsIndex {} _ _
    ⟨by decide +kernel, fun _ => rfl, by decide +kernel,
      ⟨0, by decide +kernel⟩, by decide +kernel⟩
    _ _ rfl (by decide +kernel)

end MotionSense
