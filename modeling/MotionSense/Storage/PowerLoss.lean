import MotionSense.Storage.AtomicFile
import MotionSense.Storage.Hls

/-!
# What a power loss leaves of a segment folder

`hls_media_input` and `hls_cb` on the files of the card, down to the system calls
of the two `write_file_atomic` of each cut.  The transport stream packets of a
frame come from `mpeg_ts_write`, and the text of a playlist is a parameter.
-/

namespace MotionSense

namespace PowerLoss

open AtomicFile

/-- How a call turns out, and what `mpeg_ts_write` puts into the buffer. -/
structure MuxAnswer (β : Type) extends Answer where
  /-- The first packet of a frame. -/
  packet : List β := []
  packets : List (List β) := []

/-- One call of `hls_cb`: the frames of the segment, and its bytes. -/
structure Cut (β : Type) where
  frames : List FqFrame
  data : List β

/-- The muxer, its playlist and the files of the card, with a record of the cuts
that no function reads. -/
structure Muxing (β : Type) where
  files : FileSystem CString β
  hls : HlsMedia
  /-- The bytes in the muxer's buffer. -/
  ptr : List β := []
  m3u : List PlaylistEntry := []
  tsIdx : Nat := 0
  lastDts : Int := -1
  /-- The frames of the calls of `hls_media_input` that have returned. -/
  fed : List FqFrame := []
  /-- The calls of `hls_cb`. -/
  cuts : List (Cut β) := []
  /-- How many of them have returned. -/
  returned : Nat := 0
  /-- The frames fed before the frame that triggered the last of these. -/
  earlier : List FqFrame := []

variable {β : Type}

/-- Programs on the muxer. -/
abbrev Muxer (β : Type) := Program (MuxAnswer β) (Muxing β)

/-- The files are a part of the state. -/
def filesPart : Program.Part (Muxing β) (FileSystem CString β) where
  get := Muxing.files
  set := fun muxing files => { muxing with files }
  get_set := fun _ _ => rfl
  set_get := fun _ => rfl
  set_set := fun _ _ _ => rfl

/-- `write_file_atomic`. -/
def writeFile (path : CString) (data : List β) : Muxer β Int :=
  (writeFileAtomic path data).onPart filesPart MuxAnswer.toAnswer

/-- `ts_path` of `hls_cb`.  A `segment_dir` has at most 95 characters and the name
of an `int` at most 14, so that the path fits `MEDIA_PATH_SIZE`. -/
def tsFile (dir : CString) (index : Nat) : CString := dir ++ tsName index

/-- `m3u_path` of `hls_cb`. -/
def indexFile (dir : CString) : CString := dir ++ indexName

section Program

variable (config : Config) (playlist : List PlaylistEntry → List β)
  (dir : CString)

/-- The entry that `hls_cb` adds to the playlist. -/
def Muxing.entry
    (muxing : Muxing β) (pts dts duration : Int) : PlaylistEntry where
  name := tsName muxing.tsIdx
  pts := pts
  duration := duration
  discontinuity :=
    if muxing.lastDts < 0 then false
    else decide (dts > muxing.lastDts + config.hlsDuration.tdiv 2)

/-- What `hls_cb` does before it writes. -/
def Muxing.cut
    (muxing : Muxing β) (data : List β) (pts dts duration : Int) : Muxing β :=
  { muxing with
    cuts := muxing.cuts ++ [⟨muxing.hls.frames, data⟩]
    lastDts := dts
    tsIdx := muxing.tsIdx + 1
    m3u := muxing.m3u ++ [muxing.entry config pts dts duration] }

/-- `hls_cb`. -/
def hlsCb (data : List β) (pts dts duration : Int) : Muxer β Int := do
  let muxing ← Program.current
  Program.modify fun muxing => muxing.cut config data pts dts duration
  let added ← Program.current
  let media ← writeFile (tsFile dir muxing.tsIdx) data
  if media ≠ 0 then return -1
  let index ← writeFile (indexFile dir) (playlist added.m3u)
  if index ≠ 0 then return -1
  Program.modify fun muxing =>
    { muxing with returned := muxing.returned + 1, earlier := muxing.fed }
  return 0

/-- The part of `hls_media_input` that starts a new segment. -/
def hlsNewSegment (input : MediaInput) : Muxer β Int := do
  let muxing ← Program.current
  let result ← (
    if 0 < muxing.hls.bytes then
      hlsCb config playlist dir muxing.ptr muxing.hls.pts muxing.hls.dts
        (muxing.hls.segmentDuration input.payload input.dts)
    else return 0)
  if result ≠ 0 then return result
  Program.modify fun muxing =>
    { muxing with hls := muxing.hls.begin input.pts input.dts, ptr := [] }
  return 0

/-- The packets of a call; those of a frame are at least one. -/
def MuxAnswer.written (answer : MuxAnswer β) (payload : Option FqFrame) :
    List β :=
  match payload with
  | none => answer.packets.flatten
  | some _ => answer.packet ++ answer.packets.flatten

/-- `mpeg_ts_write` adds the packets to the buffer. -/
def Muxing.write
    (muxing : Muxing β) (input : MediaInput) (answer : MuxAnswer β) : Muxing β :=
  { muxing with
    hls :=
      { muxing.hls with audioOnlyFlag := false, dtsLast := input.dts }.write
        input.payload answer.packets.length
    ptr := muxing.ptr ++ answer.written input.payload
    fed := muxing.fed ++ input.payload.toList }

/-- `hls_media_input`, without the `assert` that only a `Debug` build keeps. -/
def hlsMediaInput (input : MediaInput) : Muxer β Int := do
  let muxing ← Program.current
  let result ← (
    if muxing.hls.bytes = 0 || muxing.hls.cuts input.dts input.isKey ||
        muxing.hls.forces input.payload input.dts then
      hlsNewSegment config playlist dir input
    else return 0)
  if result ≠ 0 then return result
  let answer ← Program.answer
  Program.modify fun muxing => muxing.write input answer
  return 0

/-- A sequence of calls, up to the first that fails. -/
def feed : List MediaInput → Muxer β Unit
  | [] => return ()
  | input :: inputs => do
      let result ← hlsMediaInput config playlist dir input
      if result ≠ 0 then return ()
      feed inputs

end Program

/-- The muxer and the files after `hls_create`.  `last_dts` keeps the value that
an earlier folder has left in it. -/
def opened
    (config : Config) (lastDts : Int) (files : FileSystem CString β) :
    Muxing β where
  files := files
  hls := HlsMedia.create (config.hlsDurationS * 1000)
  lastDts := lastDts

/-! ## What is left after a crash -/

section Statement

variable (playlist : List PlaylistEntry → List β) (dir : CString)

/-- The first segments are durable, and every frame fed before the frame of the last
cut that has returned is in one of them. -/
structure Recovers (muxing : Muxing β) (listed : Nat) : Prop where
  cut : listed ≤ muxing.cuts.length
  media : ∀ index cut, index < listed → muxing.cuts[index]? = some cut →
    muxing.files.Durable (tsFile dir index) cut.data
  frames : ∀ frame ∈ muxing.earlier, ∃ index cut, index < listed ∧
    muxing.cuts[index]? = some cut ∧ frame ∈ cut.frames

/-- A crash leaves an `index.m3u8` that lists `00000.ts`, `00001.ts` and so on, all
of which are there, or none before the first cut has returned. -/
def Recoverable (muxing : Muxing β) : Prop :=
  ∀ found, muxing.files.Survives (indexFile dir) found →
    (found = none ∧ muxing.returned = 0) ∨
      ∃ entries, found = some (playlist entries) ∧
        entries.map PlaylistEntry.name = (List.range entries.length).map tsName ∧
        Recovers dir muxing entries.length

end Statement

/-! ## Between two system calls -/

section Invariant

variable {playlist : List PlaylistEntry → List β} {dir : CString}
  {files after : FileSystem CString β} {muxing : Muxing β}

/-- The playlist of the first segments; before the first there is no file. -/
def listing
    (playlist : List PlaylistEntry → List β) (m3u : List PlaylistEntry) :
    Nat → Option (List β)
  | 0 => none
  | count + 1 => some (playlist (m3u.take (count + 1)))

/-- The first segments are durable. -/
def Media
    (dir : CString) (files : FileSystem CString β) (cuts : List (Cut β))
    (count : Nat) : Prop :=
  ∀ index cut, index < count → cuts[index]? = some cut →
    files.Durable (tsFile dir index) cut.data

/-- A frame is in one of the first segments. -/
def InCuts (cuts : List (Cut β)) (count : Nat) (frame : FqFrame) : Prop :=
  ∃ index cut, index < count ∧ cuts[index]? = some cut ∧ frame ∈ cut.frames

/-- The playlist in memory has an entry for each cut, and the cuts that have
returned have all the frames that they should. -/
structure Named (muxing : Muxing β) : Prop where
  names : muxing.m3u.map PlaylistEntry.name =
    (List.range muxing.cuts.length).map tsName
  returned : muxing.returned ≤ muxing.cuts.length
  earlier : ∀ frame ∈ muxing.earlier,
    InCuts muxing.cuts muxing.returned frame

/-- What is on the card when no cut is under way. -/
structure Ready
    (playlist : List PlaylistEntry → List β) (dir : CString)
    (muxing : Muxing β) : Prop where
  named : Named muxing
  all : muxing.returned = muxing.cuts.length
  tsIdx : muxing.tsIdx = muxing.cuts.length
  index : ∀ found, muxing.files.Survives (indexFile dir) found →
    found = listing playlist muxing.m3u muxing.returned
  media : Media dir muxing.files muxing.cuts muxing.returned
  fed : ∀ frame ∈ muxing.fed, frame ∈ muxing.hls.frames ∨
    InCuts muxing.cuts muxing.returned frame
  empty : muxing.hls.bytes = 0 → muxing.hls.frames = []

theorem Named.length (named : Named muxing) :
    muxing.m3u.length = muxing.cuts.length := by
  have lengths := congrArg List.length named.names
  rw [List.length_map, List.length_map, List.length_range] at lengths
  exact lengths

theorem InCuts.mono
    {cuts : List (Cut β)} {few many : Nat} {frame : FqFrame}
    (inside : InCuts cuts few frame) (le : few ≤ many) :
    InCuts cuts many frame := by
  obtain ⟨index, cut, lt, found, member⟩ := inside
  exact ⟨index, cut, lt.trans_le le, found, member⟩

theorem InCuts.append
    {cuts : List (Cut β)} {count : Nat} {frame : FqFrame}
    (inside : InCuts cuts count frame) (cut : Cut β) :
    InCuts (cuts ++ [cut]) count frame := by
  obtain ⟨index, found, lt, there, member⟩ := inside
  refine ⟨index, found, lt, ?_, member⟩
  rw [List.getElem?_append_left (List.getElem?_eq_some_iff.mp there).1, there]

/-- It is enough that each index that may survive lists durable segments, at least
those of the cuts that have returned. -/
theorem Named.recoverable
    (named : Named muxing)
    (each : ∀ found, muxing.files.Survives (indexFile dir) found →
      ∃ count, muxing.returned ≤ count ∧ count ≤ muxing.cuts.length ∧
        found = listing playlist muxing.m3u count ∧
        Media dir muxing.files muxing.cuts count) :
    Recoverable playlist dir muxing := by
  intro found survives
  obtain ⟨count, least, most, rfl, media⟩ := each found survives
  cases count with
  | zero => exact Or.inl ⟨rfl, Nat.le_zero.mp least⟩
  | succ count =>
      have length : (muxing.m3u.take (count + 1)).length = count + 1 := by
        rw [List.length_take, named.length]
        exact min_eq_left most
      refine Or.inr ⟨muxing.m3u.take (count + 1), rfl, ?_, ?_⟩
      · rw [length, List.map_take, named.names, ← List.map_take,
          List.take_range, min_eq_left most]
      · rw [length]
        exact ⟨most, media, fun frame member =>
          (named.earlier frame member).mono least⟩

theorem Ready.recoverable (ready : Ready playlist dir muxing) :
    Recoverable playlist dir muxing :=
  ready.named.recoverable fun found survives =>
    ⟨muxing.returned, le_rfl, ready.named.returned, ready.index found survives,
      ready.media⟩

/-! ## Writing one file -/

theorem tsFile_injective (dir : CString) :
    Function.Injective (tsFile dir) := fun _ _ same =>
  tsName_injective (List.append_cancel_left same)

theorem tsFile_ne_indexFile (index : Nat) :
    tsFile dir index ≠ indexFile dir := fun same =>
  tsName_ne_indexName index (List.append_cancel_left same)

/-- A temporary file of a segment has a longer name than `index.m3u8`. -/
theorem indexFile_ne_tmpName (index : Nat) (suffix : CString) :
    indexFile dir ≠ tmpName (tsFile dir index) suffix := by
  intro same
  have lengths := congrArg List.length same
  simp only [indexFile, tmpName, tsFile, tsName, zeroPadded, List.length_append,
    List.length_leftpad] at lengths
  have index : indexName.length = 10 := by decide
  have ending : ".ts".toList.length = 3 := by decide
  have middle : ".tmp.".toList.length = 5 := by decide
  omega

theorem isSome_entry
    {name : CString} {bytes : List β} (durable : files.Durable name bytes) :
    (files.entry name).isSome = true := by
  have found := durable.1
  rw [FileSystem.read] at found
  cases denotes : files.entry name with
  | none =>
      rw [denotes] at found
      cases found
  | some file => rfl

/-- A durable file stays durable while another is replaced. -/
theorem durable_of_allOrNothing
    {path name : CString} {data bytes : List β}
    (written : AllOrNothing files path data after) (different : name ≠ path)
    (durable : files.Durable name bytes) : after.Durable name bytes := by
  have keeps := written.others name
    ⟨different, Or.inl (isSome_entry durable)⟩
  refine ⟨(written.grows.read keeps).trans durable.1, fun found survives => ?_⟩
  exact durable.2 found (written.grows.survives keeps.past survives)

theorem media_of_allOrNothing
    {path : CString} {data : List β} {cuts : List (Cut β)} {count : Nat}
    (media : Media dir files cuts count)
    (written : AllOrNothing files path data after)
    (different : ∀ index < count, tsFile dir index ≠ path) :
    Media dir after cuts count := fun index cut lt found =>
  durable_of_allOrNothing written (different index lt)
    (media index cut lt found)

theorem wp_writeFile
    {path : CString} {data : List β}
    {post : Int → Muxing β → Prop} {stopped : Muxing β → Prop}
    (stops : ∀ after, AllOrNothing muxing.files path data after →
      stopped { muxing with files := after })
    (ends : ∀ rc after, Ends muxing.files path data rc after →
      post rc { muxing with files := after }) :
    (writeFile path data).wp post stopped muxing :=
  Program.wp_onPart (Program.wp_mono (wp_writeFileAtomic path data muxing.files)
    (fun rc after => ends rc after) fun after => stops after)

end Invariant

/-! ## The calls of the muxer -/

section Calls

open Program

variable {playlist : List PlaylistEntry → List β} {dir : CString}
  {muxing : Muxing β}

/-- What is on the card while a cut is under way: the segments that are durable
already, and the index of those that have returned. -/
structure Cutting
    (playlist : List PlaylistEntry → List β) (dir : CString)
    (muxing : Muxing β) (done : Nat) : Prop where
  named : Named muxing
  open_ : muxing.cuts.length = muxing.returned + 1
  tsIdx : muxing.tsIdx = muxing.cuts.length
  index : ∀ found, muxing.files.Survives (indexFile dir) found →
    found = listing playlist muxing.m3u muxing.returned
  media : Media dir muxing.files muxing.cuts done
  fed : ∀ frame ∈ muxing.fed, InCuts muxing.cuts (muxing.returned + 1) frame
  empty : muxing.hls.bytes = 0 → muxing.hls.frames = []

theorem listing_append
    {m3u : List PlaylistEntry} {count : Nat} (le : count ≤ m3u.length)
    (entry : PlaylistEntry) :
    listing playlist (m3u ++ [entry]) count = listing playlist m3u count := by
  cases count with
  | zero => rfl
  | succ count => rw [listing, listing, List.take_append_of_le_length le]

theorem Media.append
    {files : FileSystem CString β} {cuts : List (Cut β)}
    (media : Media dir files cuts cuts.length) (cut : Cut β) :
    Media dir files (cuts ++ [cut]) cuts.length := by
  intro index found lt there
  rw [List.getElem?_append_left lt] at there
  exact media index found lt there

theorem Ready.cut
    (ready : Ready playlist dir muxing)
    (config : Config) (data : List β) (pts dts duration : Int) :
    Cutting playlist dir (muxing.cut config data pts dts duration)
      muxing.returned where
  named := by
    refine ⟨?_, ?_, fun frame member =>
      (ready.named.earlier frame member).append _⟩
    · change (muxing.m3u ++ [_]).map _ = (List.range (muxing.cuts ++ [_]).length).map _
      rw [List.map_append, ready.named.names, List.length_append,
        List.length_singleton, List.range_succ, List.map_append]
      change _ ++ [tsName muxing.tsIdx] = _
      rw [ready.tsIdx]
      rfl
    · change _ ≤ (muxing.cuts ++ [_]).length
      rw [List.length_append]
      exact ready.named.returned.trans (Nat.le_add_right _ _)
  open_ := by
    change (muxing.cuts ++ [_]).length = muxing.returned + 1
    rw [List.length_append, ready.all]
    rfl
  tsIdx := by
    change muxing.tsIdx + 1 = (muxing.cuts ++ [_]).length
    rw [List.length_append, ready.tsIdx]
    rfl
  index := fun found survives => (ready.index found survives).trans
    (listing_append (by rw [ready.named.length, ready.all]) _).symm
  media := by
    have media := ready.media
    rw [ready.all] at media ⊢
    exact media.append _
  fed := by
    intro frame member
    rcases ready.fed frame member with buffered | earlier
    · refine ⟨muxing.cuts.length, _, ?_, List.getElem?_concat_length, buffered⟩
      change _ < muxing.returned + 1
      rw [ready.all]
      exact Nat.lt_succ_self _
    · exact (earlier.append _).mono (Nat.le_succ _)
  empty := ready.empty

theorem Cutting.recoverable
    (cutting : Cutting playlist dir muxing muxing.returned) :
    Recoverable playlist dir muxing :=
  cutting.named.recoverable fun found survives =>
    ⟨muxing.returned, le_rfl, cutting.named.returned,
      cutting.index found survives, cutting.media⟩

section Files

variable {after : FileSystem CString β} {data : List β}

/-- Nothing is lost while the segment is written. -/
theorem Cutting.write
    (cutting : Cutting playlist dir muxing muxing.returned)
    (written : AllOrNothing muxing.files (tsFile dir muxing.returned) data
      after) :
    Cutting playlist dir { muxing with files := after } muxing.returned where
  named := ⟨cutting.named.names, cutting.named.returned, cutting.named.earlier⟩
  open_ := cutting.open_
  tsIdx := cutting.tsIdx
  index := fun found survives => cutting.index found
    (written.grows.survives (written.others (indexFile dir)
      ⟨(tsFile_ne_indexFile _).symm, Or.inr fun suffix _ =>
        indexFile_ne_tmpName _ suffix⟩).past survives)
  media := media_of_allOrNothing cutting.media written fun _ lt same =>
    lt.ne (tsFile_injective dir same)
  fed := cutting.fed
  empty := cutting.empty

/-- The segment is written. -/
theorem Cutting.wrote
    (cutting : Cutting playlist dir muxing muxing.returned)
    {frames : List FqFrame}
    (last : muxing.cuts[muxing.returned]? = some ⟨frames, data⟩)
    (durable : muxing.files.Durable (tsFile dir muxing.returned) data) :
    Cutting playlist dir muxing (muxing.returned + 1) where
  named := cutting.named
  open_ := cutting.open_
  tsIdx := cutting.tsIdx
  index := cutting.index
  media := by
    intro index cut lt found
    rcases Nat.lt_succ_iff_lt_or_eq.mp lt with earlier | rfl
    · exact cutting.media index cut earlier found
    · rw [last] at found
      rw [← Option.some.inj found]
      exact durable
  fed := cutting.fed
  empty := cutting.empty

/-- The whole playlist is that of all cuts. -/
theorem Cutting.listing_all
    (cutting : Cutting playlist dir muxing (muxing.returned + 1)) :
    some (playlist muxing.m3u) =
      listing playlist muxing.m3u (muxing.returned + 1) := by
  rw [listing, List.take_of_length_le]
  rw [cutting.named.length, cutting.open_]

theorem Cutting.mediaKept
    (cutting : Cutting playlist dir muxing (muxing.returned + 1))
    (written : AllOrNothing muxing.files (indexFile dir) data after) :
    Media dir after muxing.cuts (muxing.returned + 1) :=
  media_of_allOrNothing cutting.media written fun index _ =>
    tsFile_ne_indexFile index

/-- While the index is written, the old or the new one survives. -/
theorem Cutting.recoverable_index
    (cutting : Cutting playlist dir muxing (muxing.returned + 1))
    (written : AllOrNothing muxing.files (indexFile dir)
      (playlist muxing.m3u) after) :
    Recoverable playlist dir { muxing with files := after } := by
  have media := cutting.mediaKept written
  have named : Named { muxing with files := after } :=
    ⟨cutting.named.names, cutting.named.returned, cutting.named.earlier⟩
  refine named.recoverable fun found survives => ?_
  rcases written.crash found survives with old | rfl
  · exact ⟨muxing.returned, le_rfl, cutting.named.returned,
      cutting.index found old, fun index cut lt => media index cut
        (lt.trans (Nat.lt_succ_self _))⟩
  · exact ⟨muxing.returned + 1, Nat.le_succ _, cutting.open_.ge,
      cutting.listing_all, media⟩

/-- The index is written, and the cut returns. -/
theorem Cutting.ready
    (cutting : Cutting playlist dir muxing (muxing.returned + 1))
    (ends : Ends muxing.files (indexFile dir) (playlist muxing.m3u) 0 after) :
    Ready playlist dir
      { muxing with
        files := after
        returned := muxing.returned + 1
        earlier := muxing.fed } where
  named := ⟨cutting.named.names, cutting.open_.ge, cutting.fed⟩
  all := cutting.open_.symm
  tsIdx := cutting.tsIdx
  index := fun found survives => ((ends.success rfl).2 found survives).trans
    cutting.listing_all
  media := cutting.mediaKept ends.allOrNothing
  fed := fun frame member => Or.inr (cutting.fed frame member)
  empty := cutting.empty

end Files

/-- A cut makes the segment and then the playlist durable. -/
theorem wp_hlsCb
    (config : Config) (data : List β) (pts dts duration : Int)
    (ready : Ready playlist dir muxing) :
    (hlsCb config playlist dir data pts dts duration).wp
      (fun result after =>
        if result = 0 then
          Ready playlist dir after ∧ after.earlier = after.fed
        else Recoverable playlist dir after)
      (Recoverable playlist dir) muxing := by
  have cutting := ready.cut config data pts dts duration
  have last : (muxing.cut config data pts dts duration).cuts[muxing.returned]? =
      some ⟨muxing.hls.frames, data⟩ := by
    rw [ready.all]
    exact List.getElem?_concat_length
  unfold hlsCb
  rw [wp_bind, wp_current, wp_bind, wp_modify, wp_bind, wp_current, wp_bind,
    ready.tsIdx, ← ready.all]
  refine wp_writeFile (fun after written => (cutting.write written).recoverable)
    fun media after ends => ?_
  have cutting := cutting.write ends.allOrNothing
  refine wp_split (fun _ => cutting.recoverable) fun success => ?_
  have cutting := cutting.wrote last (ends.success (not_not.mp success))
  rw [wp_bind]
  refine wp_writeFile (fun after => cutting.recoverable_index)
    fun index after ends => ?_
  refine wp_split (fun _ => cutting.recoverable_index ends.allOrNothing)
    fun success => ?_
  rw [not_not.mp success] at ends
  exact ⟨cutting.ready ends, rfl⟩

/-- A new segment begins with an empty buffer. -/
theorem Ready.begin
    (ready : Ready playlist dir muxing) (pts dts : Int)
    (fed : ∀ frame ∈ muxing.fed,
      InCuts muxing.cuts muxing.returned frame) :
    Ready playlist dir
      { muxing with hls := muxing.hls.begin pts dts, ptr := [] } where
  named := ⟨ready.named.names, ready.named.returned, ready.named.earlier⟩
  all := ready.all
  tsIdx := ready.tsIdx
  index := ready.index
  media := ready.media
  fed := fun frame member => Or.inr (fed frame member)
  empty := fun _ => rfl

theorem wp_hlsNewSegment
    (config : Config) (input : MediaInput) (ready : Ready playlist dir muxing) :
    (hlsNewSegment config playlist dir input).wp
      (fun result after =>
        if result = 0 then Ready playlist dir after
        else Recoverable playlist dir after)
      (Recoverable playlist dir) muxing := by
  unfold hlsNewSegment
  rw [wp_bind, wp_current]
  refine wp_via (fun result after =>
    if result = 0 then Ready playlist dir after ∧
      ∀ frame ∈ after.fed, InCuts after.cuts after.returned frame
    else Recoverable playlist dir after) ?_ ?_
  · refine wp_split (fun _ => ?_) fun unused => ?_
    · refine wp_mono (wp_hlsCb config _ _ _ _ ready) ?_ fun _ stops => stops
      intro result after outcome
      split_ifs at outcome ⊢
      · obtain ⟨ready, fed⟩ := outcome
        exact ⟨ready, fed ▸ ready.named.earlier⟩
      · exact outcome
    · refine ⟨ready, fun frame member => ?_⟩
      rcases ready.fed frame member with buffered | inside
      · rw [ready.empty (Nat.eq_zero_of_not_pos unused)] at buffered
        exact absurd buffered List.not_mem_nil
      · exact inside
  · intro result after outcome
    refine wp_split (fun failed => ?_) fun success => ?_
    · rw [if_neg failed] at outcome
      change if result = 0 then _ else _
      rw [if_neg failed]
      exact outcome
    · rw [if_pos (not_not.mp success)] at outcome
      exact outcome.1.begin input.pts input.dts outcome.2

/-- A frame that is written is in the buffer. -/
theorem Ready.write
    (ready : Ready playlist dir muxing) (input : MediaInput)
    (answer : MuxAnswer β) :
    Ready playlist dir (muxing.write input answer) where
  named := ⟨ready.named.names, ready.named.returned, ready.named.earlier⟩
  all := ready.all
  tsIdx := ready.tsIdx
  index := ready.index
  media := ready.media
  fed := by
    intro frame member
    change frame ∈ (HlsMedia.write _ _ _).frames ∨ _
    rw [HlsMedia.frames_write]
    rcases List.mem_append.mp member with before | new
    · exact (ready.fed frame before).imp_left (List.mem_append_left _)
    · exact Or.inl (List.mem_append_right _ new)
  empty := by
    intro none
    change (HlsMedia.write _ input.payload _).bytes = 0 at none
    change (HlsMedia.write _ input.payload _).frames = []
    cases carried : input.payload with
    | none =>
        rw [carried] at none
        exact ready.empty (Nat.eq_zero_of_add_eq_zero_right none)
    | some frame =>
        rw [carried] at none
        change _ + 188 * (_ + 1) = 0 at none
        omega

theorem wp_hlsMediaInput
    (config : Config) (input : MediaInput) (ready : Ready playlist dir muxing) :
    (hlsMediaInput config playlist dir input).wp
      (fun result after =>
        if result = 0 then Ready playlist dir after
        else Recoverable playlist dir after)
      (Recoverable playlist dir) muxing := by
  unfold hlsMediaInput
  rw [wp_bind, wp_current]
  refine wp_via (fun result after =>
    if result = 0 then Ready playlist dir after
    else Recoverable playlist dir after) ?_ ?_
  · exact wp_split (fun _ => wp_hlsNewSegment config input ready) fun _ => ready
  · intro result after outcome
    refine wp_split (fun failed => ?_) fun success => ?_
    · change if result = 0 then _ else _
      exact outcome
    · rw [if_pos (not_not.mp success)] at outcome
      rw [wp_bind, wp_answer]
      exact ⟨outcome.recoverable, fun answer => outcome.write input answer⟩

theorem wp_feed
    (config : Config) (inputs : List MediaInput)
    (ready : Ready playlist dir muxing) :
    (feed config playlist dir inputs).wp (fun _ => Recoverable playlist dir)
      (Recoverable playlist dir) muxing := by
  induction inputs generalizing muxing with
  | nil => exact ready.recoverable
  | cons input inputs inductionHypothesis =>
      unfold feed
      refine wp_then (wp_hlsMediaInput config input ready) ?_
      intro result after outcome
      refine wp_split (fun failed => ?_) fun success => ?_
      · rw [if_neg failed] at outcome
        exact outcome
      · rw [if_pos (not_not.mp success)] at outcome
        exact inductionHypothesis outcome

end Calls

/-! ## Every run -/

/-- The segment folder has just been made. -/
theorem opened_ready
    {playlist : List PlaylistEntry → List β} {dir : CString}
    (config : Config) (lastDts : Int) {files : FileSystem CString β}
    (fresh : ∀ found, files.Survives (indexFile dir) found → found = none) :
    Ready playlist dir (opened config lastDts files) where
  named := ⟨rfl, le_rfl, fun _ member => absurd member List.not_mem_nil⟩
  all := rfl
  tsIdx := rfl
  index := fresh
  media := fun _ _ lt => absurd lt (Nat.not_lt_zero _)
  fed := fun _ member => absurd member List.not_mem_nil
  empty := fun _ => rfl

end PowerLoss
end MotionSense
