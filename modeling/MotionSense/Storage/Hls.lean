import MotionSense.Storage.Database

/-!
# Cutting the stream into segments

`hls_media_input` of the local `hls-media.c`, and the handler, the creation and
the destruction of the muxer in `storage.c`.  The muxer's parameter is the
writer's playlist, which lives as long as the muxer.
-/

namespace MotionSense

variable (config : Config)

/-- The name of the `.ts` file with an index. -/
def tsName (index : Nat) : CString :=
  zeroPadded 5 index ++ ".ts".toList

/-- `index.m3u8`. -/
def indexName : CString := "index.m3u8".toList

theorem tsName_injective : Function.Injective tsName := fun _ _ same =>
  zeroPadded_injective 5 (List.append_cancel_right same)

theorem tsName_ne_indexName (index : Nat) : tsName index ≠ indexName := by
  intro same
  have last := congrArg List.getLast? same
  rw [tsName, List.getLast?_append_of_ne_nil _ (by decide)] at last
  exact absurd last (by decide)

/-- The frame that a call of `hls_media_input` carries: none when its data is
`NULL` or empty. -/
def FqFrame.payload (frame : FqFrame) : Option FqFrame :=
  if frame.data.isNone || frame.len = 0 then none else some frame

/-- The arguments of a call of `hls_media_input`. -/
structure MediaInput where
  payload : Option FqFrame
  pts : Int
  dts : Int
  isKey : Bool

namespace HlsMedia

/-- `hls_media_create`. -/
def create (duration : Int) : HlsMedia := { duration }

/-- `force_new_segment`: the timestamps go back, or the stream ends. -/
def forces (hls : HlsMedia) (payload : Option FqFrame) (dts : Int) : Bool :=
  dts + hls.duration < hls.dtsLast || payload.isNone

/-- `segment`: the segment has its duration and may be cut here. -/
def cuts (hls : HlsMedia) (dts : Int) (isKey : Bool) : Bool :=
  if (dts - hls.dts ≥ hls.duration || hls.duration = 0) &&
      (isKey || hls.bytes ≥ hls.maxsize) then true
  else hls.audioOnlyFlag && dts - hls.dts ≥ hls.duration

/-- The duration handed to the handler. -/
def segmentDuration
    (hls : HlsMedia) (payload : Option FqFrame) (dts : Int) : Int :=
  (if hls.forces payload dts || dts > hls.dtsLast + 100 then hls.dtsLast
    else dts) - hls.dts

/-- A new segment begins. -/
def begin (hls : HlsMedia) (pts dts : Int) : HlsMedia :=
  { hls with pts, dts, bytes := 0, frames := [], audioOnlyFlag := true }

/-- `mpeg_ts_write`: the frame goes into the buffer, in some packets of 188
bytes. -/
def write (hls : HlsMedia) (payload : Option FqFrame) (packets : Nat) :
    HlsMedia :=
  match payload with
  | none => { hls with bytes := hls.bytes + 188 * packets }
  | some frame =>
      { hls with
        frames := hls.frames ++ [frame]
        bytes := hls.bytes + 188 * (packets + 1) }

@[simp] theorem frames_write
    (hls : HlsMedia) (payload : Option FqFrame) (packets : Nat) :
    (hls.write payload packets).frames = hls.frames ++ payload.toList := by
  cases payload with
  | none => exact (List.append_nil _).symm
  | some frame => rfl

end HlsMedia

namespace Storage

/-- `hls_cb`. -/
def hlsCb (frames : List FqFrame) (pts dts duration : Int) :
    Storage Int := do
  log (.cut frames)
  let state ← Program.current
  let discontinuity :=
    if state.lastDts < 0 then false
    else decide (dts > state.lastDts + config.hlsDuration.tdiv 2)
  Program.modify fun state => { state with lastDts := dts }
  let name := tsName state.ws.tsIdx
  setWs fun ws => { ws with tsIdx := ws.tsIdx + 1 }
  match state.ws.m3u with
  | none => Program.halt
  | some entries =>
      let entry : PlaylistEntry := { name, pts, duration, discontinuity }
      setWs fun ws => { ws with m3u := ws.m3u.map fun added => added ++ [entry] }
      let media ← writeFileAtomic state.ws.segmentDir name (.media frames)
      if media ≠ 0 then
        log (.cutDone (-1))
        return -1
      let index ← writeFileAtomic state.ws.segmentDir indexName
        (.playlist (entries ++ [entry]))
      if index ≠ 0 then
        log (.cutDone (-1))
        return -1
      setWs fun ws => { ws with tsSinceCleanup := ws.tsSinceCleanup + 1 }
      log (.cutDone 0)
      return 0

/-- The part of `hls_media_input` that starts a new segment, after handing the
finished one to the handler. -/
def hlsNewSegment
    (hls : HlsMedia) (payload : Option FqFrame) (pts dts : Int) :
    Storage Int := do
  let result ← (
    if 0 < hls.bytes then
      hlsCb config hls.frames hls.pts hls.dts (hls.segmentDuration payload dts)
    else pure 0)
  if result ≠ 0 then return result
  setWs fun ws => { ws with hls := ws.hls.map fun hls => hls.begin pts dts }
  return 0

/-- Record that a frame, if there is one, was added to the segment. -/
def noteAppended : Option FqFrame → Storage Unit
  | none => return ()
  | some frame => log (.appended frame)

theorem wp_noteAppended
    {payload : Option FqFrame}
    {post : Unit → State → Prop} {stopped : State → Prop} {state : State}
    (absent : payload = none → post () state)
    (noted : ∀ frame, payload = some frame →
      post () (state.log (.appended frame))) :
    (noteAppended payload).wp post stopped state := by
  cases payload with
  | none => exact absent rfl
  | some frame => exact noted frame rfl

/-- `hls_media_input` on the writer's muxer.  Its `assert` on the timestamps is
not part of it: all builds but `Debug` define `NDEBUG`. -/
def hlsMediaInput
    (payload : Option FqFrame) (pts dts : Int) (isKey : Bool) :
    Storage Int := do
  let state ← Program.current
  match state.ws.hls with
  | none => Program.halt
  | some hls =>
      let result ← (
        if hls.bytes = 0 || hls.cuts dts isKey || hls.forces payload dts then
          hlsNewSegment config hls payload pts dts
        else pure 0)
      if result ≠ 0 then return result
      let written ← Program.answer
      setWs fun ws =>
        { ws with
          hls := ws.hls.map fun hls =>
            { hls with audioOnlyFlag := false, dtsLast := dts }.write
              payload written.packets }
      noteAppended payload
      return 0

/-- `hls_create`. -/
def hlsCreate : Storage Int := do
  let m3u ← call .alloc fun _ => true
  setWs fun ws => { ws with m3u := if m3u.ok then some [] else none }
  let hls ← call .alloc fun _ => true
  setWs fun ws =>
    { ws with
      hls :=
        if hls.ok then some (HlsMedia.create (config.hlsDurationS * 1000))
        else none
      tsIdx := 0 }
  return if hls.ok && m3u.ok then 0 else -1

/-- The part of `hls_flush_and_destroy` that ends the muxer: its last call has
no data, and its result is not looked at. -/
def hlsFlush : Storage Unit := do
  let _ ← hlsMediaInput config none 0 0 false
  setWs fun ws => { ws with hls := none }

/-- `hls_flush_and_destroy`. -/
def hlsFlushAndDestroy : Storage Unit := do
  let state ← Program.current
  (if state.ws.hls.isSome then hlsFlush config else pure ())
  setWs fun ws => { ws with m3u := none }

end Storage
end MotionSense
