import MotionSense.Foundations.Simulation
import MotionSense.Storage.Paths
import MotionSense.Storage.Playlist
import MotionSense.Storage.PowerLoss

/-!
# The muxer's files in the writer

The writer's model lets `write_file_atomic` replace a file in one step, and its
files hold frames.  The muxer that is modelled down to system calls does nothing
that the writer's muxer cannot do as well: its calls return the same, and what a
power loss leaves of the segment folder is what the writer may be stopped with.
-/

namespace MotionSense

namespace PowerLoss

open AtomicFile Program

variable {β : Type}

/-- The names of the files that `hls_cb` writes. -/
def Listed (name : CString) : Prop :=
  name = indexName ∨ ∃ index, name = tsName index

/-- The bytes of a segment are those handed to `hls_cb` with its frames, and the
bytes of a playlist are its text. -/
def Holds
    (playlist : List PlaylistEntry → List β) (cuts : List (Cut β))
    (bytes : List β) : FileData → Prop
  | .media frames => ⟨frames, bytes⟩ ∈ cuts
  | .playlist entries => bytes = playlist entries

/-- What a power loss leaves of a segment folder. -/
structure Left (β : Type) where
  found : CString → Option (List β)
  cuts : List (Cut β)

/-- A power loss leaves any content that survives, and the writer's folder agrees
when it has the same files. -/
def powerLoss
    (playlist : List PlaylistEntry → List β) (dir : CString) :
    Crash (Muxing β) State where
  Left := Left β
  leaves := fun muxing left => left.cuts = muxing.cuts ∧
    ∀ name, Listed name →
      muxing.files.Survives (dir ++ name) (left.found name)
  agrees := fun left state => ∀ name, Listed name →
    Option.Rel (Holds playlist left.cuts) (left.found name) (state.file name)

/-- The writer has the muxer, the playlist and the files. -/
structure Mirrors
    (playlist : List PlaylistEntry → List β) (dir : CString)
    (muxing : Muxing β) (state : State) : Prop where
  folder : state.disk.exists? (.segment state.ws.segmentDir) = true
  files : ∀ name, Listed name → Option.Rel (Holds playlist muxing.cuts)
    (muxing.files.read (dir ++ name)) (state.file name)
  hls : state.ws.hls = some muxing.hls
  m3u : state.ws.m3u = some muxing.m3u
  tsIdx : state.ws.tsIdx = muxing.tsIdx
  lastDts : state.lastDts = muxing.lastDts

/-- A power loss would leave every file as it is. -/
def Settled (dir : CString) (files : FileSystem CString β) : Prop :=
  ∀ name, Listed name → ∀ found, files.Survives (dir ++ name) found →
    found = files.read (dir ++ name)

/-! ## Names -/

theorem count_zeroPadded (width value : Nat) :
    (zeroPadded width value).count '.' = 0 := by
  refine List.count_eq_zero.mpr fun dot => ?_
  exact absurd (isDigit_of_mem_zeroPadded dot) (by decide)

/-- The name of a file has one dot. -/
theorem Listed.count {name : CString} (listed : Listed name) :
    name.count '.' = 1 := by
  rcases listed with rfl | ⟨index, rfl⟩
  · decide
  · rw [tsName, List.count_append, count_zeroPadded]
    decide

/-- The name of a temporary file has more. -/
theorem Listed.ne_tmpName
    {name other : CString} (listed : Listed name) (target : Listed other)
    (dir suffix : CString) :
    dir ++ name ≠ tmpName (dir ++ other) suffix := by
  intro same
  rw [tmpName, List.append_assoc, List.append_assoc] at same
  have dots := congrArg (List.count '.') (List.append_cancel_left same)
  rw [listed.count, List.count_append, target.count, List.count_append] at dots
  have middle : ".tmp.".toList.count '.' = 2 := by decide
  omega

/-! ## The endings of `write_file_atomic` -/

section Endings

variable {state : State} {dir : SegmentDir}

/-- A call may fail, and succeed where that is possible. -/
theorem canReturn_call
    {kind : Call} {possible : State → Bool} (state : State) (ok : Bool)
    (allowed : ok = true → possible state = true) :
    (Storage.call kind possible).CanReturn state { ok }
      (state.log (.called kind ok)) := by
  have same : (ok && possible state) = ok := by
    cases ok with
    | false => rfl
    | true => exact allowed rfl
  refine ⟨{ ok }, ?_, ?_⟩
  · change ({ ok := ok && possible state } : Choice) = _
    rw [same]
  · change state.log (.called kind (ok && possible state)) = _
    rw [same]

/-- `write_file_atomic` may fail without an effect. -/
theorem canReturn_failed (name : CString) (data : FileData) :
    (Storage.writeFileAtomic dir name data).CanReturn state (-1)
      (state.log (.called .writeFile false)) :=
  (canReturn_call state false fun ok => by cases ok).bind ⟨rfl, rfl⟩

/-- The state in which the file has been replaced. -/
def replaced
    (state : State) (dir : SegmentDir) (name : CString) (data : FileData) :
    State :=
  (((state.log (.called .writeFile true)).log
    (.called .rename true)).updateDisk
      fun disk => disk.putFile dir name data).log (.renamed name data)

variable (there : state.disk.exists? (.segment dir) = true)

include there

/-- In a folder that exists it may replace the file, and then fail or not. -/
theorem canReturn_replaced (name : CString) (data : FileData) (ok : Bool) :
    (Storage.writeFileAtomic dir name data).CanReturn state
      (if ok then 0 else -1)
      ((replaced state dir name data).log (.called .fsyncDir ok)) := by
  refine (canReturn_call _ true fun _ => there).bind ?_
  refine (canReturn_call _ true fun _ => there).bind ?_
  refine (canReturn_call (replaced state dir name data) ok
    fun _ => rfl).bind ?_
  cases ok with
  | false => exact ⟨rfl, rfl⟩
  | true => exact ⟨rfl, rfl⟩

theorem canStop_replaced (name : CString) (data : FileData) :
    (Storage.writeFileAtomic dir name data).CanStop state
      (replaced state dir name data) := by
  refine (canReturn_call _ true fun _ => there).bindStop ?_
  refine (canReturn_call _ true fun _ => there).bindStop ?_
  exact Or.inl rfl

end Endings

/-! ## Writing one file -/

section Files

variable {playlist : List PlaylistEntry → List β} {dir : CString}
  {muxing : Muxing β} {state : State} {target : CString}
  {files after : FileSystem CString β} {bytes : List β} {data : FileData}

/-- The other files of the folder are left alone. -/
theorem keeps_listed
    (listed : Listed target)
    (written : AllOrNothing files (dir ++ target) bytes after)
    {name : CString} (other : Listed name) (different : name ≠ target) :
    files.Keeps after (dir ++ name) :=
  written.others _ ⟨fun same => different (List.append_cancel_left same),
    Or.inr fun suffix _ => other.ne_tmpName listed dir suffix⟩

theorem Mirrors.log
    (mirrors : Mirrors playlist dir muxing state) (event : Event) :
    Mirrors playlist dir muxing (state.log event) :=
  ⟨mirrors.folder, mirrors.files, mirrors.hls, mirrors.m3u, mirrors.tsIdx,
    mirrors.lastDts⟩

/-- Nothing has happened to the files. -/
theorem Mirrors.keep
    (mirrors : Mirrors playlist dir muxing state)
    (same : ∀ name, Listed name →
      after.read (dir ++ name) = muxing.files.read (dir ++ name)) :
    Mirrors playlist dir { muxing with files := after } state where
  folder := mirrors.folder
  files := by
    intro name listed
    change Option.Rel _ (after.read (dir ++ name)) _
    rw [same name listed]
    exact mirrors.files name listed
  hls := mirrors.hls
  m3u := mirrors.m3u
  tsIdx := mirrors.tsIdx
  lastDts := mirrors.lastDts

theorem file_replaced
    (there : state.disk.exists? (.segment state.ws.segmentDir) = true)
    (name : CString) (data : FileData) :
    (replaced state state.ws.segmentDir name data).file =
      Function.update state.file name (some data) :=
  State.file_putFile there name data

/-- One file has been replaced. -/
theorem Mirrors.replace
    (mirrors : Mirrors playlist dir muxing state)
    (holds : Holds playlist muxing.cuts bytes data)
    (found : after.read (dir ++ target) = some bytes)
    (same : ∀ name, Listed name → name ≠ target →
      after.read (dir ++ name) = muxing.files.read (dir ++ name)) :
    Mirrors playlist dir { muxing with files := after }
      (replaced state state.ws.segmentDir target data) where
  folder := by
    obtain ⟨folder, found⟩ := Option.isSome_iff_exists.mp mirrors.folder
    change (Disk.folder _ _ _).isSome = true
    exact Option.isSome_iff_exists.mpr
      ⟨_, Disk.folder_putFile_self target data found⟩
  files := by
    intro name listed
    change Option.Rel _ (after.read (dir ++ name)) _
    rw [file_replaced mirrors.folder]
    by_cases different : name = target
    · rw [different, found, Function.update_self]
      exact .some holds
    · rw [same name listed different, Function.update_of_ne different]
      exact mirrors.files name listed
  hls := mirrors.hls
  m3u := mirrors.m3u
  tsIdx := mirrors.tsIdx
  lastDts := mirrors.lastDts

/-- What a power loss leaves of settled files. -/
theorem Mirrors.agrees
    (mirrors : Mirrors playlist dir muxing state)
    (settled : Settled dir muxing.files)
    (left : (powerLoss playlist dir).Left)
    (leaves : (powerLoss playlist dir).leaves muxing left) :
    (powerLoss playlist dir).agrees left state := by
  obtain ⟨cuts, survives⟩ := leaves
  intro name listed
  rw [cuts, settled name listed _ (survives name listed)]
  exact mirrors.files name listed

/-- While a file is written, its old content survives or the new one. -/
theorem Mirrors.agrees_writing
    (mirrors : Mirrors playlist dir muxing state)
    (settled : Settled dir muxing.files) (listed : Listed target)
    (holds : Holds playlist muxing.cuts bytes data)
    (written : AllOrNothing muxing.files (dir ++ target) bytes after)
    (left : (powerLoss playlist dir).Left)
    (leaves : (powerLoss playlist dir).leaves
      { muxing with files := after } left) :
    (powerLoss playlist dir).agrees left state ∨
      (powerLoss playlist dir).agrees left
        (replaced state state.ws.segmentDir target data) := by
  obtain ⟨cuts, survives⟩ := leaves
  have others : ∀ name, Listed name → name ≠ target →
      left.found name = muxing.files.read (dir ++ name) := by
    intro name other different
    have keeps := keeps_listed listed written other different
    exact settled name other _
      (written.grows.survives keeps.past (survives name other))
  rcases written.crash _ (survives target listed) with old | new
  · refine Or.inl fun name other => ?_
    have same : left.found name = muxing.files.read (dir ++ name) := by
      by_cases different : name = target
      · rw [different]
        exact settled target listed _ old
      · exact others name other different
    rw [cuts, same]
    exact mirrors.files name other
  · refine Or.inr fun name other => ?_
    rw [cuts, file_replaced mirrors.folder]
    by_cases different : name = target
    · rw [different, new, Function.update_self]
      exact .some holds
    · rw [others name other different, Function.update_of_ne different]
      exact mirrors.files name other

/-- A file that has been written is settled, and the others stay so. -/
theorem Settled.write
    (settled : Settled dir files) (listed : Listed target)
    (written : AllOrNothing files (dir ++ target) bytes after)
    (durable : after.Durable (dir ++ target) bytes) :
    Settled dir after := by
  intro name other found survives
  by_cases different : name = target
  · rw [different] at survives ⊢
    rw [durable.1]
    exact durable.2 found survives
  · have keeps := keeps_listed listed written other different
    rw [written.grows.read keeps]
    exact settled name other found (written.grows.survives keeps.past survives)

/-- Each ending of the system calls is one of the writer's `write_file_atomic`. -/
theorem writeFile_refines
    (mirrors : Mirrors playlist dir muxing state)
    (settled : Settled dir muxing.files) (listed : Listed target)
    (holds : Holds playlist muxing.cuts bytes data) :
    Refines (powerLoss playlist dir) (writeFile (dir ++ target) bytes)
      (Storage.writeFileAtomic state.ws.segmentDir target data)
      (fun rc reached result matching => (rc = 0 ↔ result = 0) ∧
        (∃ after, reached = { muxing with files := after }) ∧
        matching.ws.segmentDir = state.ws.segmentDir ∧
        Mirrors playlist dir reached matching ∧
        (rc = 0 → Settled dir reached.files))
      muxing state := by
  refine wp_writeFile ?_ ?_
  · intro after written left leaves
    rcases mirrors.agrees_writing settled listed holds written left leaves
      with old | new
    · exact ⟨state, Or.inl rfl, old⟩
    · exact ⟨_, canStop_replaced mirrors.folder target data, new⟩
  · intro rc after ends
    have same : ∀ name, Listed name → name ≠ target →
        after.read (dir ++ name) = muxing.files.read (dir ++ name) :=
      fun name other different => ends.allOrNothing.grows.read
        (keeps_listed listed ends.allOrNothing other different)
    by_cases success : rc = 0
    · have durable := ends.success success
      refine ⟨_, _, canReturn_replaced mirrors.folder target data true, ?_⟩
      refine ⟨⟨fun _ => rfl, fun _ => success⟩, ⟨after, rfl⟩, rfl,
        (mirrors.replace holds durable.1 same).log _, fun _ => ?_⟩
      exact settled.write listed ends.allOrNothing durable
    · have fails : rc = 0 ↔ (-1 : Int) = 0 :=
        ⟨fun zero => absurd zero success, fun zero => by cases zero⟩
      rcases ends.allOrNothing.now with old | new
      · refine ⟨_, _, canReturn_failed target data, fails, ⟨after, rfl⟩, rfl,
          Mirrors.log (mirrors.keep fun name other => ?_) _,
          fun zero => absurd zero success⟩
        by_cases different : name = target
        · rw [different]
          exact old
        · exact same name other different
      · exact ⟨_, _, canReturn_replaced mirrors.folder target data false, fails,
          ⟨after, rfl⟩, rfl, (mirrors.replace holds new same).log _,
          fun zero => absurd zero success⟩

end Files

/-! ## The calls of the muxer -/

section Calls

variable {playlist : List PlaylistEntry → List β} {dir : CString}
  {muxing : Muxing β} {state : State}

/-- A call returns what the writer's call returns, and has done the same; when it
succeeds a power loss would leave its files as they are. -/
def Matches
    (playlist : List PlaylistEntry → List β) (dir : CString)
    (rc : Int) (reached : Muxing β) (result : Int) (matching : State) : Prop :=
  rc = result ∧ Mirrors playlist dir reached matching ∧
    (rc = 0 → Settled dir reached.files)

/-- The state of the writer when `hls_cb` begins to write. -/
def cutting
    (config : Config) (muxing : Muxing β) (state : State)
    (pts dts duration : Int) : State :=
  let counted : State := { state.log (.cut muxing.hls.frames) with lastDts := dts }
  (counted.updateWs fun ws => { ws with tsIdx := ws.tsIdx + 1 }).updateWs
    fun ws => { ws with m3u := ws.m3u.map fun added =>
      added ++ [muxing.entry config pts dts duration] }

/-- A cut leaves the files what they were. -/
theorem holds_append
    {cuts : List (Cut β)} {found : Option (List β)} {file : Option FileData}
    (holds : Option.Rel (Holds playlist cuts) found file) (cut : Cut β) :
    Option.Rel (Holds playlist (cuts ++ [cut])) found file := by
  cases holds with
  | none => exact .none
  | @some bytes data holds =>
      refine .some ?_
      cases data with
      | media frames => exact List.mem_append_left _ holds
      | playlist entries => exact holds

theorem Mirrors.cut
    (mirrors : Mirrors playlist dir muxing state)
    (config : Config) (data : List β) (pts dts duration : Int) :
    Mirrors playlist dir (muxing.cut config data pts dts duration)
      (cutting config muxing state pts dts duration) where
  folder := mirrors.folder
  files := fun name listed => holds_append (mirrors.files name listed) _
  hls := mirrors.hls
  m3u := by
    change state.ws.m3u.map _ = _
    rw [mirrors.m3u]
    rfl
  tsIdx := congrArg (· + 1) mirrors.tsIdx
  lastDts := rfl

theorem hlsCb_refines
    (config : Config) (data : List β) (pts dts duration : Int)
    (mirrors : Mirrors playlist dir muxing state)
    (settled : Settled dir muxing.files) :
    Refines (powerLoss playlist dir)
      (hlsCb config playlist dir data pts dts duration)
      (Storage.hlsCb config muxing.hls.frames pts dts duration)
      (Matches playlist dir) muxing state := by
  have before : (state.log (.cut muxing.hls.frames)).lastDts = muxing.lastDts :=
    mirrors.lastDts
  have m3u := mirrors.m3u
  have tsIdx := mirrors.tsIdx
  have mirrors := mirrors.cut config data pts dts duration
  unfold hlsCb Storage.hlsCb
  refine Refines.current (Refines.modify (Refines.current ?_))
  refine Refines.otherModify (Refines.otherCurrent (Refines.otherModify
    (Refines.otherModify ?_)))
  simp only [State.ws_log, m3u, tsIdx, before]
  refine Refines.otherModify ?_
  have holds : Holds playlist (muxing.cut config data pts dts duration).cuts
      data (.media muxing.hls.frames) :=
    List.mem_append_right _ (List.mem_singleton_self _)
  have text : ∀ cuts, Holds playlist cuts
      (playlist (muxing.cut config data pts dts duration).m3u)
      (.playlist (muxing.cut config data pts dts duration).m3u) := fun _ => rfl
  refine Refines.bind _ (writeFile_refines mirrors settled
    (Or.inr ⟨muxing.tsIdx, rfl⟩) holds) ?_
  rintro media reached result matching
    ⟨same, ⟨after, rfl⟩, sameDir, mirrors, settled⟩
  refine Refines.ite (not_congr same) (fun failed => ?_) fun success => ?_
  · exact Refines.otherModify (Refines.pure
      ⟨rfl, mirrors.log _, fun zero => by cases zero⟩)
  have index := writeFile_refines mirrors (settled (not_not.mp success))
    (Or.inl rfl) (text _)
  have kept : matching.ws.segmentDir = state.ws.segmentDir := sameDir
  rw [kept] at index
  refine Refines.bind _ index ?_
  clear same sameDir kept index mirrors settled success
  rintro index reached result matching
    ⟨same, ⟨after, rfl⟩, -, mirrors, settled⟩
  refine Refines.ite (not_congr same) (fun failed => ?_) fun success => ?_
  · exact Refines.otherModify (Refines.pure
      ⟨rfl, mirrors.log _, fun zero => by cases zero⟩)
  · refine Refines.modify (Refines.otherModify (Refines.otherModify
      (Refines.pure ⟨rfl, ?_, fun _ => settled (not_not.mp success)⟩)))
    exact ⟨mirrors.folder, mirrors.files, mirrors.hls, mirrors.m3u,
      mirrors.tsIdx, mirrors.lastDts⟩

/-- Both sides change the muxer. -/
theorem Mirrors.setHls
    (mirrors : Mirrors playlist dir muxing state)
    (update : HlsMedia → HlsMedia) (ptr : List β) (fed : List FqFrame) :
    Mirrors playlist dir { muxing with hls := update muxing.hls, ptr, fed }
      (state.updateWs fun ws => { ws with hls := ws.hls.map update }) where
  folder := mirrors.folder
  files := mirrors.files
  hls := by
    change state.ws.hls.map update = _
    rw [mirrors.hls]
    rfl
  m3u := mirrors.m3u
  tsIdx := mirrors.tsIdx
  lastDts := mirrors.lastDts

theorem hlsNewSegment_refines
    (config : Config) (input : MediaInput)
    (mirrors : Mirrors playlist dir muxing state)
    (settled : Settled dir muxing.files) :
    Refines (powerLoss playlist dir) (hlsNewSegment config playlist dir input)
      (Storage.hlsNewSegment config muxing.hls input.payload input.pts input.dts)
      (Matches playlist dir) muxing state := by
  unfold hlsNewSegment Storage.hlsNewSegment
  refine Refines.current (Refines.bind (Matches playlist dir)
    (Refines.ite Iff.rfl (fun _ => hlsCb_refines config _ _ _ _ mirrors settled)
      fun _ => Refines.pure ⟨rfl, mirrors, fun _ => settled⟩) ?_)
  rintro rc reached _ matching ⟨rfl, mirrors, settled⟩
  refine Refines.ite Iff.rfl
    (fun _ => Refines.pure ⟨rfl, mirrors, settled⟩) fun success => ?_
  exact Refines.modify (Refines.otherModify (Refines.pure
    ⟨rfl, mirrors.setHls (fun hls => hls.begin input.pts input.dts) _ _,
      fun _ => settled (not_not.mp success)⟩))

theorem noteAppended_refines
    {concrete : Muxer β Int} {rest : Storage Int}
    (payload : Option FqFrame)
    (later : ∀ state, Mirrors playlist dir muxing state →
      Refines (powerLoss playlist dir) concrete rest (Matches playlist dir)
        muxing state)
    (mirrors : Mirrors playlist dir muxing state) :
    Refines (powerLoss playlist dir) concrete
      (Storage.noteAppended payload >>= fun _ => rest) (Matches playlist dir)
      muxing state := by
  cases payload with
  | none => exact later state mirrors
  | some frame => exact later _ (mirrors.log _)

/-- A call of the muxer does what the writer's call can do, and a power loss during
it leaves what the writer may be stopped with. -/
theorem hlsMediaInput_refines
    (config : Config) (input : MediaInput)
    (mirrors : Mirrors playlist dir muxing state)
    (settled : Settled dir muxing.files) :
    Refines (powerLoss playlist dir) (hlsMediaInput config playlist dir input)
      (Storage.hlsMediaInput config input.payload input.pts input.dts
        input.isKey)
      (Matches playlist dir) muxing state := by
  unfold hlsMediaInput Storage.hlsMediaInput
  refine Refines.current (Refines.otherCurrent ?_)
  simp only [mirrors.hls]
  refine Refines.bind (Matches playlist dir)
    (Refines.ite Iff.rfl
      (fun _ => hlsNewSegment_refines config input mirrors settled)
      fun _ => Refines.pure ⟨rfl, mirrors, fun _ => settled⟩) ?_
  clear mirrors settled
  rintro rc reached _ matching ⟨rfl, mirrors, settled⟩
  refine Refines.ite Iff.rfl
    (fun _ => Refines.pure ⟨rfl, mirrors, settled⟩) fun success => ?_
  have settled := settled (not_not.mp success)
  refine Refines.ask (mirrors.agrees settled) fun answer =>
    ⟨{ packets := answer.packets.length }, ?_⟩
  refine Refines.modify (Refines.otherModify
    (noteAppended_refines input.payload (fun _ mirrors =>
      Refines.pure ⟨rfl, mirrors, fun _ => settled⟩) ?_))
  exact mirrors.setHls (fun hls =>
    { hls with audioOnlyFlag := false, dtsLast := input.dts }.write
      input.payload answer.packets.length) _ _

/-- Calls of the writer's muxer up to the first that fails. -/
def feedWriter (config : Config) : List MediaInput → Storage Unit
  | [] => return ()
  | input :: inputs => do
      let result ← Storage.hlsMediaInput config input.payload input.pts input.dts
        input.isKey
      if result ≠ 0 then return ()
      feedWriter config inputs

/-- Whatever the calls are, wherever they fail and wherever the power is lost, the
writer's model has that run as well. -/
theorem feed_refines
    (config : Config) (inputs : List MediaInput)
    (mirrors : Mirrors playlist dir muxing state)
    (settled : Settled dir muxing.files) :
    Refines (powerLoss playlist dir) (feed config playlist dir inputs)
      (feedWriter config inputs)
      (fun _ reached _ matching => Mirrors playlist dir reached matching)
      muxing state := by
  induction inputs generalizing muxing state with
  | nil => exact Refines.pure mirrors
  | cons input inputs inductionHypothesis =>
      unfold feed feedWriter
      refine Refines.bind _
        (hlsMediaInput_refines config input mirrors settled) ?_
      rintro rc reached _ matching ⟨rfl, mirrors, settled⟩
      exact Refines.ite Iff.rfl (fun _ => Refines.pure mirrors) fun success =>
        inductionHypothesis mirrors (settled (not_not.mp success))

/-- `hls_create` in a new folder. -/
theorem mirrors_opened
    {config : Config} {files : FileSystem CString β}
    (hls : state.ws.hls = some (HlsMedia.create (config.hlsDurationS * 1000)))
    (fresh : state.FreshSegment)
    (there : state.disk.exists? (.segment state.ws.segmentDir) = true)
    (empty : ∀ name, Listed name → files.read (dir ++ name) = none) :
    Mirrors playlist dir (opened config state.lastDts files) state where
  folder := there
  files := by
    intro name listed
    change Option.Rel _ (files.read (dir ++ name)) _
    rw [empty name listed, fresh.empty name]
    exact .none
  hls := hls
  m3u := fresh.playlist
  tsIdx := fresh.index
  lastDts := rfl

end Calls

/-! ## Every run -/

/-- In a new folder, whatever the calls of the muxer are, wherever one of them fails
and wherever the power is lost, the writer's model has a run that leaves the same
files. -/
theorem muxer_refines_writer
    (config : Config) (playlist : List PlaylistEntry → List β) (dir : CString)
    (inputs : List MediaInput) {state : State} {files : FileSystem CString β}
    (hls : state.ws.hls = some (HlsMedia.create (config.hlsDurationS * 1000)))
    (fresh : state.FreshSegment)
    (there : state.disk.exists? (.segment state.ws.segmentDir) = true)
    (empty : ∀ name, Listed name → ∀ found,
      files.Survives (dir ++ name) found → found = none)
    (script : List (MuxAnswer β)) :
    ((feed config playlist dir inputs).run (opened config state.lastDts files)
      script).Meets
      (fun _ reached => ∃ choices after rest,
        (feedWriter config inputs).run state choices = .done () after rest ∧
          ∀ name, Listed name → Option.Rel (Holds playlist reached.cuts)
            (reached.files.read (dir ++ name)) (after.file name))
      (fun reached => ∀ found : CString → Option (List β),
        (∀ name, Listed name →
          reached.files.Survives (dir ++ name) (found name)) →
        ∃ choices after,
          (feedWriter config inputs).run state choices = .halted after ∧
            ∀ name, Listed name → Option.Rel (Holds playlist reached.cuts)
              (found name) (after.file name)) := by
  have nothing : ∀ name, Listed name → files.read (dir ++ name) = none :=
    fun name listed => empty name listed _ (files.survives_read (dir ++ name))
  have settled : Settled dir files := by
    intro name listed found survives
    rw [nothing name listed]
    exact empty name listed found survives
  have mirrors : Mirrors playlist dir (opened config state.lastDts files)
      state :=
    mirrors_opened hls fresh there nothing
  have meets := refines_iff_run.mp (feed_refines config inputs mirrors settled)
    script
  cases ends : (feed config playlist dir inputs).run
      (opened config state.lastDts files) script with
  | done value reached rest =>
      rw [ends] at meets
      obtain ⟨choices, result, after, rest, returns, mirrors⟩ := meets
      exact ⟨choices, after, rest, returns, mirrors.files⟩
  | halted reached =>
      rw [ends] at meets
      intro found survives
      exact meets ⟨found, reached.cuts⟩ ⟨rfl, survives⟩

/-- Two keyframes, and the power is lost while the playlist of the first segment is
written. -/
theorem muxer_refines_writer_two_keyframes :
    let playlist : List PlaylistEntry → List Char := fun entries =>
      entries.flatMap PlaylistEntry.name
    let dir : CString := "/mnt/sdcard/DCIM/2024-01-01/00000/".toList
    let keyframe : Int → MediaInput := fun dts =>
      ⟨some ⟨some ⟨0, [1]⟩, 1, true, 0⟩, dts, dts, true⟩
    let inputs := [keyframe 0, keyframe 40]
    let works : MuxAnswer Char :=
      { suffix := "aZ09bY".toList
        writes := [.wrote 1, .interrupted, .wrote 100]
        packet := "GOP".toList }
    let start := ((Storage.openToday {}).run (State.restart {})
      (List.replicate 40 {})).state
    let run := (feed {} playlist dir inputs).run
      (opened {} start.lastDts .empty) (List.replicate 12 works)
    run.value = none ∧
      ∀ found : CString → Option (List Char),
        (∀ name, Listed name →
          run.state.files.Survives (dir ++ name) (found name)) →
        ∃ choices after,
          (feedWriter {} inputs).run start choices = .halted after ∧
            ∀ name, Listed name →
              Option.Rel (Holds playlist run.state.cuts) (found name)
                (after.file name) := by
  intro playlist dir keyframe inputs works start run
  have hls : start.ws.hls = some (HlsMedia.create 0) := by decide +kernel
  have fresh : start.FreshSegment :=
    ⟨by decide +kernel, fun _ => rfl, by decide +kernel, ⟨0, hls⟩,
      by decide +kernel⟩
  have meets := muxer_refines_writer {} playlist dir inputs hls fresh
    (by decide +kernel) (fun _ _ _ => FileSystem.survives_empty)
    (List.replicate 12 works)
  have stopped : run.value = none := by decide +kernel
  refine ⟨stopped, ?_⟩
  change run.Meets _ _ at meets
  cases ends : run with
  | done value reached rest =>
      rw [ends] at stopped
      cases stopped
  | halted reached =>
      rw [ends] at meets
      exact meets

end PowerLoss
end MotionSense
