import MotionSense.Capture.MediaStart

/-!
# Bringing the media down

`media_stop` and `media_deinit` give everything back but what a half-started overlay
or socket has left, and from start to exit nothing is held without what it rests on.
-/

namespace MotionSense
namespace Media

open Program

variable {vars : Vars} {held : Finset Resource} {failed : List Call}
  {stands : Prop} {state : State}

/-- Join a thread that was started and note that it is gone, or do nothing. -/
theorem joinAndClear_at
    {flag : Vars → Bool} {producer : Producer} {clear : Vars → Vars}
    (placed : At vars held failed stands state)
    (sound : flag vars = true ↔ Resource.thread producer ∈ held)
    (silent : flag vars = false → clear vars = vars) :
    (joinAndClear flag producer clear).wp
      (fun _ => At (clear vars) (held.erase (.thread producer)) failed stands)
      (fun _ => True) state := by
  rw [joinAndClear, wp_bind, wp_current, placed.vars]
  refine wp_split (fun started => ?_) fun unstarted => ?_
  · refine wp_then (perform_release placed rfl (by simp) (sound.mp started)
      fun holds => ⟨holds, by simp [Resource.users]⟩) fun _ reached placed => ?_
    exact placed.setVars clear
  · refine placed.cast (silent (by simpa using unstarted)).symm ?_
    exact (Finset.erase_eq_of_notMem fun member =>
      unstarted (sound.mpr member)).symm

/-- The part of `media_stop` that closes the client's socket. -/
theorem closeClient_at
    (placed : At vars held failed stands state)
    (sound : vars.webSock = true ↔ Resource.client ∈ held) :
    closeClient.wp
      (fun _ => At { vars with webSock := false } (held.erase .client) failed
        stands)
      (fun _ => True) state := by
  rw [closeClient, wp_bind, wp_current, placed.vars]
  refine wp_split (fun connected => ?_) fun unconnected => ?_
  · refine wp_then (perform_release placed rfl (by simp) (sound.mp connected)
      fun holds => ⟨holds, by simp [Resource.users]⟩) fun _ reached placed => ?_
    exact placed.setVars fun vars => { vars with webSock := false }
  · refine placed.cast ?_ (Finset.erase_eq_of_notMem fun member =>
      unconnected (sound.mpr member)).symm
    rw [← Bool.eq_false_iff.mpr unconnected]

/-- The part of `media_stop` that closes the listening socket. -/
theorem closeServer_at
    (placed : At vars held failed stands state)
    (sound : vars.webSrvFd = true → Resource.server ∈ held) :
    closeServer.wp
      (fun _ => At { vars with webSrvFd := false }
        (if vars.webSrvFd then (held.erase .server).erase .socketFile
          else held) failed stands)
      (fun _ => True) state := by
  rw [closeServer, wp_bind, wp_current, placed.vars]
  refine wp_split (fun listening => ?_) fun silent => ?_
  · rw [if_pos listening]
    refine wp_then (perform_release placed rfl (by simp) (sound listening)
      fun holds => ⟨holds, by simp [Resource.users]⟩) fun _ reached placed => ?_
    rw [wp_bind, setVars, wp_modify]
    exact unlink_at (placed.setVars fun vars => { vars with webSrvFd := false })
  · rw [if_neg silent]
    refine placed.cast ?_ rfl
    rw [← Bool.eq_false_iff.mpr silent]

/-- The overlay without its thread. -/
def OsdUp.stopped : OsdUp → OsdUp
  | running => regions
  | osd => osd

/-- What nobody gives back of the overlay: the font that `osd_init` has created when
it fails later. -/
def OsdUp.left : OsdUp → Finset Resource
  | font => {.font}
  | _ => ∅

/-- What nobody gives back of the socket: its name when nobody listens. -/
def WebUp.left : WebUp → Finset Resource
  | named => {.socketFile}
  | _ => ∅

/-- The threads and sockets are gone. -/
def Stopped (web : WebUp) (osd : OsdUp) : State → Prop :=
  At (osd.stopped.update { aiqCtx := true })
    (osd.stopped.resources ∪ (web.left ∪ pipelines)) [] True

/-- Each thread and socket is there when its variable says so. -/
theorem mem_serving (web : WebUp) (osd : OsdUp) :
    (decide (osd = .running) = true ↔
      Resource.thread .osd ∈ producers ∪ heldUp web osd) ∧
    (decide (web = .connected) = true ↔
      Resource.client ∈ producers ∪ heldUp web osd) ∧
    (decide (web = .listening ∨ web = .connected) = true →
      Resource.server ∈ producers ∪ heldUp web osd) := by
  cases web <;> cases osd <;> decide +kernel

/-- What is held once the threads and the sockets are gone. -/
theorem erase_serving (web : WebUp) (osd : OsdUp) :
    let threadless := (((((producers ∪ heldUp web osd).erase
      (.thread .osd)).erase (.thread .h264)).erase (.thread .mjpeg)).erase
        (.thread .ivs)).erase .client
    (if decide (web = .listening ∨ web = .connected) = true then
        (threadless.erase .server).erase .socketFile
      else threadless) =
      osd.stopped.resources ∪ (web.left ∪ pipelines) := by
  cases web <;> cases osd <;> decide +kernel

/-- `media_stop`. -/
theorem mediaStop_at
    {web : WebUp} {osd : OsdUp} (placed : Serves web osd state) :
    mediaStop.wp (fun _ => Stopped web osd) (fun _ => True) state := by
  obtain ⟨osdThread, client, server⟩ := mem_serving web osd
  have left := erase_serving web osd
  have has : ∀ resource ∈ producers ∪ pipelines,
      resource ∈ producers ∪ heldUp web osd :=
    fun _ member =>
      Finset.union_subset_union_right (pipelines_subset_heldUp web osd) member
  rw [Serves] at placed
  generalize producers ∪ heldUp web osd = all at *
  simp only [producers, pipelines, Finset.mem_union, Finset.mem_insert,
    Finset.mem_singleton, or_imp, forall_and, forall_eq] at has
  rw [mediaStop, wp_bind, wp_current, placed.vars]
  refine wp_split (fun _ => ?_) fun silent => absurd rfl silent
  rw [mediaStopProducers, wp_bind, setVars, wp_modify]
  have placed := placed.setVars fun vars => { vars with producersRun := false }
  refine wp_then (perform_idle placed
    (.of rfl (by simp [Call.needs, has])) rfl rfl rfl)
    fun _ reached placed => ?_
  refine wp_then (perform_idle placed
    (.of rfl (by simp [Call.needs, has])) rfl rfl rfl)
    fun _ reached placed => ?_
  refine wp_then (joinAndClear_at placed osdThread ?_) fun _ reached placed => ?_
  · intro stopped
    rw [← stopped]
  refine wp_then (joinAndClear_at placed
    (iff_of_true rfl (by simp [has])) (by simp))
    fun _ reached placed => ?_
  refine wp_then (joinAndClear_at placed
    (iff_of_true rfl (by simp [has])) (by simp))
    fun _ reached placed => ?_
  refine wp_then (joinAndClear_at placed
    (iff_of_true rfl (by simp [has])) (by simp))
    fun _ reached placed => ?_
  have client : (varsUp web osd).webSock = true ↔ Resource.client ∈ all :=
    client
  refine wp_then (closeClient_at placed (by simpa using client))
    fun _ reached placed => ?_
  have server : (varsUp web osd).webSrvFd = true → Resource.server ∈ all :=
    server
  refine wp_mono (closeServer_at placed (by simpa using server))
    (fun _ after placed => ?_) fun _ _ => trivial
  refine At.cast placed ?_ left
  cases osd <;> rfl

/-- A second `media_stop` does nothing. -/
theorem mediaStop_again
    (placed : At vars held failed stands state)
    (stopped : vars.producersRun = false) :
    mediaStop.wp (fun _ => At vars held failed stands) (fun _ => True)
      state := by
  rw [mediaStop, wp_bind, wp_current, placed.vars, if_neg (by simp [stopped])]
  exact placed

/-- `osd_deinit`. -/
theorem osdDeinit_at
    (placed : At vars (OsdUp.regions.resources ∪ held) failed stands state)
    (fresh : ∀ resource ∈ OsdUp.running.resources, resource ∉ held) :
    osdDeinit.wp (fun _ => At vars held failed stands) (fun _ => True)
      state := by
  have mine : ∀ resource ∈ OsdUp.regions.resources,
      resource ∈ OsdUp.regions.resources ∪ held :=
    fun _ member => Finset.mem_union_left _ member
  have thread : Resource.thread .osd ∉ OsdUp.regions.resources ∪ held := by
    rw [Finset.mem_union, not_or]
    exact ⟨by decide, fresh _ (by decide)⟩
  rw [osdDeinit]
  refine wp_then (osdRgnDestroy_at placed (mine _ (by decide))
    (mine _ (by decide)) fun holds => ⟨holds, thread⟩) fun _ reached placed => ?_
  refine wp_then (osdRgnDestroy_at placed (by simp [OsdUp.resources])
    (by simp [OsdUp.resources]) fun holds => ⟨holds, by simp [thread]⟩)
    fun _ reached placed => ?_
  refine wp_mono (perform_release placed rfl (by simp)
    (by simp [OsdUp.resources]) fun holds =>
      ⟨holds, by simpa [Resource.users] using thread⟩)
    (fun _ after placed => placed.cast rfl ?_) fun _ _ => trivial
  simp only [OsdUp.resources, Finset.mem_insert, Finset.mem_singleton,
    forall_eq_or_imp, forall_eq] at fresh
  obtain ⟨_, overlayMjpeg, rgnMjpeg, overlayH264, rgnH264, font⟩ := fresh
  ext resource
  simp only [OsdUp.resources, Finset.mem_erase, Finset.mem_union,
    Finset.mem_insert, Finset.mem_singleton]
  constructor
  · tauto
  · intro member
    refine ⟨?_, ?_, ?_, ?_, ?_, Or.inr member⟩ <;> rintro rfl <;> contradiction

/-- The part of `media_deinit` that takes the overlay down. -/
theorem mediaDeinitOsd_at
    {web : WebUp} {osd : OsdUp} (placed : Stopped web osd state) :
    mediaDeinitOsd.wp
      (fun _ => At { aiqCtx := true } (osd.left ∪ (web.left ∪ pipelines)) [] True)
      (fun _ => True) state := by
  have fresh : ∀ resource ∈ OsdUp.running.resources,
      resource ∉ web.left ∪ pipelines := by
    cases web <;> decide
  have down : ∀ state : State, At (OsdUp.regions.update { aiqCtx := true })
      (OsdUp.regions.resources ∪ (web.left ∪ pipelines)) [] True state →
      mediaDeinitOsd.wp
        (fun _ => At { aiqCtx := true } (web.left ∪ pipelines) [] True)
        (fun _ => True) state := by
    intro state placed
    rw [mediaDeinitOsd, wp_bind, wp_current, placed.vars]
    refine wp_split (fun _ => ?_) fun down => absurd rfl down
    refine wp_then (osdDeinit_at placed fresh) fun _ reached placed => ?_
    exact placed.setVars fun vars => { vars with osdInited := false }
  have rest : At (OsdUp.none.update { aiqCtx := true })
      (osd.left ∪ (web.left ∪ pipelines)) [] True state →
      mediaDeinitOsd.wp
        (fun _ => At { aiqCtx := true } (osd.left ∪ (web.left ∪ pipelines)) []
          True) (fun _ => True) state := by
    intro placed
    rw [mediaDeinitOsd, wp_bind, wp_current, placed.vars, if_neg (by decide)]
    exact placed
  cases osd with
  | none => exact rest placed
  | font => exact rest placed
  | regions => simpa [OsdUp.left] using down state placed
  | running => simpa [OsdUp.left] using down state placed

/-- What only a running or half-built system has is not there. -/
theorem notMem_left (web : WebUp) (osd : OsdUp) :
    (∀ producer, Resource.thread producer ∉
      osd.left ∪ (web.left ∪ pipelines)) ∧
    (∀ chn, Resource.overlay chn ∉ osd.left ∪ (web.left ∪ pipelines)) ∧
    ∀ chn, Resource.rgn chn ∉ osd.left ∪ (web.left ∪ pipelines) := by
  refine ⟨fun producer => ?_, fun chn => ?_, fun chn => ?_⟩
  · cases producer <;> cases web <;> cases osd <;> decide
  · cases chn <;> cases web <;> cases osd <;> decide
  · cases chn <;> cases web <;> cases osd <;> decide

theorem left_sdiff_pipelines (web : WebUp) (osd : OsdUp) :
    (osd.left ∪ (web.left ∪ pipelines)) \ pipelines = osd.left ∪ web.left := by
  cases web <;> cases osd <;> decide

/-- `media_deinit`, after `media_stop`. -/
theorem mediaDeinit_at
    {web : WebUp} {osd : OsdUp} (placed : Stopped web osd state) :
    mediaDeinit.wp (fun _ => At {} (osd.left ∪ web.left) [] True)
      (fun _ => True) state := by
  obtain ⟨thread, overlay, rgn⟩ := notMem_left web osd
  have left := left_sdiff_pipelines web osd
  have has : ∀ resource ∈ pipelines,
      resource ∈ osd.left ∪ (web.left ∪ pipelines) :=
    fun _ member => Finset.mem_union_right _ (Finset.mem_union_right _ member)
  rw [mediaDeinit]
  refine wp_then (mediaStop_again placed rfl) fun _ reached placed => ?_
  refine wp_then (mediaDeinitOsd_at placed) fun _ reached placed => ?_
  generalize osd.left ∪ (web.left ∪ pipelines) = all at *
  simp only [pipelines, Finset.mem_insert, Finset.mem_singleton,
    forall_eq_or_imp, forall_eq] at has
  refine wp_then (motionPipelineDeinit_at placed (by simp [has])
    (by simp [has]) (by simp [has])
    (by simp [has]) fun holds => ⟨holds, thread .ivs⟩)
    fun _ reached placed => ?_
  refine wp_then (streamPipelineDeinit_at placed (by simp [has])
    (by simp [has]) (by simp [has])
    fun holds => ⟨holds, by simp [overlay], by simp [thread]⟩)
    fun _ reached placed => ?_
  refine wp_then (recordPipelineDeinit_at placed (by simp [has])
    (by simp [has])
    fun holds => ⟨holds, by simp [overlay], by simp [thread]⟩)
    fun _ reached placed => ?_
  refine wp_then (aiqStop_at placed rfl (by simp [has]))
    fun _ reached placed => ?_
  rw [viDevDeinit]
  refine wp_then (perform_release placed rfl (by simp)
    (by simp [has]) fun holds => ⟨holds, by simp [Resource.users]⟩)
    fun _ reached placed => ?_
  refine wp_mono (perform_release placed rfl (by simp)
    (by simp [has])
    fun holds => ⟨holds, by simp [Resource.users, rgn]⟩)
    (fun _ after placed => placed.cast rfl ?_) fun _ _ => trivial
  rw [← left]
  ext resource
  simp only [pipelines, Finset.mem_erase, Finset.mem_sdiff, Finset.mem_insert,
    Finset.mem_singleton, not_or]
  tauto

/-! ## From start to exit -/

/-- What the media hold when they have been brought up and down: at most the font and
the name of the socket, and at no time anything without what it rests on. -/
theorem mediaLife_gives_back
    (enabled early late : Bool) (script rest : List Result) (state : State)
    (returned : (mediaLife early late).run (State.start enabled) script =
      .done 0 state rest) :
    Finds state.ledger ∧ failures state.ledger = [] ∧
      protocol.Stands state.ledger ∧ state.vars = {} ∧
      state.held ⊆ {.font, .socketFile} := by
  have lives : (mediaLife early late).wp
      (fun result after => result = 0 → ∃ web osd,
        At {} (OsdUp.left osd ∪ WebUp.left web) [] True after)
      (fun _ => True) (State.start enabled) := by
    rw [mediaLife]
    refine wp_then (mediaInit_at enabled early) ?_
    rintro _ reached (⟨rfl, web, osd, serves⟩ | ⟨rfl, -⟩)
    · rw [if_neg (by decide), wp_bind, wp_modify]
      have serving : Serves (web.client late) osd (reached.client late) :=
        client_at serves (by decide) late
      refine wp_then (mediaStop_at serving) fun _ reached stopped => ?_
      refine wp_then (mediaDeinit_at stopped) fun _ after placed => ?_
      exact fun _ => ⟨web.client late, osd, placed⟩
    · rw [if_pos (by decide)]
      exact fun zero => absurd zero (by decide)
  have meets := (wp_iff_run _ _ _ _).mp lives script
  rw [returned] at meets
  obtain ⟨web, osd, placed⟩ := meets rfl
  refine ⟨placed.finds, placed.failures, placed.stands trivial, placed.vars, ?_⟩
  rw [placed.held]
  cases web <;> cases osd <;> decide

/-- Neither the socket nor the overlay comes up: the name and the font are left. -/
theorem mediaLife_gives_back_no_overlay :
    let script := List.replicate 48 Result.success ++
      .failure :: .success :: .success :: .failure :: List.replicate 60 .success
    let outcome := (mediaLife true true).run (State.start false) script
    outcome.value = some 0 ∧
      Resource.font ∈ outcome.state.held ∧
      Resource.socketFile ∈ outcome.state.held ∧
      protocol.Stands outcome.state.ledger ∧
      outcome.state.held ⊆ {.font, .socketFile} := by
  intro script outcome
  have value : outcome.value = some 0 := by decide +kernel
  have font : Resource.font ∈ outcome.state.held := by decide +kernel
  have socketFile : Resource.socketFile ∈ outcome.state.held := by
    decide +kernel
  refine ⟨value, font, socketFile, ?_⟩
  cases ended : outcome with
  | done result state rest =>
      rw [ended] at value
      obtain rfl := Option.some.inj value
      obtain ⟨-, -, stands, -, left⟩ :=
        mediaLife_gives_back false true true script rest state ended
      exact ⟨stands, left⟩
  | halted state =>
      rw [ended] at value
      cases value

end Media
end MotionSense
