import MotionSense.Capture.MediaCalls

/-!
# Bringing the media up

`media_init` brings everything up, or it fails in one of its calls and leaves what the
failing call was made with.
-/

namespace MotionSense
namespace Media

open Program

variable {vars : Vars} {held : Finset Resource} {failed : List Call}
  {stands : Prop} {state : State}

/-! ## The socket and the threads -/

theorem unlink_at
    (placed : At vars held failed stands state) :
    (perform .unlink).wp
      (fun _ => At vars (held.erase .socketFile) failed stands)
      (fun _ => True) state :=
  @wp_perform _ _ _ _ _ placed .unlink (.of rfl (by simp [Call.needs])) stands
    (fun holds => ⟨holds, .release rfl (by simp [Resource.users])⟩) rfl rfl

/-- `web_sock_srv_init`. -/
theorem webSockSrvInit_at
    (placed : At vars held failed stands state)
    (noSock : vars.webSock = false) (noFd : vars.webSrvFd = false)
    (server : Resource.server ∉ held)
    (socketFile : Resource.socketFile ∉ held) :
    webSockSrvInit.wp
      (fun _ after => ∃ web : WebUp,
        At (web.update vars) (web.resources ∪ held) failed stands after)
      (fun _ => True) state := by
  have without : ∀ web : WebUp, web = .none ∨ web = .named →
      vars = web.update vars := by
    cases vars
    simp only at noSock noFd
    rintro web (rfl | rfl) <;> simp [WebUp.update, noSock, noFd]
  have nothing : ∀ after, At vars held failed stands after →
      ∃ web : WebUp,
        At (web.update vars) (web.resources ∪ held) failed stands after := by
    intro after placed
    exact ⟨.none, placed.cast (without .none (by simp))
      (Finset.empty_union held).symm⟩
  rw [webSockSrvInit]
  refine wp_then (unlink_at placed) fun _ reached placed => ?_
  rw [Finset.erase_eq_of_notMem socketFile] at placed
  rw [wp_bind]
  apply attempt_acquire placed (.of rfl (by simp [Call.needs])) rfl
    (by simp [Resource.uses])
  · intro reached placed
    rw [if_neg (by decide), wp_bind]
    apply attempt_acquire placed (.of rfl (by simp [Call.needs])) rfl
      (by simp [Resource.uses])
    · intro reached placed
      rw [if_neg (by decide), wp_bind]
      apply attempt_any placed (.of rfl (by simp [Call.needs])) rfl rfl rfl
      intro result reached placed _
      refine wp_split (fun _ => ?_) fun _ => ?_
      · refine wp_then (perform_release placed rfl (by simp) (by simp)
          fun holds => ⟨holds, by simp [Resource.users]⟩)
          fun _ after placed => ?_
        refine ⟨.named, placed.cast (without .named (by simp)) ?_⟩
        ext resource
        simp only [WebUp.resources, Finset.mem_erase, Finset.mem_insert,
          Finset.mem_union, Finset.mem_singleton]
        constructor
        · rintro ⟨other, rfl | rfl | before⟩
          · exact Or.inl rfl
          · exact absurd rfl other
          · exact Or.inr before
        · rintro (rfl | before)
          · exact ⟨by decide, Or.inl rfl⟩
          · refine ⟨?_, Or.inr (Or.inr before)⟩
            rintro rfl
            exact server before
      · refine ⟨.listening, (placed.setVars _).cast ?_ ?_⟩
        · simp [WebUp.update, ← noSock]
        · rw [Finset.insert_comm]
          simp only [WebUp.resources, Finset.insert_union,
            Finset.singleton_union]
    · intro result reached failing placed
      have placed : At vars (insert .server held) failed stands reached := by
        simpa [failure, Call.critical] using placed
      rw [if_pos failing]
      refine wp_then (perform_release placed rfl (by simp) (by simp)
        fun holds => ⟨holds, by simp [Resource.users]⟩)
        fun _ after placed => ?_
      rw [Finset.erase_insert server] at placed
      exact nothing after placed
  · intro result reached failing placed
    rw [if_pos failing]
    apply nothing
    simpa [failure, Call.critical] using placed

/-- The part of `media_init` that starts the overlay. -/
theorem mediaStartOsd_at
    (placed : At vars held failed stands state)
    (notInited : vars.osdInited = false) (notStarted : vars.osdStarted = false)
    (sys : Resource.sys ∈ held) (h264 : Resource.venc .h264 ∈ held)
    (mjpeg : Resource.venc .mjpeg ∈ held)
    (fresh : ∀ resource ∈ OsdUp.running.resources, resource ∉ held) :
    mediaStartOsd.wp
      (fun _ after => ∃ osd : OsdUp,
        At (osd.update vars) (osd.resources ∪ held) failed stands after)
      (fun _ => True) state := by
  rw [mediaStartOsd]
  refine wp_then (osdInit_at placed sys h264 mjpeg fresh) ?_
  rintro _ reached (⟨rfl, placed⟩ | ⟨rfl, osd, down, placed⟩)
  · rw [if_pos rfl, wp_bind, setVars, wp_modify, wp_bind]
    have placed := placed.setVars fun vars => { vars with osdInited := true }
    apply attempt_acquire placed (.of rfl (by simp [Call.needs])) rfl
      (by simp [Resource.uses, OsdUp.resources])
    · intro reached placed
      rw [if_pos rfl, setVars, wp_modify]
      refine ⟨.running, (placed.setVars _).cast ?_ ?_⟩
      · simp [OsdUp.update]
      · simp only [OsdUp.resources, Finset.insert_union, Finset.singleton_union]
    · intro result reached failing placed
      rw [if_neg failing]
      have placed : At { vars with osdInited := true }
          (OsdUp.regions.resources ∪ held) failed stands reached := by
        simpa [failure, Call.critical] using placed
      refine ⟨.regions, placed.cast ?_ rfl⟩
      simp [OsdUp.update, ← notStarted]
  · rw [if_neg (by decide)]
    refine ⟨osd, placed.cast ?_ rfl⟩
    cases vars
    simp only at notInited notStarted
    rcases down with rfl | rfl <;> simp [OsdUp.update, notInited, notStarted]

/-! ## What is up -/

/-- The pipelines with all that they are built on. -/
def pipelines : Finset Resource :=
  {.bound .viIvs, .ivs, .viChn .bypathSampling, .viChn .bypath,
    .bound .viVenc, .venc .mjpeg, .viChn .self,
    .venc .h264, .viChn .main, .aiq, .viDev, .sys}

/-- What is held with the pipelines up. -/
def heldUp (web : WebUp) (osd : OsdUp) : Finset Resource :=
  osd.resources ∪ (web.resources ∪ pipelines)

/-- The variables with the pipelines up. -/
def varsUp (web : WebUp) (osd : OsdUp) : Vars :=
  osd.update (web.update { producersRun := true, aiqCtx := true })

theorem pipelines_subset_heldUp (web : WebUp) (osd : OsdUp) :
    pipelines ⊆ heldUp web osd :=
  Finset.subset_union_right.trans Finset.subset_union_right

/-- No producer is among what is held with the pipelines up. -/
theorem thread_notMem_heldUp
    {producer : Producer} (other : producer ≠ .osd) (web : WebUp) (osd : OsdUp) :
    Resource.thread producer ∉ heldUp web osd := by
  cases producer <;> cases web <;> cases osd <;>
    first | exact absurd rfl other | decide

/-! ## Failing -/

/-- What is left of the process when `media_init` has failed in a call. -/
def Call.remains (call : Call) (enabled : Bool) (web : WebUp) (osd : OsdUp) :
    Finset Resource :=
  match call with
  | sysInit | viSetDevAttr | viEnableDev => (State.start enabled).held
  | threadCreate _ => osd.resources ∪ web.resources
  | _ => call.leaves

/-- `media_init` has failed. -/
def Fails (enabled : Bool) (result : Int) (state : State) : Prop :=
  result = -1 ∧ ∃ call web osd,
    At (osd.update (web.update {})) (call.remains enabled web osd) [call] False
      state

/-- `fail_sys`. -/
theorem failSys_at
    (placed : At vars held failed stands state) (sys : Resource.sys ∈ held) :
    failSys.wp
      (fun result after =>
        result = -1 ∧ At vars (held.erase .sys) failed False after)
      (fun _ => True) state := by
  rw [failSys]
  refine wp_then (perform_release placed rfl (by simp) sys False.elim)
    fun _ after placed => ?_
  exact ⟨rfl, placed⟩

/-- `fail_vi`. -/
theorem failVi_at
    (placed : At vars held failed stands state) (sys : Resource.sys ∈ held)
    (viDev : Resource.viDev ∈ held) :
    failVi.wp
      (fun result after => result = -1 ∧
        At vars ((held.erase .viDev).erase .sys) failed False after)
      (fun _ => True) state := by
  rw [failVi, viDevDeinit]
  refine wp_then (perform_release placed rfl (by simp) viDev False.elim)
    fun _ reached placed => ?_
  exact failSys_at placed (by simp [sys])

/-- `fail_aiq`. -/
theorem failAiq_at
    (placed : At vars held failed stands state) (ctx : vars.aiqCtx = true)
    (sys : Resource.sys ∈ held) (viDev : Resource.viDev ∈ held)
    (aiq : Resource.aiq ∈ held) :
    failAiq.wp
      (fun result after => result = -1 ∧
        At { vars with aiqCtx := false }
          (((held.erase .aiq).erase .viDev).erase .sys) failed False after)
      (fun _ => True) state := by
  rw [failAiq]
  refine wp_then (aiqStop_at placed ctx aiq) fun _ reached placed => ?_
  exact failVi_at placed (by simp [sys]) (by simp [viDev])

/-- `fail_pipe0`. -/
theorem failPipe0_at
    (placed : At vars held failed stands state) (ctx : vars.aiqCtx = true)
    (sys : Resource.sys ∈ held) (viDev : Resource.viDev ∈ held)
    (aiq : Resource.aiq ∈ held) (venc : Resource.venc .h264 ∈ held)
    (vi : Resource.viChn .main ∈ held) :
    failPipe0.wp
      (fun result after => result = -1 ∧
        At { vars with aiqCtx := false }
          (((((held.erase (.venc .h264)).erase (.viChn .main)).erase .aiq).erase
            .viDev).erase .sys) failed False after)
      (fun _ => True) state := by
  rw [failPipe0]
  refine wp_then (recordPipelineDeinit_at placed venc vi False.elim)
    fun _ reached placed => ?_
  exact failAiq_at placed ctx (by simp [sys]) (by simp [viDev]) (by simp [aiq])

/-- `fail_pipe1`. -/
theorem failPipe1_at
    (placed : At vars held failed stands state) (ctx : vars.aiqCtx = true)
    (sys : Resource.sys ∈ held) (viDev : Resource.viDev ∈ held)
    (aiq : Resource.aiq ∈ held) (venc : Resource.venc .h264 ∈ held)
    (vi : Resource.viChn .main ∈ held)
    (bound : Resource.bound .viVenc ∈ held)
    (mjpeg : Resource.venc .mjpeg ∈ held)
    (self : Resource.viChn .self ∈ held) :
    failPipe1.wp
      (fun result after => result = -1 ∧
        At { vars with aiqCtx := false }
          ((((((((held.erase (.bound .viVenc)).erase (.venc .mjpeg)).erase
            (.viChn .self)).erase (.venc .h264)).erase (.viChn .main)).erase
            .aiq).erase .viDev).erase .sys) failed False after)
      (fun _ => True) state := by
  rw [failPipe1]
  refine wp_then (streamPipelineDeinit_at placed bound mjpeg self False.elim)
    fun _ reached placed => ?_
  exact failPipe0_at placed ctx (by simp [sys]) (by simp [viDev])
    (by simp [aiq]) (by simp [venc]) (by simp [vi])

/-- Which of the producers have been started. -/
structure Started where
  h264 : Bool := false
  mjpeg : Bool := false

/-- The threads that have been started. -/
def Started.resources (started : Started) : Finset Resource :=
  (if started.h264 then {.thread .h264} else ∅) ∪
    (if started.mjpeg then {.thread .mjpeg} else ∅)

/-- Join a thread if it was started, or do nothing. -/
theorem joinIf_at
    {flag : Vars → Bool} {producer : Producer}
    (placed : At vars held failed stands state)
    (sound : flag vars = true ↔ Resource.thread producer ∈ held) :
    (joinIf flag producer).wp
      (fun _ => At vars (held.erase (.thread producer)) failed stands)
      (fun _ => True) state := by
  rw [joinIf, wp_bind, wp_current, placed.vars]
  refine wp_split (fun started => ?_) fun silent => ?_
  · exact perform_release placed rfl (by simp) (sound.mp started)
      fun holds => ⟨holds, by simp [Resource.users]⟩
  · refine placed.cast rfl (Finset.erase_eq_of_notMem fun member => ?_).symm
    exact silent (sound.mpr member)

/-- Whether a producer was started tells whether its thread is there. -/
theorem Started.mem_thread
    (started : Started) (web : WebUp) (osd : OsdUp) :
    (started.h264 = true ↔
      Resource.thread .h264 ∈ started.resources ∪ heldUp web osd) ∧
    (started.mjpeg = true ↔
      Resource.thread .mjpeg ∈ started.resources ∪ heldUp web osd) ∧
    Resource.thread .ivs ∉ started.resources ∪ heldUp web osd := by
  have h264 := @thread_notMem_heldUp .h264 (by decide) web osd
  have mjpeg := @thread_notMem_heldUp .mjpeg (by decide) web osd
  have ivs := @thread_notMem_heldUp .ivs (by decide) web osd
  obtain ⟨first, second⟩ := started
  cases first <;> cases second <;>
    simp [Started.resources, h264, mjpeg, ivs]

/-- What `fail_threads` gives back is all but the overlay and the socket. -/
theorem Started.erase_pipelines
    (started : Started) (web : WebUp) (osd : OsdUp) :
    (started.resources ∪ heldUp web osd) \
        ({.thread .h264, .thread .mjpeg, .thread .ivs} ∪ pipelines) =
      osd.resources ∪ web.resources := by
  obtain ⟨first, second⟩ := started
  cases first <;> cases second <;> cases web <;> cases osd <;> decide +kernel

/-- `fail_threads` takes down all but the overlay and the socket. -/
theorem failThreads_at
    {web : WebUp} {osd : OsdUp} {started : Started} {call : Call}
    (placed : At
      { varsUp web osd with
        h264Started := started.h264
        mjpegStarted := started.mjpeg }
      (started.resources ∪ heldUp web osd) [call] stands state)
    (creates : ∃ producer, call = .threadCreate producer) (enabled : Bool) :
    failThreads.wp (Fails enabled) (fun _ => True) state := by
  obtain ⟨h264, mjpeg, ivs⟩ := started.mem_thread web osd
  have left := started.erase_pipelines web osd
  have has : ∀ resource ∈ pipelines,
      resource ∈ started.resources ∪ heldUp web osd :=
    fun resource member => Finset.mem_union_right _
      (pipelines_subset_heldUp web osd member)
  generalize started.resources ∪ heldUp web osd = all at *
  simp only [pipelines, Finset.mem_insert, Finset.mem_singleton,
    forall_eq_or_imp, forall_eq] at has
  rw [failThreads, wp_bind, setVars, wp_modify]
  have placed := placed.setVars fun vars => { vars with producersRun := false }
  refine wp_then (joinIf_at placed h264) fun _ reached placed => ?_
  refine wp_then (joinIf_at placed (by simpa using mjpeg))
    fun _ reached placed => ?_
  refine wp_then (joinIf_at placed (by
    simp [varsUp, OsdUp.update, WebUp.update, ivs])) fun _ reached placed => ?_
  rw [wp_bind, setVars, wp_modify]
  have placed := placed.setVars fun vars =>
    { vars with
      h264Started := false
      mjpegStarted := false
      ivsStarted := false }
  refine wp_then (motionPipelineDeinit_at placed (by simp [has])
    (by simp [has]) (by simp [has])
    (by simp [has]) False.elim) fun _ reached placed => ?_
  refine wp_mono (failPipe1_at placed rfl (by simp [has])
    (by simp [has]) (by simp [has])
    (by simp [has]) (by simp [has])
    (by simp [has]) (by simp [has])
    (by simp [has])) ?_ fun _ _ => trivial
  rintro result after ⟨negative, placed⟩
  obtain ⟨producer, rfl⟩ := creates
  refine ⟨negative, .threadCreate producer, web, osd, placed.cast rfl ?_⟩
  rw [Call.remains, ← left]
  ext resource
  simp only [pipelines, Finset.mem_erase, Finset.mem_sdiff, Finset.mem_union,
    Finset.mem_insert, Finset.mem_singleton, not_or]
  tauto

/-! ## Going up -/

/-- The producers. -/
def producers : Finset Resource :=
  {.thread .ivs, .thread .mjpeg, .thread .h264}

/-- Everything is up. -/
def Serves (web : WebUp) (osd : OsdUp) : State → Prop :=
  At
    { varsUp web osd with
      h264Started := true
      mjpegStarted := true
      ivsStarted := true }
    (producers ∪ heldUp web osd) [] True

/-- `media_init` has returned. -/
def Inits (enabled : Bool) (result : Int) (state : State) : Prop :=
  (result = 0 ∧ ∃ web osd, Serves web osd state) ∨ Fails enabled result state

theorem failure_threadCreate
    {producer : Producer} (other : producer ≠ .osd) {result : Result}
    (unsuccessful : result ≠ .success) :
    failure (.threadCreate producer) result ++ [] =
      [.threadCreate producer] := by
  simp [failure, unsuccessful, Call.critical, other]

/-- `media_init` fails when a producer cannot be created. -/
theorem failThreads_inits
    (started : Started) {web : WebUp} {osd : OsdUp} {producer : Producer}
    (placed : At
      { varsUp web osd with
        h264Started := started.h264
        mjpegStarted := started.mjpeg }
      (started.resources ∪ heldUp web osd) [.threadCreate producer] True state)
    (enabled : Bool) :
    failThreads.wp (Inits enabled) (fun _ => True) state :=
  wp_mono (failThreads_at placed ⟨producer, rfl⟩ enabled)
    (fun _ _ fails => Or.inr fails) fun _ _ => trivial

/-- The part of `media_init` that starts the last producer. -/
theorem mediaStartIvs_at
    {web : WebUp} {osd : OsdUp}
    (placed : At
      { varsUp web osd with h264Started := true, mjpegStarted := true }
      (Started.resources ⟨true, true⟩ ∪ heldUp web osd) [] True state)
    (enabled : Bool) :
    mediaStartIvs.wp (Inits enabled) (fun _ => True) state := by
  have ivs : Resource.ivs ∈ heldUp web osd :=
    pipelines_subset_heldUp web osd (by decide)
  rw [mediaStartIvs, wp_bind]
  apply attempt_acquire placed (.of rfl (by simp [Call.needs])) rfl
    (by simp [Resource.uses, ivs])
  · intro reached placed
    rw [if_neg (by decide), wp_bind, setVars, wp_modify]
    refine Or.inl ⟨rfl, web, osd, (placed.setVars _).cast rfl ?_⟩
    ext resource
    simp [producers, Started.resources]
    tauto
  · intro result reached unsuccessful placed
    rw [if_pos unsuccessful]
    rw [failure_threadCreate (by decide) unsuccessful] at placed
    exact failThreads_inits ⟨true, true⟩ placed enabled

/-- The stream has a client or none from now on. -/
def WebUp.client (web : WebUp) (connected : Bool) : WebUp :=
  match web with
  | .listening | .connected => if connected then .connected else .listening
  | web => web

theorem heldUp_connected (osd : OsdUp) :
    heldUp .connected osd = insert .client (heldUp .listening osd) := by
  cases osd <;> decide

theorem client_notMem_listening (osd : OsdUp) :
    Resource.client ∉ heldUp .listening osd := by
  cases osd <;> decide

/-- The client of the stream comes or goes. -/
theorem client_at
    {web : WebUp} {osd : OsdUp} {h264 mjpeg ivs : Bool}
    {threads : Finset Resource}
    (placed : At
      { varsUp web osd with
        h264Started := h264
        mjpegStarted := mjpeg
        ivsStarted := ivs }
      (threads ∪ heldUp web osd) [] True state)
    (fresh : Resource.client ∉ threads) (connected : Bool) :
    At
      { varsUp (web.client connected) osd with
        h264Started := h264
        mjpegStarted := mjpeg
        ivsStarted := ivs }
      (threads ∪ heldUp (web.client connected) osd) [] True
      (state.client connected) := by
  have alone : Resource.client ∉ threads ∪ heldUp .listening osd := by
    simp [fresh, client_notMem_listening]
  refine (placed.client connected).cast ?_ ?_
  · cases web <;> cases connected <;> rfl
  · cases web with
    | none => rfl
    | named => rfl
    | listening =>
        cases connected with
        | false => exact Finset.erase_eq_of_notMem alone
        | true =>
            change insert _ _ = _ ∪ heldUp .connected osd
            rw [heldUp_connected, Finset.union_insert]
    | connected =>
        rw [heldUp_connected, Finset.union_insert]
        cases connected with
        | false => exact Finset.erase_insert alone
        | true =>
            change insert _ (insert _ _) = _ ∪ heldUp .connected osd
            rw [heldUp_connected, Finset.union_insert, Finset.insert_idem]

/-- The part of `media_init` that starts the producers. -/
theorem mediaStartProducers_at
    {web : WebUp} {osd : OsdUp}
    (placed : At (varsUp web osd) (heldUp web osd) [] True state)
    (enabled connected : Bool) :
    (mediaStartProducers connected).wp (Inits enabled) (fun _ => True)
      state := by
  have has : ∀ resource ∈ pipelines, resource ∈ heldUp web osd :=
    fun _ member => pipelines_subset_heldUp web osd member
  simp only [pipelines, Finset.mem_insert, Finset.mem_singleton,
    forall_eq_or_imp, forall_eq] at has
  rw [mediaStartProducers, wp_bind]
  apply attempt_acquire placed (.of rfl (by simp [Call.needs])) rfl
    (by simp [Resource.uses, has])
  · intro reached placed
    rw [if_neg (by decide), wp_bind, setVars, wp_modify, wp_bind]
    have placed := placed.setVars fun vars => { vars with h264Started := true }
    apply attempt_acquire placed (.of rfl (by simp [Call.needs])) rfl
      (by simp [Resource.uses, has])
    · intro reached placed
      rw [if_neg (by decide), wp_bind, setVars, wp_modify, wp_bind, wp_modify]
      have placed := placed.setVars fun vars =>
        { vars with mjpegStarted := true }
      have same : insert (Resource.thread .mjpeg)
          (insert (Resource.thread .h264) (heldUp web osd)) =
          Started.resources ⟨true, true⟩ ∪ heldUp web osd := by
        ext resource
        simp [Started.resources]
        tauto
      rw [same] at placed
      exact mediaStartIvs_at (client_at placed (by decide) connected) enabled
    · intro result reached unsuccessful placed
      rw [if_pos unsuccessful]
      have same : insert (Resource.thread .h264) (heldUp web osd) =
          Started.resources ⟨true, false⟩ ∪ heldUp web osd := by
        simp [Started.resources]
      rw [failure_threadCreate (by decide) unsuccessful] at placed
      exact failThreads_inits ⟨true, false⟩ (placed.cast rfl same) enabled
  · intro result reached unsuccessful placed
    rw [if_pos unsuccessful]
    have same : heldUp web osd = Started.resources {} ∪ heldUp web osd := by
      simp [Started.resources]
    rw [failure_threadCreate (by decide) unsuccessful] at placed
    exact failThreads_inits {} (placed.cast rfl same) enabled

/-- `venc_set_framerate`, whose result is not looked at. -/
theorem vencSetFramerate_at
    {chn : VencChn} (placed : At vars held failed stands state)
    (venc : Resource.venc chn ∈ held) :
    (vencSetFramerate chn).wp (fun _ => At vars held failed stands)
      (fun _ => True) state := by
  rw [vencSetFramerate, wp_bind]
  apply attempt_any placed (.of rfl (by simp [Call.needs, venc])) rfl rfl rfl
  intro result reached placed _
  refine wp_split (fun _ => placed) fun _ => ?_
  rw [wp_bind]
  apply attempt_any placed (.of rfl (by simp [Call.needs, venc])) rfl rfl rfl
  intro result reached placed _
  exact wp_split (fun _ => placed) fun _ => placed

/-- The part of `media_init` behind the pipelines. -/
theorem mediaStart_at
    (placed : At { aiqCtx := true } pipelines [] True state)
    (enabled connected : Bool) :
    (mediaStart connected).wp (Inits enabled) (fun _ => True) state := by
  rw [mediaStart]
  refine wp_then (vencSetFramerate_at placed (by decide))
    fun _ reached placed => ?_
  rw [wp_bind, setVars, wp_modify]
  have placed := placed.setVars fun vars => { vars with producersRun := true }
  refine wp_then (webSockSrvInit_at placed rfl rfl (by decide)
    (by decide)) ?_
  rintro _ reached ⟨web, placed⟩
  have has : ∀ resource ∈ pipelines, resource ∈ web.resources ∪ pipelines :=
    fun _ member => Finset.mem_union_right _ member
  have fresh : ∀ resource ∈ OsdUp.running.resources,
      resource ∉ web.resources ∪ pipelines := by
    cases web <;> decide
  refine wp_then (mediaStartOsd_at placed rfl rfl (has _ (by decide))
    (has _ (by decide)) (has _ (by decide)) fresh) ?_
  rintro _ reached ⟨osd, placed⟩
  exact mediaStartProducers_at placed enabled connected

/-- A label of `media_init` is reached after a call has failed, and what is held in the
end is what that call leaves. -/
theorem inits_of_failing
    {enabled : Bool} {program : Media Int} {kept : Finset Resource} {call : Call}
    (fails : program.wp
      (fun result after => result = -1 ∧ At {} kept [call] False after)
      (fun _ => True) state)
    (remains : kept = call.remains enabled .none .none) :
    program.wp (Inits enabled) (fun _ => True) state := by
  refine wp_mono fails ?_ fun _ _ => trivial
  rintro result after ⟨negative, placed⟩
  exact Or.inr ⟨negative, call, .none, .none, placed.cast rfl remains⟩

/-- The part of `media_init` behind the image processor. -/
theorem mediaPipelines_at
    (placed : At { aiqCtx := true } {.aiq, .viDev, .sys} [] True state)
    (enabled connected : Bool) :
    (mediaPipelines connected).wp (Inits enabled) (fun _ => True) state := by
  rw [mediaPipelines]
  refine wp_then (recordPipelineInit_returns placed (by decide) (by decide)) ?_
  rintro _ reached (⟨rfl, placed⟩ | ⟨rfl, call, member, placed⟩)
  · rw [if_neg (by decide)]
    refine wp_then (streamPipelineInit_returns placed (by decide) (by decide)
      (by decide)) ?_
    rintro _ reached (⟨rfl, placed⟩ | ⟨rfl, call, member, placed⟩)
    · rw [if_neg (by decide)]
      refine wp_then (motionPipelineInit_returns placed (by decide) (by decide)
        (by decide) (by decide)) ?_
      rintro _ reached (⟨rfl, placed⟩ | ⟨rfl, call, member, placed⟩)
      · rw [if_neg (by decide)]
        exact mediaStart_at (placed.cast rfl (by decide)) enabled connected
      · rw [if_pos (by decide)]
        refine inits_of_failing (failPipe1_at placed rfl
          (Finset.mem_union_right _ (by decide))
          (Finset.mem_union_right _ (by decide))
          (Finset.mem_union_right _ (by decide))
          (Finset.mem_union_right _ (by decide))
          (Finset.mem_union_right _ (by decide))
          (Finset.mem_union_right _ (by decide))
          (Finset.mem_union_right _ (by decide))
          (Finset.mem_union_right _ (by decide))) ?_
        simp only [List.mem_cons, List.not_mem_nil, or_false] at member
        rcases member with rfl | rfl | rfl | rfl | rfl | rfl <;>
          decide +revert
    · rw [if_pos (by decide)]
      refine inits_of_failing (failPipe0_at placed rfl
        (Finset.mem_union_right _ (by decide))
        (Finset.mem_union_right _ (by decide))
        (Finset.mem_union_right _ (by decide))
        (Finset.mem_union_right _ (by decide))
        (Finset.mem_union_right _ (by decide))) ?_
      simp only [List.mem_cons, List.not_mem_nil, or_false] at member
      rcases member with rfl | rfl | rfl | rfl <;> decide +revert
  · rw [if_pos (by decide)]
    refine inits_of_failing (failAiq_at placed rfl
      (Finset.mem_union_right _ (by decide))
      (Finset.mem_union_right _ (by decide))
      (Finset.mem_union_right _ (by decide))) ?_
    simp only [List.mem_cons, List.not_mem_nil, or_false] at member
    rcases member with rfl | rfl | rfl <;> decide +revert

/-- A new process holds no more than the device. -/
theorem start_at (enabled : Bool) :
    At {} (State.start enabled).held [] True (State.start enabled) where
  vars := rfl
  held := rfl
  failures := rfl
  finds := by
    intro entry member
    cases member
  stands := by
    intro _
    refine ⟨?_, ?_⟩
    · cases enabled <;> decide
    · intro entry member
      cases member

/-- `media_init` brings everything up, or fails in one of its calls. -/
theorem mediaInit_at (enabled connected : Bool) :
    (mediaInit connected).wp (Inits enabled) (fun _ => True)
      (State.start enabled) := by
  rw [mediaInit, wp_bind]
  apply attempt_acquire (start_at enabled) (.of rfl (by simp [Call.needs])) rfl
    (by simp [Resource.uses])
  · intro reached placed
    rw [if_neg (by decide)]
    refine wp_then (viDevInit_returns placed (by simp)) ?_
    rintro _ reached (⟨rfl, placed⟩ | ⟨rfl, call, member, placed⟩)
    · rw [if_neg (by decide)]
      have placed : At {} {.viDev, .sys} [] True reached :=
        placed.cast rfl (by cases enabled <;> decide)
      refine wp_then (aiqInit_returns placed rfl (by decide)) ?_
      rintro _ reached (⟨rfl, placed⟩ | ⟨rfl, call, member, placed⟩)
      · rw [if_neg (by decide)]
        exact mediaPipelines_at placed enabled connected
      · rw [if_pos (by decide)]
        refine inits_of_failing (failVi_at placed
          (Finset.mem_union_right _ (by decide))
          (Finset.mem_union_right _ (by decide))) ?_
        simp only [List.mem_cons, List.not_mem_nil, or_false] at member
        rcases member with rfl | rfl | rfl | rfl <;> cases enabled <;> decide
    · rw [if_pos (by decide)]
      refine inits_of_failing (failSys_at placed
        (Finset.mem_union_right _ (by simp))) ?_
      simp only [List.mem_cons, List.not_mem_nil, or_false] at member
      rcases member with rfl | rfl | rfl <;> cases enabled <;> decide
  · intro result reached unsuccessful placed
    rw [if_pos unsuccessful]
    refine Or.inr ⟨rfl, .sysInit, .none, .none, ?_⟩
    have placed : At {} (State.start enabled).held [.sysInit] True reached := by
      simpa [failure, unsuccessful, Call.critical] using placed
    exact placed.anyway fun absurdity => absurdity.elim

/-- How `media_init` leaves the process: with everything up, or with what the failure
of one call leaves behind. -/
theorem mediaInit_leaves
    (enabled connected : Bool) (script rest : List Result) (result : Int)
    (state : State)
    (returned : (mediaInit connected).run (State.start enabled) script =
      .done result state rest) :
    Finds state.ledger ∧
      ((result = 0 ∧ failures state.ledger = [] ∧
          protocol.Stands state.ledger ∧
          ∃ web osd, state.held = producers ∪ heldUp web osd) ∨
        (result = -1 ∧ ∃ call web osd, failures state.ledger = [call] ∧
          state.held = call.remains enabled web osd)) := by
  have meets := (wp_iff_run _ _ _ _).mp (mediaInit_at enabled connected) script
  rw [returned] at meets
  obtain ⟨rfl, web, osd, serves⟩ | ⟨rfl, call, web, osd, placed⟩ := meets
  · exact ⟨serves.finds, Or.inl ⟨rfl, serves.failures, serves.stands trivial,
      web, osd, serves.held⟩⟩
  · exact ⟨placed.finds, Or.inr ⟨rfl, call, web, osd, placed.failures,
      placed.held⟩⟩

/-- The thread of the preview cannot be created: the overlay's thread goes on. -/
theorem mediaInit_leaves_mjpeg_thread :
    let script := List.replicate 59 Result.success ++
      .failure :: List.replicate 20 .success
    let outcome := (mediaInit true).run (State.start false) script
    outcome.value = some (-1) ∧
      Resource.thread .osd ∈ outcome.state.held ∧
      ∃ call web osd, failures outcome.state.ledger = [call] ∧
        outcome.state.held = call.remains false web osd := by
  intro script outcome
  have value : outcome.value = some (-1) := by decide +kernel
  have running : Resource.thread .osd ∈ outcome.state.held := by decide +kernel
  refine ⟨value, running, ?_⟩
  cases ended : outcome with
  | done result state rest =>
      rw [ended] at value
      obtain rfl := Option.some.inj value
      obtain ⟨-, ⟨zero, -⟩ | ⟨-, left⟩⟩ :=
        mediaInit_leaves false true script rest (-1) state ended
      · exact absurd zero (by decide)
      · exact left
  | halted state =>
      rw [ended] at value
      cases value

end Media
end MotionSense
