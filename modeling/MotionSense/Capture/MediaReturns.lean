import MotionSense.Capture.Media
import MotionSense.Foundations.Returns

/-!
# The media calls end

`media.c` has no endless loop around its calls: as long as each call returns,
`media_init`, `media_stop` and `media_deinit` do.
-/

namespace MotionSense
namespace Media

open Program

/-- The program ends after at most so many calls. -/
abbrev CallsAtMost (program : Media α) (most : Nat) : Prop :=
  Program.Returns program most

/-! ## Calls -/

theorem attempt_calls (call : Call) : (attempt call).CallsAtMost 1 :=
  Returns.bindAnswer fun _ => Returns.bindCurrent fun _ =>
    Returns.bindModify (Returns.pure _)

theorem calls_bind
    (few many : Nat) {program : Media α} {rest : α → Media β}
    (first : program.CallsAtMost few)
    (second : ∀ value, (rest value).CallsAtMost many) :
    (program >>= rest).CallsAtMost (few + many) :=
  Returns.bind first second

theorem calls_bindAttempt
    {call : Call} {rest : Result → Media α} {most : Nat}
    (later : ∀ result, (rest result).CallsAtMost most) :
    (attempt call >>= rest).CallsAtMost (most + 1) :=
  Nat.add_comm 1 most ▸ (attempt_calls call).bind later

theorem perform_calls (call : Call) : (perform call).CallsAtMost 1 :=
  calls_bindAttempt fun _ => Returns.pure ()

theorem calls_bindPerform
    {call : Call} {rest : Unit → Media α} {most : Nat}
    (later : (rest ()).CallsAtMost most) :
    (perform call >>= rest).CallsAtMost (most + 1) :=
  Nat.add_comm 1 most ▸ (perform_calls call).bind fun _ => later

theorem calls_bindSetVars
    {update : Vars → Vars} {rest : Unit → Media α} {most : Nat}
    (later : (rest ()).CallsAtMost most) :
    (setVars update >>= rest).CallsAtMost most :=
  Returns.bindModify later

theorem tune_calls (chn : VencChn) (settings : List VencSetting) :
    (tune chn settings).CallsAtMost settings.length := by
  unfold tune
  induction settings with
  | nil => exact Returns.pure ()
  | cons setting settings inductionHypothesis =>
      rw [Program.forEach, List.length_cons]
      exact calls_bindPerform inductionHypothesis

/-! ## The device and the image processor -/

theorem viDevEnable_calls : viDevEnable.CallsAtMost 2 := by
  unfold viDevEnable
  apply calls_bindAttempt
  intro enabled
  apply Returns.ite (Returns.pure _)
  apply calls_bindAttempt
  intro bound
  exact Returns.ite (Returns.pure _) (Returns.pure _)

theorem viDevInit_calls : viDevInit.CallsAtMost 5 := by
  unfold viDevInit
  apply calls_bindAttempt
  intro attr
  refine calls_bind 1 3 ?_ fun configured => ?_
  · exact Returns.ite (attempt_calls _) (Returns.pure _)
  apply Returns.ite (Returns.pure _)
  apply calls_bindAttempt
  intro enabled
  exact Returns.ite viDevEnable_calls (Returns.pure _)

theorem aiqGiveUp_calls : aiqGiveUp.CallsAtMost 1 := by
  unfold aiqGiveUp
  apply calls_bindPerform
  exact calls_bindSetVars (Returns.pure _)

theorem aiqInit_calls : aiqInit.CallsAtMost 6 := by
  unfold aiqInit
  apply calls_bindAttempt
  intro metas
  apply Returns.ite (Returns.pure _)
  apply calls_bindPerform
  apply calls_bindAttempt
  intro ctx
  apply calls_bindSetVars
  apply Returns.ite (Returns.pure _)
  apply calls_bindAttempt
  intro prepared
  apply Returns.ite (aiqGiveUp_calls.mono (by omega))
  apply calls_bindAttempt
  intro started
  exact Returns.ite aiqGiveUp_calls (Returns.pure _)

theorem aiqStop_calls : aiqStop.CallsAtMost 2 := by
  unfold aiqStop
  apply Returns.bindCurrent
  intro state
  refine Returns.ite ?_ (Returns.pure _)
  unfold aiqRelease
  apply calls_bindPerform
  exact calls_bindPerform (Returns.bindModify (Returns.pure _))

theorem vencSetFramerate_calls (chn : VencChn) :
    (vencSetFramerate chn).CallsAtMost 2 := by
  unfold vencSetFramerate
  apply calls_bindAttempt
  intro got
  apply Returns.ite (Returns.pure _)
  apply calls_bindAttempt
  intro set
  exact Returns.ite (Returns.pure _) (Returns.pure _)

/-! ## The pipelines -/

theorem viChnInit_calls (chn : ViChn) : (viChnInit chn).CallsAtMost 2 := by
  unfold viChnInit
  apply calls_bindAttempt
  intro attr
  apply Returns.ite (Returns.pure _)
  exact calls_bindAttempt fun _ => Returns.pure _

theorem recordPipelineInit_calls : recordPipelineInit.CallsAtMost 17 := by
  unfold recordPipelineInit
  refine calls_bind 2 15 (viChnInit_calls _) fun vi => ?_
  apply Returns.ite (Returns.pure _)
  apply calls_bindAttempt
  intro venc
  apply Returns.ite (Returns.pure _)
  refine calls_bind 13 1 (tune_calls _ _) fun _ => ?_
  exact calls_bindPerform (Returns.pure _)

theorem recordPipelineDeinit_calls : recordPipelineDeinit.CallsAtMost 3 :=
  calls_bindPerform (calls_bindPerform (perform_calls _))

theorem motionIvsInit_calls : motionIvsInit.CallsAtMost 4 := by
  unfold motionIvsInit
  apply calls_bindAttempt
  intro ivs
  apply Returns.ite (Returns.pure _)
  apply calls_bindPerform
  apply calls_bindPerform
  apply calls_bindAttempt
  intro bound
  exact Returns.ite (Returns.pure _) (Returns.pure _)

theorem motionPipelineInit_calls : motionPipelineInit.CallsAtMost 8 := by
  unfold motionPipelineInit
  refine calls_bind 2 6 (viChnInit_calls _) fun bypath => ?_
  apply Returns.ite (Returns.pure _)
  refine calls_bind 2 4 (viChnInit_calls _)
    fun sampling => ?_
  refine Returns.ite ?_ motionIvsInit_calls
  exact calls_bindPerform (Returns.pure _)

theorem motionPipelineDeinit_calls : motionPipelineDeinit.CallsAtMost 4 :=
  calls_bindPerform
    (calls_bindPerform (calls_bindPerform (perform_calls _)))

theorem streamPipelineInit_calls : streamPipelineInit.CallsAtMost 8 := by
  unfold streamPipelineInit
  refine calls_bind 2 6 (viChnInit_calls _) fun vi => ?_
  apply Returns.ite (Returns.pure _)
  refine calls_bind 3 3 (tune_calls _ _) fun _ => ?_
  apply calls_bindAttempt
  intro venc
  apply Returns.ite (Returns.pure _)
  apply calls_bindPerform
  apply calls_bindAttempt
  intro bound
  exact Returns.ite (Returns.pure _) (Returns.pure _)

theorem streamPipelineDeinit_calls : streamPipelineDeinit.CallsAtMost 4 :=
  calls_bindPerform
    (calls_bindPerform (calls_bindPerform (perform_calls _)))

/-! ## The overlay and the socket -/

theorem osdRgnCreate_calls (chn : VencChn) :
    (osdRgnCreate chn).CallsAtMost 3 := by
  unfold osdRgnCreate
  apply calls_bindAttempt
  intro created
  apply Returns.ite (Returns.pure _)
  apply calls_bindAttempt
  intro attached
  exact Returns.ite (calls_bindPerform (Returns.pure _)) (Returns.pure _)

theorem osdRgnDestroy_calls (chn : VencChn) :
    (osdRgnDestroy chn).CallsAtMost 2 :=
  calls_bindPerform (perform_calls _)

theorem osdFirstUpload_calls : osdFirstUpload.CallsAtMost 3 := by
  unfold osdFirstUpload
  apply calls_bindAttempt
  intro buf
  refine Returns.ite ?_ (Returns.pure _)
  exact calls_bindPerform (perform_calls _)

theorem osdInit_calls : osdInit.CallsAtMost 10 := by
  unfold osdInit
  apply calls_bindAttempt
  intro font
  apply Returns.ite (Returns.pure _)
  refine calls_bind 3 6 (osdRgnCreate_calls _)
    fun first => ?_
  apply Returns.ite (Returns.pure _)
  refine calls_bind 3 3 (osdRgnCreate_calls _)
    fun second => ?_
  apply Returns.ite
  · refine calls_bind 2 1 (osdRgnDestroy_calls _) fun _ => ?_
    exact Returns.pure _
  · refine calls_bind 3 0 osdFirstUpload_calls fun _ => ?_
    exact Returns.pure _

theorem osdDeinit_calls : osdDeinit.CallsAtMost 5 := by
  unfold osdDeinit
  refine calls_bind 2 3 (osdRgnDestroy_calls _) fun _ => ?_
  exact calls_bind 2 1 (osdRgnDestroy_calls _)
    fun _ => perform_calls _

theorem webSockSrvInit_calls : webSockSrvInit.CallsAtMost 5 := by
  unfold webSockSrvInit
  apply calls_bindPerform
  apply calls_bindAttempt
  intro srv
  apply Returns.ite (Returns.pure _)
  apply calls_bindAttempt
  intro bound
  apply Returns.ite (calls_bindPerform (Returns.pure _))
  apply calls_bindAttempt
  intro listens
  apply Returns.ite (calls_bindPerform (Returns.pure _))
  exact Returns.bindModify (Returns.pure _)

/-! ## Going up -/

theorem failSys_calls : failSys.CallsAtMost 1 :=
  calls_bindPerform (Returns.pure _)

theorem failVi_calls : failVi.CallsAtMost 2 :=
  calls_bindPerform failSys_calls

theorem failAiq_calls : failAiq.CallsAtMost 4 :=
  aiqStop_calls.bind fun _ => failVi_calls

theorem failPipe0_calls : failPipe0.CallsAtMost 7 :=
  recordPipelineDeinit_calls.bind fun _ => failAiq_calls

theorem failPipe1_calls : failPipe1.CallsAtMost 11 :=
  streamPipelineDeinit_calls.bind fun _ => failPipe0_calls

theorem joinIf_calls (started : Vars → Bool) (producer : Producer) :
    (joinIf started producer).CallsAtMost 1 :=
  Returns.bindCurrent fun _ =>
    Returns.ite (perform_calls _) (Returns.pure _)

theorem failThreads_calls : failThreads.CallsAtMost 18 := by
  unfold failThreads
  apply calls_bindSetVars
  refine calls_bind 1 17 (joinIf_calls _ _) fun _ => ?_
  refine calls_bind 1 16 (joinIf_calls _ _) fun _ => ?_
  refine calls_bind 1 15 (joinIf_calls _ _) fun _ => ?_
  apply calls_bindSetVars
  exact calls_bind 4 11 motionPipelineDeinit_calls
    fun _ => failPipe1_calls

theorem mediaStartOsd_calls : mediaStartOsd.CallsAtMost 11 := by
  unfold mediaStartOsd
  refine calls_bind 10 1 osdInit_calls fun osd => ?_
  refine Returns.ite (calls_bindSetVars ?_) (Returns.pure _)
  apply calls_bindAttempt
  intro thread
  exact Returns.ite (Returns.bindModify (Returns.pure _)) (Returns.pure _)

theorem mediaStartIvs_calls : mediaStartIvs.CallsAtMost 19 := by
  unfold mediaStartIvs
  apply calls_bindAttempt
  intro ivs
  apply Returns.ite failThreads_calls
  exact calls_bindSetVars (Returns.pure _)

theorem mediaStartProducers_calls (connected : Bool) :
    (mediaStartProducers connected).CallsAtMost 21 := by
  unfold mediaStartProducers
  apply calls_bindAttempt
  intro h264
  apply Returns.ite (failThreads_calls.mono (by omega))
  apply calls_bindSetVars
  apply calls_bindAttempt
  intro mjpeg
  apply Returns.ite (failThreads_calls.mono (by omega))
  apply calls_bindSetVars
  exact Returns.bindModify mediaStartIvs_calls

theorem mediaStart_calls (connected : Bool) :
    (mediaStart connected).CallsAtMost 39 := by
  unfold mediaStart
  refine calls_bind 2 37 (vencSetFramerate_calls _)
    fun _ => ?_
  apply calls_bindSetVars
  refine calls_bind 5 32 webSockSrvInit_calls fun _ => ?_
  exact calls_bind 11 21 mediaStartOsd_calls
    fun _ => mediaStartProducers_calls connected

theorem mediaPipelines_calls (connected : Bool) :
    (mediaPipelines connected).CallsAtMost 72 := by
  unfold mediaPipelines
  refine calls_bind 17 55 recordPipelineInit_calls
    fun record => ?_
  apply Returns.ite (failAiq_calls.mono (by omega))
  refine calls_bind 8 47 streamPipelineInit_calls
    fun stream => ?_
  apply Returns.ite (failPipe0_calls.mono (by omega))
  refine calls_bind 8 39 motionPipelineInit_calls
    fun motion => ?_
  exact Returns.ite (failPipe1_calls.mono (by omega))
    (mediaStart_calls connected)

/-- `media_init` makes at most eighty-four calls. -/
theorem mediaInit_calls (connected : Bool) :
    (mediaInit connected).CallsAtMost 84 := by
  unfold mediaInit
  apply calls_bindAttempt
  intro sys
  apply Returns.ite (Returns.pure _)
  refine calls_bind 5 78 viDevInit_calls fun vi => ?_
  apply Returns.ite (failSys_calls.mono (by omega))
  refine calls_bind 6 72 aiqInit_calls fun aiq => ?_
  exact Returns.ite (failVi_calls.mono (by omega))
    (mediaPipelines_calls connected)

/-! ## Going down -/

theorem joinAndClear_calls
    (started : Vars → Bool) (producer : Producer) (clear : Vars → Vars) :
    (joinAndClear started producer clear).CallsAtMost 1 :=
  Returns.bindCurrent fun _ => Returns.ite
    (calls_bindPerform (Returns.bindModify (Returns.pure _)))
    (Returns.pure _)

theorem closeClient_calls : closeClient.CallsAtMost 1 :=
  Returns.bindCurrent fun _ => Returns.ite
    (calls_bindPerform (Returns.bindModify (Returns.pure _)))
    (Returns.pure _)

theorem closeServer_calls : closeServer.CallsAtMost 2 :=
  Returns.bindCurrent fun _ => Returns.ite
    (calls_bindPerform (Returns.bindModify (perform_calls _)))
    (Returns.pure _)

theorem mediaStopProducers_calls : mediaStopProducers.CallsAtMost 9 := by
  unfold mediaStopProducers
  apply calls_bindSetVars
  apply calls_bindPerform
  apply calls_bindPerform
  refine calls_bind 1 6 (joinAndClear_calls _ _ _)
    fun _ => ?_
  refine calls_bind 1 5 (joinAndClear_calls _ _ _)
    fun _ => ?_
  refine calls_bind 1 4 (joinAndClear_calls _ _ _)
    fun _ => ?_
  refine calls_bind 1 3 (joinAndClear_calls _ _ _)
    fun _ => ?_
  exact closeClient_calls.bind fun _ => closeServer_calls

theorem mediaStop_calls : mediaStop.CallsAtMost 9 :=
  Returns.bindCurrent fun _ =>
    Returns.ite mediaStopProducers_calls (Returns.pure _)

theorem mediaDeinitOsd_calls : mediaDeinitOsd.CallsAtMost 5 := by
  unfold mediaDeinitOsd
  apply Returns.bindCurrent
  intro state
  refine Returns.ite ?_ (Returns.pure _)
  exact calls_bind 5 0 osdDeinit_calls
    fun _ => Returns.bindModify (Returns.pure _)

/-- `media_deinit` makes at most twenty-nine calls. -/
theorem mediaDeinit_calls : mediaDeinit.CallsAtMost 29 := by
  unfold mediaDeinit
  refine calls_bind 9 20 mediaStop_calls fun _ => ?_
  refine calls_bind 5 15 mediaDeinitOsd_calls fun _ => ?_
  refine calls_bind 4 11 motionPipelineDeinit_calls
    fun _ => ?_
  refine calls_bind 4 7 streamPipelineDeinit_calls
    fun _ => ?_
  refine calls_bind 3 4 recordPipelineDeinit_calls
    fun _ => ?_
  refine calls_bind 2 2 aiqStop_calls fun _ => ?_
  exact calls_bindPerform (perform_calls _)

/-! ## From start to exit -/

theorem mediaLife_calls (early late : Bool) :
    (mediaLife early late).CallsAtMost 122 := by
  unfold mediaLife
  refine calls_bind 84 38 (mediaInit_calls early)
    fun result => ?_
  apply Returns.ite (Returns.pure _)
  apply Returns.bindModify
  refine calls_bind 9 29 mediaStop_calls fun _ => ?_
  exact calls_bind 29 0 mediaDeinit_calls
    fun _ => Returns.pure _

/-- Whatever its calls give back, `media_init` ends. -/
theorem mediaInit_ends
    (connected : Bool) (state : State) (script : List Result)
    (enough : 84 ≤ script.length) :
    ∃ result after rest,
      (mediaInit connected).run state script = .done result after rest :=
  (mediaInit_calls connected).run state enough

/-- Whatever the calls give back, the media are brought up and down. -/
theorem mediaLife_ends
    (early late : Bool) (state : State) (script : List Result)
    (enough : 122 ≤ script.length) :
    ∃ result after rest,
      (mediaLife early late).run state script = .done result after rest :=
  (mediaLife_calls early late).run state enough

end Media
end MotionSense
