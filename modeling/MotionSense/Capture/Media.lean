import MotionSense.Capture.Overlay
import MotionSense.Foundations.Ledger
import MotionSense.Foundations.Program

/-!
# Bringing the media up and down

`media_init`, `media_stop` and `media_deinit` of `media.c`, with the pipelines that
they are made of.  A call is logged with its outcome and with what was held when
it was made; a resource is held from the call that acquired it to the one that
gives it back.  The attributes that the calls carry are left out.
-/

namespace MotionSense
namespace Media

/-! ## Calls and resources -/

/-- The VI channels: `VENC_CHN_H264` or main, `VI_PHY_CHN_SELF`,
`VI_PHY_CHN_BYPATH` and `VI_PHY_CHN_BYPATH_SAMPLING`. -/
inductive ViChn
  | main
  | self
  | bypath
  | bypathSampling
  deriving DecidableEq

/-- The bindings of a VI channel to a consumer. -/
inductive Binding
  | viVenc
  | viIvs
  deriving DecidableEq

/-- The threads that `media_init` creates. -/
inductive Producer
  | osd
  | h264
  | mjpeg
  | ivs
  deriving DecidableEq

/-- What the calls acquire. -/
inductive Resource
  | sys
  | viDev
  | aiq
  | viChn (chn : ViChn)
  | venc (chn : VencChn)
  | ivs
  | bound (binding : Binding)
  | font
  /-- A region that is created. -/
  | rgn (chn : VencChn)
  /-- A region that is attached to its channel. -/
  | overlay (chn : VencChn)
  /-- The name of the stream socket in the file system. -/
  | socketFile
  | server
  | client
  | thread (producer : Producer)
  deriving DecidableEq

/-- What an encoder channel is tuned with. -/
inductive VencSetting
  | enableMotionDeblur
  | setMotionDeblurStrength
  | setDeBreathEffect
  | getRcParam
  | setRcParam
  | getAntiRing
  | setAntiRing
  | getAntiLine
  | setAntiLine
  | getLambda
  | setLambda
  | getFilter
  | setFilter
  | setChnParam
  deriving DecidableEq

/-- The calls of `media.c` that reach the hardware, the kernel or the font. -/
inductive Call
  | sysInit
  | sysExit
  | viGetDevAttr
  | viSetDevAttr
  | viGetDevIsEnable
  | viEnableDev
  | viSetDevBindPipe
  | viDisableDev
  | aiqEnumStaticMetas
  | aiqPreInitDevBufCnt
  | aiqInit
  | aiqPrepare
  | aiqStart
  | aiqStop
  | aiqDeinit
  | viSetChnAttr (chn : ViChn)
  | viEnableChn (chn : ViChn)
  | viDisableChn (chn : ViChn)
  | vencCreateChn (chn : VencChn)
  | vencTune (chn : VencChn) (setting : VencSetting)
  | vencGetChnAttr (chn : VencChn)
  | vencSetChnAttr (chn : VencChn)
  | vencStartRecvFrame (chn : VencChn)
  | vencStopRecvFrame (chn : VencChn)
  | vencDestroyChn (chn : VencChn)
  | ivsCreateChn
  | ivsGetMdAttr
  | ivsSetMdAttr
  | ivsDestroyChn
  | sysBind (binding : Binding)
  | sysUnBind (binding : Binding)
  | createFont
  | destroyFont
  | rgnCreate (chn : VencChn)
  | rgnAttachToChn (chn : VencChn)
  | rgnDetachFromChn (chn : VencChn)
  | rgnDestroy (chn : VencChn)
  | rgnSetBitMap (chn : VencChn)
  | calloc
  | unlink
  | socket
  | bind
  | listen
  | closeServer
  | closeClient
  | threadCreate (producer : Producer)
  | threadJoin (producer : Producer)
  deriving DecidableEq

namespace Call

/-- What a call acquires when it succeeds. -/
def acquires : Call → Option Resource
  | sysInit => some .sys
  | viEnableDev => some .viDev
  | aiqInit => some .aiq
  | viEnableChn chn => some (.viChn chn)
  | vencCreateChn chn => some (.venc chn)
  | ivsCreateChn => some .ivs
  | sysBind binding => some (.bound binding)
  | createFont => some .font
  | rgnCreate chn => some (.rgn chn)
  | rgnAttachToChn chn => some (.overlay chn)
  | socket => some .server
  | bind => some .socketFile
  | threadCreate producer => some (.thread producer)
  | _ => none

/-- What a call gives back. -/
def releases : Call → Option Resource
  | sysExit => some .sys
  | viDisableDev => some .viDev
  | aiqDeinit => some .aiq
  | viDisableChn chn => some (.viChn chn)
  | vencDestroyChn chn => some (.venc chn)
  | ivsDestroyChn => some .ivs
  | sysUnBind binding => some (.bound binding)
  | destroyFont => some .font
  | rgnDestroy chn => some (.rgn chn)
  | rgnDetachFromChn chn => some (.overlay chn)
  | unlink => some .socketFile
  | closeServer => some .server
  | closeClient => some .client
  | threadJoin producer => some (.thread producer)
  | _ => none

/-- What a call works on. -/
def needs : Call → List Resource
  | sysExit | viGetDevAttr | viSetDevAttr | viGetDevIsEnable | viEnableDev =>
      [.sys]
  | viSetDevBindPipe | viDisableDev => [.viDev]
  | aiqPrepare | aiqStart | aiqStop | aiqDeinit => [.aiq]
  | viSetChnAttr _ | viEnableChn _ => [.viDev]
  | viDisableChn chn => [.viChn chn]
  | vencCreateChn _ | ivsCreateChn | rgnCreate _ => [.sys]
  | vencTune chn _ | vencGetChnAttr chn | vencSetChnAttr chn
  | vencStartRecvFrame chn | vencStopRecvFrame chn | vencDestroyChn chn =>
      [.venc chn]
  | ivsGetMdAttr | ivsSetMdAttr | ivsDestroyChn => [.ivs]
  | sysBind .viVenc => [.viChn .self, .venc .mjpeg]
  | sysBind .viIvs => [.viChn .bypathSampling, .ivs]
  | sysUnBind binding => [.bound binding]
  | destroyFont => [.font]
  | rgnAttachToChn chn => [.rgn chn, .venc chn]
  | rgnDetachFromChn chn => [.overlay chn]
  | rgnDestroy chn | rgnSetBitMap chn => [.rgn chn]
  | bind | listen | closeServer => [.server]
  | closeClient => [.client]
  | threadJoin producer => [.thread producer]
  | _ => []

/-- `media_init` fails when the call does. -/
def critical : Call → Bool
  | sysInit | viSetDevAttr | viEnableDev | viSetDevBindPipe
  | aiqEnumStaticMetas | aiqInit | aiqPrepare | aiqStart | viSetChnAttr _
  | viEnableChn _ | vencCreateChn _ | ivsCreateChn | sysBind _ => true
  | threadCreate producer => producer ≠ .osd
  | _ => false

/-- No call both acquires and gives back. -/
theorem releases_of_acquires
    {call : Call} {resource : Resource} (acquired : call.acquires = some resource) :
    call.releases = none := by
  cases call <;> simp [acquires, releases] at acquired ⊢

/-- Nothing that `media_init` fails on gives anything back. -/
theorem releases_of_critical
    {call : Call} (fails : call.critical = true) : call.releases = none := by
  cases call <;> simp [critical, releases] at fails ⊢

/-- A call works on what it gives back.  A name is unlinked even if it is not
there. -/
theorem needs_of_releases
    {call : Call} {resource : Resource} (released : call.releases = some resource)
    (other : call ≠ .unlink) : call.needs = [resource] := by
  cases call <;> simp [releases, needs] at released other ⊢ <;> exact released

end Call

/-- What a resource rests on: a channel on its device, a binding on its ends, an
overlay on its region and its channel, and a thread on what it calls.  The bypass
channel has to be started before its sampling channel. -/
def Resource.uses : Resource → List Resource
  | viChn .bypathSampling => [.sys, .viDev, .viChn .bypath]
  | viChn _ => [.sys, .viDev]
  | venc _ => [.sys]
  | ivs => [.sys]
  | bound .viVenc => [.viChn .self, .venc .mjpeg]
  | bound .viIvs => [.viChn .bypathSampling, .ivs]
  | rgn _ => [.sys]
  | overlay chn => [.rgn chn, .venc chn]
  | thread .osd => [.rgn .h264, .rgn .mjpeg, .font]
  | thread .h264 => [.viChn .main, .venc .h264]
  | thread .mjpeg => [.venc .mjpeg]
  | thread .ivs => [.ivs]
  | _ => []

/-- The calls and resources of the media. -/
def protocol : Protocol Call Resource where
  acquires := Call.acquires
  releases := Call.releases
  needs := Call.needs
  uses := Resource.uses

/-! ## State -/

/-- How a call turns out. -/
inductive Result
  | success
  /-- `RK_ERR_VI_NOT_CONFIG`. -/
  | notConfig
  | failure
  deriving DecidableEq

/-- The static variables of `media.c`. -/
structure Vars where
  producersRun : Bool := false
  osdStarted : Bool := false
  h264Started : Bool := false
  mjpegStarted : Bool := false
  ivsStarted : Bool := false
  osdInited : Bool := false
  /-- `s_web_sock >= 0`. -/
  webSock : Bool := false
  /-- `s_web_srv_fd >= 0`. -/
  webSrvFd : Bool := false
  /-- `s_aiq_ctx`. -/
  aiqCtx : Bool := false
  deriving DecidableEq

/-- The variables, what is held, and the calls so far. -/
structure State where
  vars : Vars := {}
  ledger : Ledger Call Resource := {}

/-- A new process.  The VI device may have been left enabled by one before it. -/
def State.start (enabled : Bool) : State where
  ledger := { held := if enabled then {.viDev} else ∅ }

/-- What is held. -/
abbrev State.held (state : State) : Finset Resource := state.ledger.held

/-- Write the variables. -/
def State.setVars (state : State) (update : Vars → Vars) : State :=
  { state with vars := update state.vars }

/-- The stream has a client from now on, or none, if its socket listens. -/
def State.client (state : State) (connected : Bool) : State :=
  if state.vars.webSrvFd then
    { vars := { state.vars with webSock := connected }
      ledger :=
        { state.ledger with
          held :=
            if connected then insert .client state.held
            else state.held.erase .client } }
  else state

/-- A call is made. -/
def State.record (state : State) (call : Call) (result : Result) : State :=
  { state with
    ledger := protocol.record state.ledger call (result = .success) }

end Media

/-- Programs of the media. -/
abbrev Media := Program Media.Result Media.State

namespace Media

/-- Only an enabled device is found to be enabled. -/
def Call.possible (call : Call) (held : Finset Resource) : Bool :=
  call ≠ .viGetDevIsEnable || Resource.viDev ∈ held

/-- Make a call. -/
def attempt (call : Call) : Media Result := do
  let answer ← Program.answer
  let state ← Program.current
  let result := if call.possible state.held then answer else .failure
  Program.modify fun state => state.record call result
  return result

/-- Make a call whose result is not looked at. -/
def perform (call : Call) : Media Unit := do
  let _ ← attempt call

def setVars (update : Vars → Vars) : Media Unit :=
  Program.modify fun state => state.setVars update

/-! ## The device and the image processor -/

/-- The part of `vi_dev_init` for a device that is not enabled. -/
def viDevEnable : Media Int := do
  let enabled ← attempt .viEnableDev
  if enabled ≠ .success then return -1
  let bound ← attempt .viSetDevBindPipe
  if bound ≠ .success then return -1
  return 0

/-- `vi_dev_init`. -/
def viDevInit : Media Int := do
  let attr ← attempt .viGetDevAttr
  let configured ← (
    if attr = .notConfig then attempt .viSetDevAttr else pure .success)
  if configured ≠ .success then return -1
  let enabled ← attempt .viGetDevIsEnable
  if enabled ≠ .success then viDevEnable else return 0

/-- `vi_dev_deinit`. -/
def viDevDeinit : Media Unit :=
  perform .viDisableDev

/-- The part of `aiq_init` that gives a context up. -/
def aiqGiveUp : Media Int := do
  perform .aiqDeinit
  setVars fun vars => { vars with aiqCtx := false }
  return -1

/-- `aiq_init`. -/
def aiqInit : Media Int := do
  let metas ← attempt .aiqEnumStaticMetas
  if metas ≠ .success then return -1
  perform .aiqPreInitDevBufCnt
  let ctx ← attempt .aiqInit
  setVars fun vars => { vars with aiqCtx := ctx = .success }
  if ctx ≠ .success then return -1
  let prepared ← attempt .aiqPrepare
  if prepared ≠ .success then aiqGiveUp
  else
    let started ← attempt .aiqStart
    if started ≠ .success then aiqGiveUp else return 0

/-- The part of `aiq_stop` with a context. -/
def aiqRelease : Media Unit := do
  perform .aiqStop
  perform .aiqDeinit
  setVars fun vars => { vars with aiqCtx := false }

/-- `aiq_stop`. -/
def aiqStop : Media Unit := do
  let state ← Program.current
  if state.vars.aiqCtx then aiqRelease else return ()

/-- `venc_set_framerate`. -/
def vencSetFramerate (chn : VencChn) : Media Int := do
  let got ← attempt (.vencGetChnAttr chn)
  if got ≠ .success then return -1
  let set ← attempt (.vencSetChnAttr chn)
  if set ≠ .success then return -1
  return 0

/-! ## The pipelines -/

/-- `RK_MPI_VI_SetChnAttr` and then `RK_MPI_VI_EnableChn`: both have succeeded. -/
def viChnInit (chn : ViChn) : Media Bool := do
  let attr ← attempt (.viSetChnAttr chn)
  if attr ≠ .success then return false
  let enabled ← attempt (.viEnableChn chn)
  return enabled = .success

/-- Tune a channel; no result is looked at. -/
def tune (chn : VencChn) (settings : List VencSetting) : Media Unit :=
  Program.forEach (fun setting => perform (.vencTune chn setting)) settings

/-- `record_pipeline_init`. -/
def recordPipelineInit : Media Int := do
  let vi ← viChnInit .main
  if !vi then return -1
  let venc ← attempt (.vencCreateChn .h264)
  if venc ≠ .success then return -1
  tune .h264
    [.enableMotionDeblur, .setMotionDeblurStrength, .setDeBreathEffect,
      .getRcParam, .setRcParam, .getAntiRing, .setAntiRing, .getAntiLine,
      .setAntiLine, .getLambda, .setLambda, .getFilter, .setFilter]
  perform (.vencStartRecvFrame .h264)
  return 0

/-- `record_pipeline_deinit`. -/
def recordPipelineDeinit : Media Unit := do
  perform (.vencStopRecvFrame .h264)
  perform (.vencDestroyChn .h264)
  perform (.viDisableChn .main)

/-- The part of `motion_pipeline_init` behind its VI channels. -/
def motionIvsInit : Media Int := do
  let ivs ← attempt .ivsCreateChn
  if ivs ≠ .success then return -1
  perform .ivsGetMdAttr
  perform .ivsSetMdAttr
  let bound ← attempt (.sysBind .viIvs)
  if bound ≠ .success then return -1
  return 0

/-- The part of `motion_pipeline_init` without its sampling channel. -/
def motionGiveUp : Media Int := do
  perform (.viDisableChn .bypath)
  return -1

/-- `motion_pipeline_init`. -/
def motionPipelineInit : Media Int := do
  let bypath ← viChnInit .bypath
  if !bypath then return -1
  let sampling ← viChnInit .bypathSampling
  if !sampling then motionGiveUp else motionIvsInit

/-- `motion_pipeline_deinit`. -/
def motionPipelineDeinit : Media Unit := do
  perform (.sysUnBind .viIvs)
  perform .ivsDestroyChn
  perform (.viDisableChn .bypathSampling)
  perform (.viDisableChn .bypath)

/-- `stream_pipeline_init`. -/
def streamPipelineInit : Media Int := do
  let vi ← viChnInit .self
  if !vi then return -1
  tune .mjpeg [.setChnParam, .getRcParam, .setRcParam]
  let venc ← attempt (.vencCreateChn .mjpeg)
  if venc ≠ .success then return -1
  perform (.vencStartRecvFrame .mjpeg)
  let bound ← attempt (.sysBind .viVenc)
  if bound ≠ .success then return -1
  return 0

/-- `stream_pipeline_deinit`. -/
def streamPipelineDeinit : Media Unit := do
  perform (.sysUnBind .viVenc)
  perform (.vencStopRecvFrame .mjpeg)
  perform (.vencDestroyChn .mjpeg)
  perform (.viDisableChn .self)

/-! ## The overlay and the socket -/

/-- `osd_rgn_create`. -/
def osdRgnCreate (chn : VencChn) : Media Int := do
  let created ← attempt (.rgnCreate chn)
  if created ≠ .success then return -1
  let attached ← attempt (.rgnAttachToChn chn)
  if attached ≠ .success then
    perform (.rgnDestroy chn)
    return -1
  return 0

/-- `osd_rgn_destroy`. -/
def osdRgnDestroy (chn : VencChn) : Media Unit := do
  perform (.rgnDetachFromChn chn)
  perform (.rgnDestroy chn)

/-- The part of `osd_init` that uploads the first picture. -/
def osdFirstUpload : Media Unit := do
  let buf ← attempt .calloc
  if buf = .success then
    perform (.rgnSetBitMap .h264)
    perform (.rgnSetBitMap .mjpeg)

/-- `osd_init`. -/
def osdInit : Media Int := do
  let font ← attempt .createFont
  if font ≠ .success then return -1
  let first ← osdRgnCreate .h264
  if first ≠ 0 then return -1
  let second ← osdRgnCreate .mjpeg
  if second ≠ 0 then
    osdRgnDestroy .h264
    return -1
  osdFirstUpload
  return 0

/-- `osd_deinit`. -/
def osdDeinit : Media Unit := do
  osdRgnDestroy .h264
  osdRgnDestroy .mjpeg
  perform .destroyFont

/-- `web_sock_srv_init`. -/
def webSockSrvInit : Media Unit := do
  perform .unlink
  let srv ← attempt .socket
  if srv ≠ .success then return ()
  let bound ← attempt .bind
  if bound ≠ .success then
    perform .closeServer
    return ()
  let listens ← attempt .listen
  if listens ≠ .success then
    perform .closeServer
    return ()
  setVars fun vars => { vars with webSrvFd := true }

/-! ## Going up -/

/-- `fail_sys`. -/
def failSys : Media Int := do
  perform .sysExit
  return -1

/-- `fail_vi`. -/
def failVi : Media Int := do
  viDevDeinit
  failSys

/-- `fail_aiq`. -/
def failAiq : Media Int := do
  aiqStop
  failVi

/-- `fail_pipe0`. -/
def failPipe0 : Media Int := do
  recordPipelineDeinit
  failAiq

/-- `fail_pipe1`. -/
def failPipe1 : Media Int := do
  streamPipelineDeinit
  failPipe0

/-- Join a thread that was started. -/
def joinIf (started : Vars → Bool) (producer : Producer) : Media Unit := do
  let state ← Program.current
  if started state.vars then perform (.threadJoin producer) else return ()

/-- `fail_threads`.  The overlay's thread is not joined. -/
def failThreads : Media Int := do
  setVars fun vars => { vars with producersRun := false }
  joinIf Vars.h264Started .h264
  joinIf Vars.mjpegStarted .mjpeg
  joinIf Vars.ivsStarted .ivs
  setVars fun vars =>
    { vars with
      h264Started := false
      mjpegStarted := false
      ivsStarted := false }
  motionPipelineDeinit
  failPipe1

/-- The part of `media_init` that starts the overlay. -/
def mediaStartOsd : Media Unit := do
  let osd ← osdInit
  if osd = 0 then
    setVars fun vars => { vars with osdInited := true }
    let thread ← attempt (.threadCreate .osd)
    if thread = .success then
      setVars fun vars => { vars with osdStarted := true }

/-- The part of `media_init` that starts the last producer. -/
def mediaStartIvs : Media Int := do
  let ivs ← attempt (.threadCreate .ivs)
  if ivs ≠ .success then failThreads
  else
    setVars fun vars => { vars with ivsStarted := true }
    return 0

/-- The part of `media_init` that starts the producers.  A client may connect as soon
as `mjpeg_thread` runs. -/
def mediaStartProducers (connected : Bool) : Media Int := do
  let h264 ← attempt (.threadCreate .h264)
  if h264 ≠ .success then failThreads
  else
    setVars fun vars => { vars with h264Started := true }
    let mjpeg ← attempt (.threadCreate .mjpeg)
    if mjpeg ≠ .success then failThreads
    else
      setVars fun vars => { vars with mjpegStarted := true }
      Program.modify fun state => state.client connected
      mediaStartIvs

/-- The part of `media_init` behind the pipelines. -/
def mediaStart (connected : Bool) : Media Int := do
  let _ ← vencSetFramerate .h264
  setVars fun vars => { vars with producersRun := true }
  webSockSrvInit
  mediaStartOsd
  mediaStartProducers connected

/-- The part of `media_init` behind the image processor. -/
def mediaPipelines (connected : Bool) : Media Int := do
  let record ← recordPipelineInit
  if record ≠ 0 then failAiq
  else
    let stream ← streamPipelineInit
    if stream ≠ 0 then failPipe0
    else
      let motion ← motionPipelineInit
      if motion ≠ 0 then failPipe1 else mediaStart connected

/-- `media_init`. -/
def mediaInit (connected : Bool) : Media Int := do
  let sys ← attempt .sysInit
  if sys ≠ .success then return -1
  let vi ← viDevInit
  if vi ≠ 0 then failSys
  else
    let aiq ← aiqInit
    if aiq ≠ 0 then failVi else mediaPipelines connected

/-! ## Going down -/

/-- Join a thread that was started, and note that it is gone. -/
def joinAndClear (started : Vars → Bool) (producer : Producer)
    (clear : Vars → Vars) : Media Unit := do
  let state ← Program.current
  if started state.vars then
    perform (.threadJoin producer)
    setVars clear
  else return ()

/-- The part of `media_stop` that closes the client's socket. -/
def closeClient : Media Unit := do
  let state ← Program.current
  if state.vars.webSock then
    perform .closeClient
    setVars fun vars => { vars with webSock := false }
  else return ()

/-- The part of `media_stop` that closes the listening socket. -/
def closeServer : Media Unit := do
  let state ← Program.current
  if state.vars.webSrvFd then
    perform .closeServer
    setVars fun vars => { vars with webSrvFd := false }
    perform .unlink
  else return ()

/-- The part of `media_stop` for producers that run. -/
def mediaStopProducers : Media Unit := do
  setVars fun vars => { vars with producersRun := false }
  perform (.vencStopRecvFrame .h264)
  perform (.vencStopRecvFrame .mjpeg)
  joinAndClear Vars.osdStarted .osd fun vars => { vars with osdStarted := false }
  joinAndClear Vars.h264Started .h264 fun vars =>
    { vars with h264Started := false }
  joinAndClear Vars.mjpegStarted .mjpeg fun vars =>
    { vars with mjpegStarted := false }
  joinAndClear Vars.ivsStarted .ivs fun vars => { vars with ivsStarted := false }
  closeClient
  closeServer

/-- `media_stop`. -/
def mediaStop : Media Unit := do
  let state ← Program.current
  if state.vars.producersRun then mediaStopProducers else return ()

/-- The part of `media_deinit` that takes the overlay down. -/
def mediaDeinitOsd : Media Unit := do
  let state ← Program.current
  if state.vars.osdInited then
    osdDeinit
    setVars fun vars => { vars with osdInited := false }
  else return ()

/-- `media_deinit`. -/
def mediaDeinit : Media Unit := do
  mediaStop
  mediaDeinitOsd
  motionPipelineDeinit
  streamPipelineDeinit
  recordPipelineDeinit
  aiqStop
  viDevDeinit
  perform .sysExit

/-! ## From start to exit -/

/-- What `main` does with the media.  The stream may have a client early, when
`media_init` has not returned, and late, when `media_stop` is called. -/
def mediaLife (early late : Bool) : Media Int := do
  let result ← mediaInit early
  if result ≠ 0 then return result
  Program.modify fun state => state.client late
  mediaStop
  mediaDeinit
  return 0

end Media
end MotionSense
