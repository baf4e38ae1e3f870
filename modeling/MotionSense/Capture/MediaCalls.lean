import MotionSense.Capture.Media

/-!
# What the parts of the media do

One lemma for each part of `media_init`, `media_stop` and `media_deinit`, about the
variables, what is held, and the calls so far.
-/

namespace MotionSense
namespace Media

/-! ## Properties of the calls -/

/-- The calls that tune the preview channel, which is not created yet. -/
def Call.premature : Call → Bool
  | vencTune .mjpeg _ => true
  | _ => false

/-- Every call has found what it works on, but for the premature ones, which never
have. -/
def Finds (ledger : Ledger Call Resource) : Prop :=
  ∀ entry ∈ ledger.log,
    entry.Found protocol ↔ entry.call.premature = false

/-- The calls so far that made `media_init` fail. -/
def failures (ledger : Ledger Call Resource) : List Call :=
  (ledger.log.filter fun entry =>
    !entry.succeeded && entry.call.critical).map Protocol.Entry.call

/-- A call among the failures, if it is one. -/
def failure (call : Call) (result : Result) : List Call :=
  if result ≠ .success ∧ call.critical = true then [call] else []

/-- The variables, what is held, and the failures so far.  Every call has found what
it works on, and what was held stands if `stands` holds. -/
structure At (vars : Vars) (held : Finset Resource) (failed : List Call)
    (stands : Prop) (state : State) : Prop where
  vars : state.vars = vars
  held : state.held = held
  failures : failures state.ledger = failed
  finds : Finds state.ledger
  stands : stands → protocol.Stands state.ledger

/-- What rests on a resource. -/
def Resource.users : Resource → List Resource
  | sys =>
      [.viChn .main, .viChn .self, .viChn .bypath, .viChn .bypathSampling,
        .venc .h264, .venc .mjpeg, .ivs, .rgn .h264, .rgn .mjpeg]
  | viDev =>
      [.viChn .main, .viChn .self, .viChn .bypath, .viChn .bypathSampling]
  | viChn .main => [.thread .h264]
  | viChn .self => [.bound .viVenc]
  | viChn .bypath => [.viChn .bypathSampling]
  | viChn .bypathSampling => [.bound .viIvs]
  | venc .h264 => [.overlay .h264, .thread .h264]
  | venc .mjpeg => [.bound .viVenc, .overlay .mjpeg, .thread .mjpeg]
  | ivs => [.bound .viIvs, .thread .ivs]
  | rgn chn => [.overlay chn, .thread .osd]
  | font => [.thread .osd]
  | _ => []

theorem Resource.mem_users (other : Resource) :
    ∀ resource ∈ other.uses, other ∈ resource.users := by
  cases other with
  | viChn chn => cases chn <;> decide
  | venc chn => cases chn <;> decide
  | bound binding => cases binding <;> decide
  | rgn chn => cases chn <;> decide
  | overlay chn => cases chn <;> decide
  | thread producer => cases producer <;> decide
  | _ => decide

/-- The call finds what it works on, unless it is premature. -/
def Fit (held : Finset Resource) (call : Call) : Prop :=
  (∀ resource ∈ call.needs, resource ∈ held) ↔ call.premature = false

instance (held : Finset Resource) (call : Call) : Decidable (Fit held call) :=
  inferInstanceAs (Decidable (_ ↔ _))

/-- The call leaves what is held on its ground. -/
structure Safe (held : Finset Resource) (call : Call) : Prop where
  free : ∀ resource, call.releases = some resource →
    ∀ user ∈ resource.users, user ∉ held
  rests : ∀ resource, call.acquires = some resource →
    call.releases = none ∧ ∀ other ∈ resource.uses, other ∈ held

variable {vars : Vars} {held : Finset Resource} {failed : List Call}
  {stands : Prop} {state : State}

theorem At.record
    (placed : At vars held failed stands state) (call : Call) (result : Result)
    (fit : Fit held call) {after : Prop}
    (safe : after → stands ∧ Safe held call) :
    At vars (protocol.settle held call (result = .success))
      (failure call result ++ failed) after (state.record call result) where
  vars := placed.vars
  held := by
    rw [← placed.held]
    rfl
  failures := by
    rw [← placed.failures]
    simp only [State.record, Protocol.record, Media.failures, failure,
      List.filter_cons]
    by_cases success : result = .success <;>
      cases call.critical <;> simp [success]
  finds := by
    intro entry member
    rcases List.mem_cons.mp member with rfl | earlier
    · rw [← placed.held] at fit
      exact fit
    · exact placed.finds entry earlier
  stands := by
    intro holds
    obtain ⟨before, safe⟩ := safe holds
    rw [← placed.held] at safe
    refine (placed.stands before).record call _ ?_ safe.rests
    intro resource released other kept used
    exact safe.free resource released other
      (other.mem_users resource used) kept

theorem At.setVars
    (placed : At vars held failed stands state) (update : Vars → Vars) :
    At (update vars) held failed stands (state.setVars update) where
  vars := by rw [← placed.vars]; rfl
  held := placed.held
  failures := placed.failures
  finds := placed.finds
  stands := placed.stands

open Program

/-- A call is made at a place. -/
theorem wp_attempt
    (placed : At vars held failed stands state) {call : Call}
    (fit : Fit held call) {after : Prop}
    (safe : after → stands ∧ Safe held call)
    {post : Result → State → Prop}
    (next : ∀ result reached,
      At vars (protocol.settle held call (result = .success))
        (failure call result ++ failed) after reached →
      (result = .success → call.possible held = true) → post result reached) :
    (attempt call).wp post (fun _ => True) state := by
  rw [attempt, wp_bind, wp_answer]
  refine ⟨trivial, fun answer => ?_⟩
  rw [wp_bind, wp_current, wp_bind, wp_modify, wp_pure]
  apply next
  · exact placed.record call _ fit safe
  · intro success
    rw [← placed.held]
    by_contra impossible
    rw [if_neg impossible] at success
    cases success

/-- A call whose result is not looked at. -/
theorem wp_perform
    (placed : At vars held failed stands state) {call : Call}
    (fit : Fit held call) {after : Prop}
    (safe : after → stands ∧ Safe held call)
    (uncritical : call.critical = false) (acquires : call.acquires = none) :
    (perform call).wp
      (fun _ => At vars (protocol.settle held call true) failed after)
      (fun _ => True) state := by
  rw [perform, wp_bind]
  refine wp_attempt placed fit safe fun result reached placed _ => ?_
  have same : protocol.settle held call (result = .success) =
      protocol.settle held call true := by
    have none : protocol.acquires call = none := acquires
    simp only [Protocol.settle, none]
  rw [same, failure, uncritical] at placed
  simpa using placed

/-- The client of the stream comes or goes. -/
theorem At.client
    (placed : At vars held failed stands state) (connected : Bool) :
    At (if vars.webSrvFd then { vars with webSock := connected } else vars)
      (if vars.webSrvFd then
          if connected then insert .client held else held.erase .client
        else held)
      failed stands (state.client connected) := by
  rw [State.client, placed.vars]
  by_cases listening : vars.webSrvFd = true
  · rw [if_pos listening, if_pos listening, if_pos listening]
    refine ⟨rfl, ?_, placed.failures, placed.finds, fun holds => ⟨?_, ?_⟩⟩
    · rw [← placed.held]
    · have grounded := (placed.stands holds).now
      cases connected with
      | true => exact grounded.insert (by simp [protocol, Resource.uses])
      | false =>
          refine grounded.erase fun other _ used => ?_
          have user := other.mem_users .client used
          simp [Resource.users] at user
    · exact (placed.stands holds).before
  · rw [if_neg listening, if_neg listening, if_neg listening]
    exact placed

/-! ## Shapes of calls -/

/-- A call that neither acquires nor gives back. -/
theorem Safe.idle
    {held : Finset Resource} {call : Call} (acquires : call.acquires = none)
    (releases : call.releases = none) : Safe held call where
  free := by
    intro resource released
    rw [releases] at released
    cases released
  rests := by
    intro resource acquired
    rw [acquires] at acquired
    cases acquired

theorem Safe.acquire
    {held : Finset Resource} {call : Call} {resource : Resource}
    (acquires : call.acquires = some resource)
    (rests : ∀ other ∈ resource.uses, other ∈ held) : Safe held call where
  free := by
    intro resource released
    rw [Call.releases_of_acquires acquires] at released
    cases released
  rests := by
    intro acquired same
    obtain rfl := Option.some.inj (acquires.symm.trans same)
    exact ⟨Call.releases_of_acquires acquires, rests⟩

theorem Safe.release
    {held : Finset Resource} {call : Call} {resource : Resource}
    (releases : call.releases = some resource)
    (free : ∀ user ∈ resource.users, user ∉ held) : Safe held call where
  free := by
    intro released same
    obtain rfl := Option.some.inj (releases.symm.trans same)
    exact free
  rests := by
    intro acquired same
    rw [Call.releases_of_acquires same] at releases
    cases releases

theorem Fit.of
    {held : Finset Resource} {call : Call} (ordinary : call.premature = false)
    (found : ∀ resource ∈ call.needs, resource ∈ held) : Fit held call :=
  iff_of_true found ordinary

/-- A call that changes nothing and whose result is not looked at. -/
theorem perform_idle
    (placed : At vars held failed stands state) {call : Call}
    (fit : Fit held call) (uncritical : call.critical = false)
    (acquires : call.acquires = none) (releases : call.releases = none) :
    (perform call).wp (fun _ => At vars held failed stands)
      (fun _ => True) state := by
  have settled : protocol.settle held call true = held := by
    have none : protocol.acquires call = none := acquires
    have kept : protocol.releases call = Option.none := releases
    simp only [Protocol.settle, none, kept]
  have done := @wp_perform _ _ _ _ _ placed call fit stands
    (fun holds => ⟨holds, .idle acquires releases⟩) uncritical acquires
  rwa [settled] at done

/-- A call that gives back what is held. -/
theorem perform_release
    (placed : At vars held failed stands state) {call : Call}
    {resource : Resource} (releases : call.releases = some resource)
    (other : call ≠ .unlink) (has : resource ∈ held) {after : Prop}
    (safe : after → stands ∧ ∀ user ∈ resource.users, user ∉ held) :
    (perform call).wp (fun _ => At vars (held.erase resource) failed after)
      (fun _ => True) state := by
  have acquires : call.acquires = none := by
    cases acquired : call.acquires with
    | none => rfl
    | some taken =>
        rw [Call.releases_of_acquires acquired] at releases
        cases releases
  have uncritical : call.critical = false := by
    rw [Bool.eq_false_iff]
    intro critical
    rw [Call.releases_of_critical critical] at releases
    cases releases
  have fit : Fit held call := by
    refine .of ?_ ?_
    · cases call <;> first | rfl | cases releases
    · rw [Call.needs_of_releases releases other]
      simpa using has
  have settled : protocol.settle held call true = held.erase resource := by
    have none : protocol.acquires call = none := acquires
    have given : protocol.releases call = some resource := releases
    simp only [Protocol.settle, none, given]
  have done := @wp_perform _ _ _ _ _ placed call fit after
    (fun holds => ⟨(safe holds).1, .release releases (safe holds).2⟩)
    uncritical acquires
  rwa [settled] at done

/-- A call that changes nothing and whose result decides. -/
theorem attempt_idle
    (placed : At vars held failed stands state) {call : Call}
    (fit : Fit held call) (acquires : call.acquires = none)
    (releases : call.releases = none)
    {post : Result → State → Prop}
    (succeeded : ∀ reached, At vars held failed stands reached →
      call.possible held = true → post .success reached)
    (other : ∀ result reached, result ≠ .success →
      At vars held (failure call result ++ failed) stands reached →
      post result reached) :
    (attempt call).wp post (fun _ => True) state := by
  apply wp_attempt placed fit fun holds => ⟨holds, .idle acquires releases⟩
  intro result reached placed possible
  have settled : protocol.settle held call (result = .success) = held := by
    have none : protocol.acquires call = none := acquires
    have kept : protocol.releases call = Option.none := releases
    simp only [Protocol.settle, none, kept]
  rw [settled] at placed
  by_cases success : result = .success
  · subst success
    refine succeeded reached ?_ (possible rfl)
    simpa [failure] using placed
  · exact other result reached success placed

/-- A call that changes nothing and whose failure is no failure of `media_init`. -/
theorem attempt_any
    (placed : At vars held failed stands state) {call : Call}
    (fit : Fit held call) (uncritical : call.critical = false)
    (acquires : call.acquires = none) (releases : call.releases = none)
    {post : Result → State → Prop}
    (next : ∀ result reached, At vars held failed stands reached →
      (result = .success → call.possible held = true) → post result reached) :
    (attempt call).wp post (fun _ => True) state := by
  apply attempt_idle placed fit acquires releases
  · exact fun reached placed possible =>
      next .success reached placed fun _ => possible
  · intro result reached failing placed
    refine next result reached ?_ fun success => absurd success failing
    simpa [failure, uncritical] using placed

/-- A call that acquires a resource. -/
theorem attempt_acquire
    (placed : At vars held failed stands state) {call : Call}
    {resource : Resource} (fit : Fit held call)
    (acquires : call.acquires = some resource)
    (rests : ∀ other ∈ resource.uses, other ∈ held)
    {post : Result → State → Prop}
    (succeeded : ∀ reached, At vars (insert resource held) failed stands reached →
      post .success reached)
    (other : ∀ result reached, result ≠ .success →
      At vars held (failure call result ++ failed) stands reached →
      post result reached) :
    (attempt call).wp post (fun _ => True) state := by
  apply wp_attempt placed fit fun holds =>
    ⟨holds, .acquire acquires rests⟩
  intro result reached placed _
  have taken : protocol.acquires call = some resource := acquires
  have kept : protocol.releases call = none :=
    Call.releases_of_acquires acquires
  simp only [Protocol.settle, taken, kept] at placed
  by_cases success : result = .success
  · subst success
    refine succeeded reached ?_
    simpa [failure] using placed
  · refine other result reached success ?_
    simpa [success] using placed

/-- The place is independent of how its parts are written. -/
theorem At.cast
    (placed : At vars held failed stands state) {after : Vars}
    {kept : Finset Resource} (sameVars : vars = after) (sameHeld : held = kept) :
    At after kept failed stands state := by
  rw [← sameVars, ← sameHeld]
  exact placed

/-- Where it stands does not matter any more. -/
theorem At.anyway
    (placed : At vars held failed stands state) {after : Prop}
    (weaker : after → stands) : At vars held failed after state :=
  ⟨placed.vars, placed.held, placed.failures, placed.finds,
    fun holds => placed.stands (weaker holds)⟩

/-! ## The device and the image processor -/

/-- What a call that failed leaves behind, of what was acquired along with it. -/
def Call.leaves : Call → Finset Resource
  | viSetDevBindPipe => {.viDev}
  | vencCreateChn .h264 => {.viChn .main}
  | vencCreateChn .mjpeg => {.viChn .self}
  | sysBind .viVenc => {.viChn .self, .venc .mjpeg}
  | ivsCreateChn => {.viChn .bypath, .viChn .bypathSampling}
  | sysBind .viIvs => {.viChn .bypath, .viChn .bypathSampling, .ivs}
  | _ => ∅

/-- A part of `media_init` has failed in one of some calls. -/
def Gives (vars : Vars) (held : Finset Resource) (failed : List Call)
    (stands : Prop) (calls : List Call) (state : State) : Prop :=
  ∃ call ∈ calls, At vars (call.leaves ∪ held) (call :: failed) stands state

/-- A part of `media_init` has returned: with zero and some more held, or with a
failure. -/
def Returns (vars : Vars) (held : Finset Resource) (failed : List Call)
    (stands : Prop) (next : Vars) (gains : Finset Resource) (calls : List Call)
    (result : Int) (state : State) : Prop :=
  (result = 0 ∧ At next (gains ∪ held) failed stands state) ∨
    (result = -1 ∧ Gives vars held failed stands calls state)

theorem Gives.fail
    {calls : List Call} {call : Call} (member : call ∈ calls) {result : Result}
    {kept : Finset Resource}
    (placed : At vars kept (failure call result ++ failed) stands state)
    (unsuccessful : result ≠ .success) (critical : call.critical = true)
    (leaves : kept = call.leaves ∪ held) :
    Gives vars held failed stands calls state := by
  refine ⟨call, member, ?_⟩
  rw [← leaves]
  simpa [failure, unsuccessful, critical] using placed

theorem Gives.mono
    {fewer more : List Call} (gives : Gives vars held failed stands fewer state)
    (included : fewer ⊆ more) : Gives vars held failed stands more state := by
  obtain ⟨call, member, placed⟩ := gives
  exact ⟨call, included member, placed⟩

theorem viDevEnable_returns
    (placed : At vars held failed stands state) (sys : Resource.sys ∈ held) :
    viDevEnable.wp
      (Returns vars held failed stands vars {.viDev}
        [.viEnableDev, .viSetDevBindPipe])
      (fun _ => True) state := by
  rw [viDevEnable, wp_bind]
  have fit : Fit held .viEnableDev := .of rfl (by simp [Call.needs, sys])
  apply attempt_acquire placed fit rfl (by simp [Resource.uses])
  · intro reached placed
    rw [if_neg (by decide), wp_bind]
    have fit : Fit (insert .viDev held) .viSetDevBindPipe :=
      .of rfl (by simp [Call.needs])
    apply attempt_idle placed fit rfl rfl
    · intro reached placed _
      exact Or.inl ⟨rfl, placed⟩
    · intro result reached failing placed
      rw [if_pos failing]
      exact Or.inr ⟨rfl, Gives.fail (by simp) placed failing rfl rfl⟩
  · intro result reached failing placed
    rw [if_pos failing]
    exact Or.inr ⟨rfl, Gives.fail (by simp) placed failing rfl
      (Finset.empty_union held).symm⟩

/-- `vi_dev_init`. -/
theorem viDevInit_returns
    (placed : At vars held failed stands state) (sys : Resource.sys ∈ held) :
    viDevInit.wp
      (Returns vars held failed stands vars {.viDev}
        [.viSetDevAttr, .viEnableDev, .viSetDevBindPipe])
      (fun _ => True) state := by
  have fits : ∀ call, call.needs = [.sys] → call.premature = false →
      Fit held call := by
    intro call needs ordinary
    refine .of ordinary ?_
    rw [needs]
    simpa using sys
  have onwards : ∀ reached, At vars held failed stands reached →
      (do
        let enabled ← attempt .viGetDevIsEnable
        if enabled ≠ .success then viDevEnable else return 0 : Media Int).wp
      (Returns vars held failed stands vars {.viDev}
        [.viSetDevAttr, .viEnableDev, .viSetDevBindPipe])
      (fun _ => True) reached := by
    intro reached placed
    rw [wp_bind]
    apply attempt_any placed (fits _ rfl rfl) rfl rfl rfl
    intro result reached placed possible
    by_cases disabled : result ≠ .success
    · rw [if_pos disabled]
      refine wp_mono (viDevEnable_returns placed sys) ?_ fun _ _ => trivial
      rintro value after (done | ⟨negative, gives⟩)
      · exact Or.inl done
      · exact Or.inr ⟨negative, gives.mono (by simp)⟩
    · rw [if_neg disabled]
      have enabled : Resource.viDev ∈ held := by
        simpa [Call.possible] using possible (not_not.mp disabled)
      refine Or.inl ⟨rfl, placed.cast rfl ?_⟩
      simp [enabled]
  rw [viDevInit, wp_bind]
  apply attempt_any placed (fits .viGetDevAttr rfl rfl) rfl rfl rfl
  intro result reached placed _
  rw [wp_bind]
  refine wp_split (fun _ => ?_) fun _ => onwards reached placed
  apply attempt_idle placed (fits .viSetDevAttr rfl rfl) rfl rfl
  · exact fun reached placed _ => onwards reached placed
  · intro result reached failing placed
    rw [if_pos failing]
    exact Or.inr ⟨rfl, Gives.fail (by simp) placed failing rfl
      (Finset.empty_union held).symm⟩

/-- A context that is given up leaves nothing. -/
theorem aiqGiveUp_returns
    (call : Call) (placed : At { vars with aiqCtx := true }
      (insert .aiq held) (call :: failed) stands state)
    (noCtx : vars.aiqCtx = false) (fresh : Resource.aiq ∉ held)
    {calls : List Call} (member : call ∈ calls) (leaves : call.leaves = ∅)
    (next : Vars) (gains : Finset Resource) :
    aiqGiveUp.wp (Returns vars held failed stands next gains calls)
      (fun _ => True) state := by
  rw [aiqGiveUp]
  refine wp_then (perform_release placed rfl (by simp)
      (by simp) fun holds => ⟨holds, by simp [Resource.users]⟩)
    fun _ reached placed => ?_
  have left := placed.setVars fun vars => { vars with aiqCtx := false }
  refine Or.inr ⟨rfl, call, member, left.cast ?_ ?_⟩
  · rw [← noCtx]
  · rw [leaves, Finset.empty_union, Finset.erase_insert fresh]

/-- `aiq_init`. -/
theorem aiqInit_returns
    (placed : At vars held failed stands state) (noCtx : vars.aiqCtx = false)
    (fresh : Resource.aiq ∉ held) :
    aiqInit.wp
      (Returns vars held failed stands { vars with aiqCtx := true } {.aiq}
        [.aiqEnumStaticMetas, .aiqInit, .aiqPrepare, .aiqStart])
      (fun _ => True) state := by
  have sameVars : { vars with aiqCtx := false } = vars := by
    rw [← noCtx]
  rw [aiqInit, wp_bind]
  apply attempt_idle placed (.of rfl (by simp [Call.needs])) rfl rfl
  · intro reached placed _
    rw [if_neg (by decide)]
    refine wp_then (perform_idle placed (.of rfl (by simp [Call.needs])) rfl rfl
      rfl) fun _ reached placed => ?_
    rw [wp_bind]
    apply attempt_acquire placed (.of rfl (by simp [Call.needs])) rfl
      (by simp [Resource.uses])
    · intro reached placed
      have placed := placed.setVars fun vars => { vars with aiqCtx := true }
      rw [wp_bind, setVars, wp_modify]
      refine wp_split (fun absurdity => absurd rfl absurdity) fun _ => ?_
      rw [wp_bind]
      apply attempt_idle placed (.of rfl (by simp [Call.needs])) rfl rfl
      · intro reached placed _
        rw [if_neg (by decide), wp_bind]
        apply attempt_idle placed (.of rfl (by simp [Call.needs])) rfl rfl
        · intro reached placed _
          exact Or.inl ⟨rfl, placed⟩
        · intro result reached failing placed
          rw [if_pos failing]
          refine aiqGiveUp_returns .aiqStart ?_ noCtx fresh (by simp) rfl _ _
          simpa [failure, failing, Call.critical] using placed
      · intro result reached failing placed
        rw [if_pos failing]
        refine aiqGiveUp_returns .aiqPrepare ?_ noCtx fresh (by simp) rfl _ _
        simpa [failure, failing, Call.critical] using placed
    · intro result reached failing placed
      have placed := placed.setVars fun vars =>
        { vars with aiqCtx := result = .success }
      rw [wp_bind, setVars, wp_modify]
      refine wp_split (fun _ => ?_) fun absurdity => absurd failing absurdity
      refine Or.inr ⟨rfl, Gives.fail (by simp) (placed.cast ?_ rfl) failing rfl
        (Finset.empty_union held).symm⟩
      simp [failing, sameVars]
  · intro result reached failing placed
    rw [if_pos failing]
    exact Or.inr ⟨rfl, Gives.fail (by simp) placed failing rfl
      (Finset.empty_union held).symm⟩

/-- `aiq_stop`. -/
theorem aiqStop_at
    (placed : At vars held failed stands state) (ctx : vars.aiqCtx = true)
    (has : Resource.aiq ∈ held) :
    aiqStop.wp
      (fun _ => At { vars with aiqCtx := false } (held.erase .aiq) failed stands)
      (fun _ => True) state := by
  rw [aiqStop, wp_bind, wp_current, placed.vars, if_pos ctx, aiqRelease]
  refine wp_then (perform_idle placed (.of rfl (by simp [Call.needs, has])) rfl
    rfl rfl) fun _ reached placed => ?_
  refine wp_then (perform_release placed rfl (by simp)
      (by simp [has]) fun holds => ⟨holds, by simp [Resource.users]⟩)
    fun _ reached placed => ?_
  exact placed.setVars fun vars => { vars with aiqCtx := false }

/-! ## The pipelines -/

/-- The two calls for a VI channel. -/
theorem viChnInit_at
    {chn : ViChn} (placed : At vars held failed stands state)
    (rests : ∀ other ∈ (Resource.viChn chn).uses, other ∈ held) :
    (viChnInit chn).wp
      (fun result after =>
        (result = true ∧
          At vars (insert (.viChn chn) held) failed stands after) ∨
        (result = false ∧ Gives vars held failed stands
          [.viSetChnAttr chn, .viEnableChn chn] after))
      (fun _ => True) state := by
  have viDev : Resource.viDev ∈ held := by
    apply rests
    cases chn <;> simp [Resource.uses]
  rw [viChnInit, wp_bind]
  apply attempt_idle placed (.of rfl (by simp [Call.needs, viDev])) rfl rfl
  · intro reached placed _
    rw [if_neg (by decide), wp_bind]
    apply attempt_acquire placed (.of rfl (by simp [Call.needs, viDev])) rfl
      rests
    · intro reached placed
      exact Or.inl ⟨rfl, placed⟩
    · intro result reached failing placed
      refine Or.inr ⟨decide_eq_false failing, ?_⟩
      exact Gives.fail (by simp) placed failing rfl
        (Finset.empty_union held).symm
  · intro result reached failing placed
    rw [if_pos failing]
    exact Or.inr ⟨rfl, Gives.fail (by simp) placed failing rfl
      (Finset.empty_union held).symm⟩

/-- Tuning a channel changes nothing that is held. -/
theorem tune_at
    {chn : VencChn} (placed : At vars held failed stands state)
    (fit : ∀ setting, Fit held (.vencTune chn setting))
    (settings : List VencSetting) :
    (tune chn settings).wp (fun _ => At vars held failed stands)
      (fun _ => True) state := by
  apply wp_forEach _ settings state placed
  intro setting reached placed
  exact perform_idle placed (fit setting) rfl rfl rfl

/-- `record_pipeline_init`. -/
theorem recordPipelineInit_returns
    (placed : At vars held failed stands state) (sys : Resource.sys ∈ held)
    (viDev : Resource.viDev ∈ held) :
    recordPipelineInit.wp
      (Returns vars held failed stands vars {.viChn .main, .venc .h264}
        [.viSetChnAttr .main, .viEnableChn .main, .vencCreateChn .h264])
      (fun _ => True) state := by
  rw [recordPipelineInit]
  refine wp_then (viChnInit_at placed (by simp [Resource.uses, sys, viDev])) ?_
  rintro _ reached (⟨rfl, placed⟩ | ⟨rfl, gives⟩)
  · rw [if_neg (by decide), wp_bind]
    apply attempt_acquire placed (.of rfl (by simp [Call.needs, sys])) rfl
      (by simp [Resource.uses, sys])
    · intro reached placed
      rw [if_neg (by decide)]
      refine wp_then (tune_at placed (fun setting =>
        .of rfl (by simp [Call.needs])) _) fun _ reached placed => ?_
      refine wp_then (perform_idle placed (.of rfl (by simp [Call.needs])) rfl
        rfl rfl) fun _ reached placed => ?_
      refine Or.inl ⟨rfl, placed.cast rfl ?_⟩
      ext resource
      simp
      tauto
    · intro result reached failing placed
      rw [if_pos failing]
      exact Or.inr ⟨rfl, Gives.fail (by simp) placed failing rfl rfl⟩
  · exact Or.inr ⟨rfl, gives.mono (by simp)⟩

/-- `stream_pipeline_init`. -/
theorem streamPipelineInit_returns
    (placed : At vars held failed stands state) (sys : Resource.sys ∈ held)
    (viDev : Resource.viDev ∈ held) (fresh : Resource.venc .mjpeg ∉ held) :
    streamPipelineInit.wp
      (Returns vars held failed stands vars
        {.viChn .self, .venc .mjpeg, .bound .viVenc}
        [.viSetChnAttr .self, .viEnableChn .self, .vencCreateChn .mjpeg,
          .sysBind .viVenc])
      (fun _ => True) state := by
  rw [streamPipelineInit]
  refine wp_then (viChnInit_at placed (by simp [Resource.uses, sys, viDev])) ?_
  rintro _ reached (⟨rfl, placed⟩ | ⟨rfl, gives⟩)
  · rw [if_neg (by decide)]
    have premature : ∀ setting, Fit (insert (.viChn .self) held)
        (.vencTune .mjpeg setting) := by
      intro setting
      simp [Fit, Call.needs, Call.premature, fresh]
    refine wp_then (tune_at placed premature _) fun _ reached placed => ?_
    rw [wp_bind]
    apply attempt_acquire placed (.of rfl (by simp [Call.needs, sys])) rfl
      (by simp [Resource.uses, sys])
    · intro reached placed
      rw [if_neg (by decide)]
      refine wp_then (perform_idle placed (.of rfl (by simp [Call.needs])) rfl
        rfl rfl) fun _ reached placed => ?_
      rw [wp_bind]
      apply attempt_acquire placed (.of rfl (by simp [Call.needs])) rfl
        (by simp [Resource.uses])
      · intro reached placed
        refine Or.inl ⟨rfl, placed.cast rfl ?_⟩
        ext resource
        simp
        tauto
      · intro result reached failing placed
        rw [if_pos failing]
        refine Or.inr ⟨rfl, Gives.fail (by simp) placed failing rfl ?_⟩
        ext resource
        simp [Call.leaves]
        tauto
    · intro result reached failing placed
      rw [if_pos failing]
      exact Or.inr ⟨rfl, Gives.fail (by simp) placed failing rfl rfl⟩
  · exact Or.inr ⟨rfl, gives.mono (by simp)⟩

/-- The part of `motion_pipeline_init` behind its VI channels. -/
theorem motionIvsInit_returns
    (placed : At vars
      (insert (.viChn .bypathSampling) (insert (.viChn .bypath) held))
      failed stands state)
    (sys : Resource.sys ∈ held) :
    motionIvsInit.wp
      (Returns vars held failed stands vars
        {.viChn .bypath, .viChn .bypathSampling, .ivs, .bound .viIvs}
        [.ivsCreateChn, .sysBind .viIvs])
      (fun _ => True) state := by
  rw [motionIvsInit, wp_bind]
  apply attempt_acquire placed (.of rfl (by simp [Call.needs, sys])) rfl
    (by simp [Resource.uses, sys])
  · intro reached placed
    rw [if_neg (by decide)]
    refine wp_then (perform_idle placed (.of rfl (by simp [Call.needs])) rfl
      rfl rfl) fun _ reached placed => ?_
    refine wp_then (perform_idle placed (.of rfl (by simp [Call.needs])) rfl
      rfl rfl) fun _ reached placed => ?_
    rw [wp_bind]
    apply attempt_acquire placed (.of rfl (by simp [Call.needs])) rfl
      (by simp [Resource.uses])
    · intro reached placed
      refine Or.inl ⟨rfl, placed.cast rfl ?_⟩
      ext resource
      simp
      tauto
    · intro result reached failing placed
      rw [if_pos failing]
      refine Or.inr ⟨rfl, Gives.fail (by simp) placed failing rfl ?_⟩
      ext resource
      simp [Call.leaves]
      tauto
  · intro result reached failing placed
    rw [if_pos failing]
    refine Or.inr ⟨rfl, Gives.fail (by simp) placed failing rfl ?_⟩
    ext resource
    simp [Call.leaves]
    tauto

/-- `motion_pipeline_init`. -/
theorem motionPipelineInit_returns
    (placed : At vars held failed stands state) (sys : Resource.sys ∈ held)
    (viDev : Resource.viDev ∈ held)
    (bypath : Resource.viChn .bypath ∉ held)
    (sampling : Resource.viChn .bypathSampling ∉ held) :
    motionPipelineInit.wp
      (Returns vars held failed stands vars
        {.viChn .bypath, .viChn .bypathSampling, .ivs, .bound .viIvs}
        [.viSetChnAttr .bypath, .viEnableChn .bypath,
          .viSetChnAttr .bypathSampling, .viEnableChn .bypathSampling,
          .ivsCreateChn, .sysBind .viIvs])
      (fun _ => True) state := by
  rw [motionPipelineInit]
  refine wp_then (viChnInit_at placed (by simp [Resource.uses, sys, viDev])) ?_
  rintro _ reached (⟨rfl, placed⟩ | ⟨rfl, gives⟩)
  · rw [if_neg (by decide)]
    refine wp_then (viChnInit_at placed (by simp [Resource.uses, sys, viDev])) ?_
    rintro _ reached (⟨rfl, placed⟩ | ⟨rfl, call, member, placed⟩)
    · rw [if_neg (by decide)]
      refine wp_mono (motionIvsInit_returns placed sys) ?_ fun _ _ => trivial
      rintro result after (done | ⟨negative, gives⟩)
      · exact Or.inl done
      · exact Or.inr ⟨negative, gives.mono (by simp)⟩
    · rw [if_pos (by decide), motionGiveUp]
      have leaves : call.leaves = ∅ := by
        simp only [List.mem_cons, List.not_mem_nil, or_false] at member
        rcases member with rfl | rfl <;> rfl
      rw [leaves, Finset.empty_union] at placed
      refine wp_then (perform_release placed rfl (by simp)
      (by simp) fun holds => ⟨holds, by simp [Resource.users, sampling]⟩)
        fun _ reached placed => ?_
      refine Or.inr ⟨rfl, call, ?_, placed.cast rfl ?_⟩
      · simp only [List.mem_cons, List.not_mem_nil, or_false] at member ⊢
        tauto
      · rw [leaves, Finset.empty_union, Finset.erase_insert bypath]
  · exact Or.inr ⟨rfl, gives.mono (by simp)⟩

/-- `record_pipeline_deinit`. -/
theorem recordPipelineDeinit_at
    (placed : At vars held failed stands state)
    (venc : Resource.venc .h264 ∈ held) (vi : Resource.viChn .main ∈ held)
    {after : Prop}
    (safe : after → stands ∧ Resource.overlay .h264 ∉ held ∧
      Resource.thread .h264 ∉ held) :
    recordPipelineDeinit.wp
      (fun _ => At vars ((held.erase (.venc .h264)).erase (.viChn .main)) failed
        after)
      (fun _ => True) state := by
  rw [recordPipelineDeinit]
  refine wp_then (perform_idle placed (.of rfl (by simp [Call.needs, venc])) rfl
    rfl rfl) fun _ reached placed => ?_
  have unused : after → stands ∧
      ∀ user ∈ (Resource.venc .h264).users, user ∉ held := by
    intro holds
    exact ⟨(safe holds).1, by simp [Resource.users, (safe holds).2]⟩
  refine wp_then (perform_release placed rfl (by simp)
      (by simp [venc]) unused) fun _ reached placed => ?_
  refine perform_release placed rfl (by simp)
      (by simp [vi])
    fun holds => ⟨holds, ?_⟩
  simp [Resource.users, (safe holds).2]

/-- `stream_pipeline_deinit`. -/
theorem streamPipelineDeinit_at
    (placed : At vars held failed stands state)
    (bound : Resource.bound .viVenc ∈ held)
    (venc : Resource.venc .mjpeg ∈ held) (vi : Resource.viChn .self ∈ held)
    {after : Prop}
    (safe : after → stands ∧ Resource.overlay .mjpeg ∉ held ∧
      Resource.thread .mjpeg ∉ held) :
    streamPipelineDeinit.wp
      (fun _ => At vars
        (((held.erase (.bound .viVenc)).erase (.venc .mjpeg)).erase
          (.viChn .self)) failed after)
      (fun _ => True) state := by
  rw [streamPipelineDeinit]
  have unused : after → stands ∧
      ∀ user ∈ (Resource.bound .viVenc).users, user ∉ held := by
    intro holds
    exact ⟨(safe holds).1, by simp [Resource.users]⟩
  refine wp_then (perform_release placed rfl (by simp)
      (by simp [bound]) unused) fun _ reached placed => ?_
  refine wp_then (perform_idle placed (.of rfl (by simp [Call.needs, venc])) rfl
    rfl rfl) fun _ reached placed => ?_
  refine wp_then (perform_release placed rfl (by simp)
      (by simp [venc]) fun holds => ⟨holds, ?_⟩) fun _ reached placed => ?_
  · simp [Resource.users, (safe holds).2]
  · refine perform_release placed rfl (by simp)
      (by simp [vi]) fun holds => ⟨holds, ?_⟩
    simp [Resource.users]

/-- `motion_pipeline_deinit`. -/
theorem motionPipelineDeinit_at
    (placed : At vars held failed stands state)
    (bound : Resource.bound .viIvs ∈ held) (ivs : Resource.ivs ∈ held)
    (sampling : Resource.viChn .bypathSampling ∈ held)
    (bypath : Resource.viChn .bypath ∈ held) {after : Prop}
    (safe : after → stands ∧ Resource.thread .ivs ∉ held) :
    motionPipelineDeinit.wp
      (fun _ => At vars
        ((((held.erase (.bound .viIvs)).erase .ivs).erase
          (.viChn .bypathSampling)).erase (.viChn .bypath)) failed after)
      (fun _ => True) state := by
  rw [motionPipelineDeinit]
  have unused : after → stands ∧
      ∀ user ∈ (Resource.bound .viIvs).users, user ∉ held := by
    intro holds
    exact ⟨(safe holds).1, by simp [Resource.users]⟩
  refine wp_then (perform_release placed rfl (by simp)
      (by simp [bound]) unused) fun _ reached placed => ?_
  refine wp_then (perform_release placed rfl (by simp)
      (by simp [ivs]) fun holds => ⟨holds, ?_⟩) fun _ reached placed => ?_
  · simp [Resource.users, (safe holds).2]
  refine wp_then (perform_release placed rfl (by simp)
      (by simp [sampling]) fun holds => ⟨holds, ?_⟩) fun _ reached placed => ?_
  · simp [Resource.users]
  refine perform_release placed rfl (by simp)
      (by simp [bypath]) fun holds => ⟨holds, ?_⟩
  simp [Resource.users]

/-! ## The overlay and the socket -/

/-- `osd_rgn_create`. -/
theorem osdRgnCreate_at
    {chn : VencChn} (placed : At vars held failed stands state)
    (sys : Resource.sys ∈ held) (venc : Resource.venc chn ∈ held)
    (overlay : Resource.overlay chn ∉ held)
    (thread : Resource.thread .osd ∉ held)
    (fresh : Resource.rgn chn ∉ held) :
    (osdRgnCreate chn).wp
      (fun result after =>
        (result = 0 ∧
          At vars (insert (.overlay chn) (insert (.rgn chn) held)) failed stands
            after) ∨
        (result = -1 ∧ At vars held failed stands after))
      (fun _ => True) state := by
  rw [osdRgnCreate, wp_bind]
  apply attempt_acquire placed (.of rfl (by simp [Call.needs, sys])) rfl
    (by simp [Resource.uses, sys])
  · intro reached placed
    rw [if_neg (by decide), wp_bind]
    apply attempt_acquire placed (.of rfl (by simp [Call.needs, venc])) rfl
      (by simp [Resource.uses, venc])
    · intro reached placed
      exact Or.inl ⟨rfl, placed⟩
    · intro result reached failing placed
      have placed : At vars (insert (.rgn chn) held) failed stands reached := by
        simpa [failure, Call.critical] using placed
      rw [if_pos failing]
      refine wp_then (perform_release placed rfl (by simp)
      (by simp) fun holds => ⟨holds, ?_⟩) fun _ after placed => ?_
      · simp [Resource.users, overlay, thread]
      · refine Or.inr ⟨rfl, ?_⟩
        rwa [Finset.erase_insert fresh] at placed
  · intro result reached failing placed
    rw [if_pos failing]
    refine Or.inr ⟨rfl, ?_⟩
    simpa [failure, Call.critical] using placed

/-- `osd_rgn_destroy`. -/
theorem osdRgnDestroy_at
    {chn : VencChn} (placed : At vars held failed stands state)
    (overlay : Resource.overlay chn ∈ held) (rgn : Resource.rgn chn ∈ held)
    {after : Prop} (safe : after → stands ∧ Resource.thread .osd ∉ held) :
    (osdRgnDestroy chn).wp
      (fun _ => At vars ((held.erase (.overlay chn)).erase (.rgn chn)) failed
        after)
      (fun _ => True) state := by
  rw [osdRgnDestroy]
  have unused : after → stands ∧
      ∀ user ∈ (Resource.overlay chn).users, user ∉ held := by
    intro holds
    exact ⟨(safe holds).1, by simp [Resource.users]⟩
  refine wp_then (perform_release placed rfl (by simp)
      (by simp [overlay]) unused)
    fun _ reached placed => ?_
  refine perform_release placed rfl (by simp)
      (by simp [rgn])
    fun holds => ⟨holds, ?_⟩
  simp [Resource.users, (safe holds).2]

/-- How far `osd_init` and the start of its thread have come. -/
inductive OsdUp
  | none
  /-- The font is there, and not both regions. -/
  | font
  | regions
  | running
  deriving DecidableEq

/-- What is held of the overlay. -/
def OsdUp.resources : OsdUp → Finset Resource
  | none => ∅
  | font => {.font}
  | regions =>
      {.overlay .mjpeg, .rgn .mjpeg, .overlay .h264, .rgn .h264, .font}
  | running =>
      {.thread .osd, .overlay .mjpeg, .rgn .mjpeg, .overlay .h264, .rgn .h264,
        .font}

/-- The variables of the overlay. -/
def OsdUp.update (osd : OsdUp) (vars : Vars) : Vars :=
  { vars with
    osdInited := osd = .regions ∨ osd = .running
    osdStarted := osd = .running }

/-- How far `web_sock_srv_init` and its clients have come. -/
inductive WebUp
  | none
  /-- The name of the socket is there, and nobody listens. -/
  | named
  | listening
  | connected
  deriving DecidableEq

/-- What is held of the socket. -/
def WebUp.resources : WebUp → Finset Resource
  | none => ∅
  | named => {.socketFile}
  | listening => {.server, .socketFile}
  | connected => {.client, .server, .socketFile}

/-- The variables of the socket. -/
def WebUp.update (web : WebUp) (vars : Vars) : Vars :=
  { vars with
    webSock := web = .connected
    webSrvFd := web = .listening ∨ web = .connected }

/-- `osd_init`. -/
theorem osdInit_at
    (placed : At vars held failed stands state) (sys : Resource.sys ∈ held)
    (h264 : Resource.venc .h264 ∈ held) (mjpeg : Resource.venc .mjpeg ∈ held)
    (fresh : ∀ resource ∈ OsdUp.running.resources, resource ∉ held) :
    osdInit.wp
      (fun result after =>
        (result = 0 ∧
          At vars (OsdUp.regions.resources ∪ held) failed stands after) ∨
        (result = -1 ∧ ∃ osd : OsdUp, (osd = .none ∨ osd = .font) ∧
          At vars (osd.resources ∪ held) failed stands after))
      (fun _ => True) state := by
  simp only [OsdUp.resources, Finset.mem_insert, Finset.mem_singleton,
    forall_eq_or_imp, forall_eq] at fresh
  obtain ⟨thread, overlayMjpeg, rgnMjpeg, overlayH264, rgnH264, _⟩ := fresh
  rw [osdInit, wp_bind]
  apply attempt_acquire placed (.of rfl (by simp [Call.needs])) rfl
    (by simp [Resource.uses])
  · intro reached placed
    rw [if_neg (by decide)]
    have fontOnly : ∀ after, At vars (insert .font held) failed stands after →
        ∃ osd : OsdUp, (osd = .none ∨ osd = .font) ∧
          At vars (osd.resources ∪ held) failed stands after :=
      fun after placed => ⟨.font, Or.inr rfl, placed⟩
    refine wp_then (osdRgnCreate_at placed (by simp [sys]) (by simp [h264])
      (by simp [overlayH264]) (by simp [thread]) (by simp [rgnH264])) ?_
    rintro _ reached (⟨rfl, placed⟩ | ⟨rfl, placed⟩)
    · rw [if_neg (by decide)]
      refine wp_then (osdRgnCreate_at placed (by simp [sys]) (by simp [mjpeg])
        (by simp [overlayMjpeg]) (by simp [thread]) (by simp [rgnMjpeg])) ?_
      rintro _ reached (⟨rfl, placed⟩ | ⟨rfl, placed⟩)
      · rw [if_neg (by decide), osdFirstUpload]
        have up : ∀ after, At vars (insert (.overlay .mjpeg)
            (insert (.rgn .mjpeg) (insert (.overlay .h264)
              (insert (.rgn .h264) (insert .font held))))) failed stands after →
            At vars (OsdUp.regions.resources ∪ held) failed stands after := by
          intro after placed
          refine placed.cast rfl ?_
          simp only [OsdUp.resources, Finset.insert_union, Finset.singleton_union]
        refine wp_via
          (fun _ => At vars (OsdUp.regions.resources ∪ held) failed stands)
          ?_ fun _ after placed => Or.inl ⟨rfl, placed⟩
        rw [wp_bind]
        apply attempt_any placed (.of rfl (by simp [Call.needs])) rfl rfl rfl
        intro result reached placed _
        refine wp_split (fun _ => ?_) fun _ => up _ placed
        refine wp_then (perform_idle placed (.of rfl (by simp [Call.needs])) rfl
          rfl rfl) fun _ reached placed => ?_
        refine wp_mono (perform_idle placed (.of rfl (by simp [Call.needs])) rfl
          rfl rfl) (fun _ after placed => up after placed) fun _ _ => trivial
      · rw [if_pos (by decide)]
        refine wp_then (osdRgnDestroy_at placed (by simp) (by simp)
          fun holds => ⟨holds, by simp [thread]⟩) fun _ after placed => ?_
        refine Or.inr ⟨rfl, fontOnly after (placed.cast rfl ?_)⟩
        rw [Finset.erase_insert (by simp [overlayH264]),
          Finset.erase_insert (by simp [rgnH264])]
    · exact Or.inr ⟨rfl, fontOnly _ placed⟩
  · intro result reached failing placed
    rw [if_pos failing]
    refine Or.inr ⟨rfl, .none, Or.inl rfl, ?_⟩
    have placed : At vars held failed stands reached := by
      simpa [failure, Call.critical] using placed
    exact placed.cast rfl (Finset.empty_union held).symm

end Media
end MotionSense
