import MotionSense.Storage.Disk

/-!
# The live view

`app.js` and `stream.js` on the index page.  Both manage the same image: the one
reconnects it, the other retries it and checks its health with image objects of its
own.  `StreamApp.init` runs again at every return to the live view.
-/

namespace MotionSense

namespace Live

/-- The views of the page. -/
inductive View
  | live
  | calendar
  deriving DecidableEq

/-- The index page once both scripts have run.  Of the two kinds of texts that a
`src` can have, only one begins with the path of the stream. -/
structure Page where
  currentView : View := .live
  /-- The `src` of `streamImage`. -/
  src : CString := "/api/stream".toList
  /-- The `src` of every image object that a health check has made. -/
  checks : List CString := []
  /-- Calls of `setInterval` in `startHealthCheck`. -/
  intervals : Nat := 0
  /-- Pairs of listeners that `initStream` has added. -/
  listeners : Nat := 0
  isStreaming : Bool := false
  retryCount : Nat := 0
  /-- Timeouts that wait to call `retryStream`. -/
  retries : Nat := 0
  /-- Timeouts that wait to set the `src` again, with the text they have kept. -/
  reloads : List CString := []
  reconnectTimer : Bool := false
  lastFrameAt : Option Nat := none
  frameFlowWasDown : Bool := false
  deriving DecidableEq

/-- `maxRetries`. -/
def maxRetries : Nat := 3

/-- A text with a query behind it whose value is `Date.now()`. -/
def stamped (text : CString) (query : String) (now : Nat) : CString :=
  text ++ '?' :: (query.toList ++ '=' :: Nat.toDigits 10 now)

/-- An image with this `src` requests `/api/stream`. -/
def requestsStream (src : CString) : Bool :=
  "/api/stream".toList.isPrefixOf src

namespace Page

variable (page : Page)

/-! ## `stream.js` -/

/-- `StreamApp.init`: `initStream` adds its listeners and starts another health
check. -/
def initStream : Page :=
  { page with
    listeners := page.listeners + 1
    intervals := page.intervals + 1 }

/-- `onStreamSuccess`. -/
def onStreamSuccess : Page :=
  { page with isStreaming := true, retryCount := 0 }

/-- `onStreamError`. -/
def onStreamError : Page :=
  if page.retryCount < maxRetries then
    { page with
      isStreaming := false
      retryCount := page.retryCount + 1
      retries := page.retries + 1 }
  else { page with isStreaming := false }

/-- `retryStream`. -/
def retryStream : Page :=
  if !page.isStreaming then
    { page with src := [], reloads := page.reloads ++ [page.src] }
  else page

/-- The body of the interval of `startHealthCheck`. -/
def healthCheck (now : Nat) : Page :=
  if page.isStreaming then
    { page with checks := page.checks ++ [stamped page.src "health" now] }
  else page

/-! ## `app.js` -/

/-- `showView`, as far as it goes beyond classes and the status card. -/
def showView (view : View) : Page :=
  let page := { page with currentView := view }
  match view with
  | .live => page.initStream
  | .calendar => page

/-- `reconnectStream`. -/
def reconnectStream : Page := { page with reconnectTimer := true }

/-- The timeout of `reconnectStream`. -/
def reconnect (now : Nat) : Page :=
  { page with
    reconnectTimer := false
    src := stamped "/api/stream".toList "t" now
    lastFrameAt := some now }

/-- A frame is long overdue. -/
def overdue (now : Nat) (hidden : Bool) : Bool :=
  match page.lastFrameAt with
  | none => false
  | some last => last ≠ 0 && last + 15000 < now && !hidden

/-- `renderDeviceStatus`, as far as the stream goes. -/
def renderDeviceStatus
    (frameFlow : Option Bool) (now : Nat) (hidden : Bool) : Page :=
  match frameFlow with
  | none => page
  | some flows =>
      let reconnects :=
        flows && page.frameFlowWasDown || flows && page.overdue now hidden
      { page with
        reconnectTimer := page.reconnectTimer || reconnects
        frameFlowWasDown := !flows }

end Page

/-! ## Events -/

/-- What the page reacts to.  Status replies come whenever they like. -/
inductive Event
  | showView (view : View)
  | load (now : Nat)
  | error
  | status (frameFlow : Option Bool) (now : Nat) (hidden : Bool)
  /-- Timeouts and intervals expire. -/
  | reconnect (now : Nat)
  | retry
  | reload (index : Nat) (now : Nat)
  | healthCheck (now : Nat)
  /-- An image object of a health check loads or fails. -/
  | checkLoads (index : Nat)
  | checkFails (index : Nat)
  deriving DecidableEq

namespace Page

/-- The handler of an event, if the event can happen.  `app.js` has added its
listeners to the image first. -/
def step (page : Page) : Event → Option Page
  | .showView view => some (page.showView view)
  | .load now =>
      let page := { page with lastFrameAt := some now }
      some (if 0 < page.listeners then page.onStreamSuccess else page)
  | .error => some (onStreamError^[page.listeners] page.reconnectStream)
  | .status frameFlow now hidden =>
      some (page.renderDeviceStatus frameFlow now hidden)
  | .reconnect now =>
      if page.reconnectTimer then some (page.reconnect now) else none
  | .retry =>
      if 0 < page.retries then
        some { page with retries := page.retries - 1 }.retryStream
      else none
  | .reload index now =>
      page.reloads[index]?.map fun kept =>
        { page with
          src := stamped kept "t" now
          reloads := page.reloads.eraseIdx index }
  | .healthCheck now =>
      if 0 < page.intervals then some (page.healthCheck now) else none
  | .checkLoads index => page.checks[index]?.map fun _ => page
  | .checkFails index => page.checks[index]?.map fun _ => page.onStreamError

/-- The open requests for the stream. -/
def streams (page : Page) : Nat :=
  (page.src :: page.checks).countP requestsStream

/-- The page holds one stream. -/
def OneStream (page : Page) : Prop :=
  page.streams ≤ 1 ∧ page.intervals ≤ 1

instance (page : Page) : Decidable page.OneStream :=
  inferInstanceAs (Decidable (_ ∧ _))

/-- The page holds one stream all the time that the events take. -/
def AlwaysOne : Page → List Event → Prop
  | page, [] => page.OneStream
  | page, event :: events =>
      page.OneStream ∧ ∀ next, page.step event = some next →
        next.AlwaysOne events

/-- The live view is not shown again once a health check has been started, and no
health check expires while the image has a stream. -/
def Careful (page : Page) : Event → Prop
  | .showView view => view = .live → page.intervals = 0
  | .healthCheck _ =>
      ¬(page.isStreaming = true ∧ requestsStream page.src = true)
  | _ => True

/-- All events are careful. -/
def AllCareful : Page → List Event → Prop
  | _, [] => True
  | page, event :: events =>
      ∀ next, page.step event = some next →
        page.Careful event ∧ next.AllCareful events

/-! ## What every event but two leaves alone -/

/-- No image object of a health check has a stream, and there is at most one
interval. -/
structure Quiet (page : Page) : Prop where
  checks : ∀ check ∈ page.checks, requestsStream check = false
  intervals : page.intervals ≤ 1

theorem Quiet.oneStream {page : Page} (quiet : page.Quiet) : page.OneStream := by
  refine ⟨?_, quiet.intervals⟩
  have none : page.checks.countP requestsStream = 0 := by
    rw [List.countP_eq_zero]
    intro check member
    rw [quiet.checks check member]
    exact Bool.false_ne_true
  rw [streams, List.countP_cons, none]
  split_ifs <;> omega

/-- The health checks stay as they are. -/
def SameChecks (before after : Page) : Prop :=
  after.checks = before.checks ∧ after.intervals = before.intervals

theorem Quiet.of_same
    {before after : Page} (quiet : before.Quiet)
    (same : before.SameChecks after) : after.Quiet where
  checks := by
    rw [same.1]
    exact quiet.checks
  intervals := by
    rw [same.2]
    exact quiet.intervals

theorem sameChecks_onStreamError (page : Page) :
    page.SameChecks page.onStreamError := by
  unfold onStreamError
  split_ifs
  · exact ⟨rfl, rfl⟩
  · exact ⟨rfl, rfl⟩

theorem sameChecks_onStreamErrors (times : Nat) (page : Page) :
    page.SameChecks (onStreamError^[times] page) := by
  induction times generalizing page with
  | zero => exact ⟨rfl, rfl⟩
  | succ times inductionHypothesis =>
      rw [Function.iterate_succ_apply]
      have first := sameChecks_onStreamError page
      have later := inductionHypothesis page.onStreamError
      exact ⟨later.1.trans first.1, later.2.trans first.2⟩

/-- Only showing a view and health checks change the health checks. -/
theorem sameChecks_step
    {page next : Page} {event : Event} (steps : page.step event = some next)
    (other : ∀ view, event ≠ .showView view)
    (noCheck : ∀ now, event ≠ .healthCheck now) :
    page.SameChecks next := by
  cases event with
  | showView view => exact absurd rfl (other view)
  | healthCheck now => exact absurd rfl (noCheck now)
  | load now =>
      obtain rfl := Option.some.inj steps
      split_ifs
      · exact ⟨rfl, rfl⟩
      · exact ⟨rfl, rfl⟩
  | error =>
      obtain rfl := Option.some.inj steps
      exact sameChecks_onStreamErrors page.listeners page.reconnectStream
  | status frameFlow now hidden =>
      obtain rfl := Option.some.inj steps
      cases frameFlow with
      | none => exact ⟨rfl, rfl⟩
      | some flows => exact ⟨rfl, rfl⟩
  | reconnect now =>
      obtain ⟨_, happens⟩ := Option.ite_none_right_eq_some.mp steps
      obtain rfl := Option.some.inj happens
      exact ⟨rfl, rfl⟩
  | retry =>
      obtain ⟨_, happens⟩ := Option.ite_none_right_eq_some.mp steps
      obtain rfl := Option.some.inj happens
      unfold retryStream
      split_ifs
      · exact ⟨rfl, rfl⟩
      · exact ⟨rfl, rfl⟩
  | reload index now =>
      obtain ⟨kept, _, rfl⟩ := Option.map_eq_some_iff.mp steps
      exact ⟨rfl, rfl⟩
  | checkLoads index =>
      obtain ⟨check, _, rfl⟩ := Option.map_eq_some_iff.mp steps
      exact ⟨rfl, rfl⟩
  | checkFails index =>
      obtain ⟨check, _, rfl⟩ := Option.map_eq_some_iff.mp steps
      exact sameChecks_onStreamError page

/-! ## The two events that matter -/

/-- What follows a query does not make a stream of a text, nor unmake it. -/
theorem requestsStream_stamped (src : CString) (query : String) (now : Nat) :
    requestsStream (stamped src query now) = requestsStream src := by
  have noQuery : '?' ∉ "/api/stream".toList := by decide
  rw [Bool.eq_iff_iff, requestsStream, requestsStream,
    List.isPrefixOf_iff_prefix, List.isPrefixOf_iff_prefix, stamped]
  constructor
  · intro starts
    rcases List.prefix_or_prefix_of_prefix starts (List.prefix_append src _)
      with done | ⟨missing, whole⟩
    · exact done
    · rw [← whole] at starts noQuery ⊢
      cases missing with
      | nil => rw [List.append_nil]
      | cons char missing =>
          have next := (List.prefix_append_right_inj src).mp starts
          rw [(List.cons_prefix_cons.mp next).1] at noQuery
          exact absurd (by simp) noQuery
  · exact fun starts => starts.trans (List.prefix_append src _)

/-- A health check opens a second stream when the image has one. -/
theorem healthCheck_careful
    {page : Page} (quiet : page.Quiet) (now : Nat) :
    ((page.healthCheck now).OneStream ↔ page.Careful (.healthCheck now)) ∧
      (page.Careful (.healthCheck now) → (page.healthCheck now).Quiet) := by
  unfold healthCheck
  by_cases streaming : page.isStreaming = true
  · rw [if_pos streaming]
    have same := requestsStream_stamped page.src "health" now
    cases source : requestsStream page.src with
    | true =>
        have careless : ¬page.Careful (.healthCheck now) := fun careful =>
          careful ⟨streaming, source⟩
        refine ⟨⟨fun one => ?_, fun careful => absurd careful careless⟩,
          fun careful => absurd careful careless⟩
        have two := one.1
        rw [streams, List.countP_cons_of_pos source, List.countP_append,
          List.countP_singleton, same, if_pos source] at two
        omega
    | false =>
        have careful : page.Careful (.healthCheck now) := fun both =>
          absurd (source.symm.trans both.2) Bool.false_ne_true
        have calm : ({ page with
            checks := page.checks ++ [stamped page.src "health" now] } :
              Page).Quiet := by
          refine ⟨fun check member => ?_, quiet.intervals⟩
          rcases List.mem_append.mp member with earlier | new
          · exact quiet.checks check earlier
          · rw [List.mem_singleton.mp new, same]
            exact source
        exact ⟨⟨fun _ => careful, fun _ => calm.oneStream⟩, fun _ => calm⟩
  · rw [if_neg streaming]
    have careful : page.Careful (.healthCheck now) := fun both =>
      streaming both.1
    exact ⟨⟨fun _ => careful, fun _ => quiet.oneStream⟩, fun _ => quiet⟩

/-- Showing the live view starts another interval. -/
theorem showView_careful
    {page : Page} (quiet : page.Quiet) (view : View) :
    ((page.showView view).OneStream ↔ page.Careful (.showView view)) ∧
      (page.Careful (.showView view) → (page.showView view).Quiet) := by
  cases view with
  | calendar =>
      have same : (page.showView .calendar).Quiet :=
        quiet.of_same ⟨rfl, rfl⟩
      have careful : page.Careful (.showView .calendar) := fun live => by
        cases live
      exact ⟨⟨fun _ => careful, fun _ => same.oneStream⟩, fun _ => same⟩
  | live =>
      have calm : page.Careful (.showView .live) →
          (page.showView .live).Quiet := by
        intro careful
        refine ⟨quiet.checks, ?_⟩
        change page.intervals + 1 ≤ 1
        rw [careful rfl]
      refine ⟨⟨fun one _ => ?_, fun careful => (calm careful).oneStream⟩, calm⟩
      have few : page.intervals + 1 ≤ 1 := one.2
      omega

/-- From a quiet page, an event leaves one stream exactly if it is careful, and
then the page stays quiet. -/
theorem step_careful
    {page next : Page} {event : Event} (quiet : page.Quiet)
    (steps : page.step event = some next) :
    (next.OneStream ↔ page.Careful event) ∧
      (page.Careful event → next.Quiet) := by
  cases event with
  | showView view =>
      obtain rfl := Option.some.inj steps
      exact showView_careful quiet view
  | healthCheck now =>
      obtain ⟨_, happens⟩ := Option.ite_none_right_eq_some.mp steps
      obtain rfl := Option.some.inj happens
      exact healthCheck_careful quiet now
  | _ =>
      have same := quiet.of_same
        (sameChecks_step steps (by rintro _ ⟨⟩) (by rintro _ ⟨⟩))
      exact ⟨⟨fun _ => trivial, fun _ => same.oneStream⟩, fun _ => same⟩

theorem alwaysOne_iff_of_quiet
    {page : Page} (quiet : page.Quiet) (events : List Event) :
    page.AlwaysOne events ↔ page.AllCareful events := by
  induction events generalizing page with
  | nil => exact ⟨fun _ => trivial, fun _ => quiet.oneStream⟩
  | cons event events inductionHypothesis =>
      constructor
      · rintro ⟨_, always⟩ next steps
        have oneStream : next.OneStream := by
          have later := always next steps
          cases events with
          | nil => exact later
          | cons _ _ => exact later.1
        obtain ⟨careful, calm⟩ := step_careful quiet steps
        have isCareful := careful.mp oneStream
        exact ⟨isCareful, (inductionHypothesis (calm isCareful)).mp
          (always next steps)⟩
      · intro every
        refine ⟨quiet.oneStream, fun next steps => ?_⟩
        obtain ⟨isCareful, later⟩ := every next steps
        exact (inductionHypothesis ((step_careful quiet steps).2 isCareful)).mpr
          later

end Page

/-- Whatever happens on the page, it holds one stream and has one health check
all the time exactly if the live view is not shown again once a health check was
started, and no health check expires while the image has a stream. -/
theorem one_stream_iff (events : List Event) :
    Page.AlwaysOne {} events ↔ Page.AllCareful {} events :=
  Page.alwaysOne_iff_of_quiet
    ⟨fun _ member => absurd member List.not_mem_nil, Nat.zero_le 1⟩ events

/-- The user looks at the calendar, returns to the live view, where a frame
arrives and a health check expires, and does so once more. -/
theorem two_streams :
    let events : List Event :=
      [.showView .calendar, .showView .live, .load 1000, .healthCheck 31000,
        .showView .calendar, .showView .live]
    (∃ page, events.foldlM Page.step {} = some page ∧ page.streams = 2 ∧
        page.intervals = 2) ∧
      ¬Page.AlwaysOne {} events := by
  refine ⟨⟨_, rfl, by decide +kernel, rfl⟩, fun always => ?_⟩
  have checked := (((always.2 _ rfl).2 _ rfl).2 _ rfl).2 _ rfl
  exact absurd checked.1 (by decide +kernel)

end Live
end MotionSense
