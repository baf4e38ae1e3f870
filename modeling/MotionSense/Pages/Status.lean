import MotionSense.Foundations.Transition
import MotionSense.Pages.Live

/-!
# The status card

`app.js` asks for `/api/status` every two seconds while the card can be seen: in the
live view, not in full screen and not in a hidden tab.
-/

namespace MotionSense
namespace Status

/-- What the status card depends on, and the intervals that poll for it. -/
structure Page where
  currentView : Live.View := .live
  /-- There is a `document.fullscreenElement`. -/
  fullscreen : Bool := false
  /-- `document.hidden`. -/
  hidden : Bool
  statusTimer : Option Nat := none
  /-- The intervals that are set and not cleared. -/
  intervals : List Nat := []
  /-- Calls of `setInterval`, each of which gives a new id. -/
  timers : Nat := 0
  /-- For every request, newest first, whether the card could be seen. -/
  requests : List Bool := []
  deriving DecidableEq

namespace Page

variable (page : Page)

/-- `deviceStatusVisible`. -/
def deviceStatusVisible : Bool :=
  !page.fullscreen && !page.hidden && page.currentView = .live

/-- `fetchDeviceStatus`, as far as its request. -/
def fetchDeviceStatus : Page :=
  { page with requests := page.deviceStatusVisible :: page.requests }

/-- `startDeviceStatus`. -/
def startDeviceStatus : Page :=
  if page.statusTimer.isSome then page
  else
    { page.fetchDeviceStatus with
      statusTimer := some page.timers
      intervals := page.intervals ++ [page.timers]
      timers := page.timers + 1 }

/-- `stopDeviceStatus`. -/
def stopDeviceStatus : Page :=
  match page.statusTimer with
  | none => page
  | some timer =>
      { page with
        statusTimer := none
        intervals := page.intervals.erase timer }

/-- `syncDeviceStatusPolling`. -/
def syncDeviceStatusPolling : Page :=
  if page.deviceStatusVisible then page.startDeviceStatus
  else page.stopDeviceStatus

/-- `showView`, as far as the card goes. -/
def showView (view : Live.View) : Page :=
  { page with currentView := view }.syncDeviceStatusPolling

/-- `init`, which shows the live view and then calls `initDeviceStatus`. -/
def load (hidden : Bool) : Page :=
  (showView { hidden } .live).startDeviceStatus

end Page

/-- What the page reacts to. -/
inductive Event
  | showView (view : Live.View)
  | fullscreenchange (fullscreen : Bool)
  | visibilitychange (hidden : Bool)
  /-- An interval comes round. -/
  | tick (timer : Nat)
  deriving DecidableEq

/-- The event is an interval that comes round. -/
def Event.isTick : Event → Bool
  | tick _ => true
  | _ => false

namespace Page

/-- The handler of an event.  An interval that was cleared does not come round. -/
def step (page : Page) : Event → Option Page
  | .showView view => some (page.showView view)
  | .fullscreenchange fullscreen =>
      some { page with fullscreen }.syncDeviceStatusPolling
  | .visibilitychange hidden =>
      some { page with hidden }.syncDeviceStatusPolling
  | .tick timer =>
      if timer ∈ page.intervals then some page.fetchDeviceStatus else none

/-- The requests made while the card could not be seen. -/
def wasted (page : Page) : Nat := page.requests.count false

/-- The browser runs the interval that the page remembers, and no other. -/
def OneInterval (page : Page) : Prop :=
  page.intervals = page.statusTimer.toList

/-- The page polls exactly while the card can be seen, and has wasted a number of
requests. -/
structure Synced (wasted : Nat) (page : Page) : Prop where
  one : page.OneInterval
  polls : page.statusTimer.isSome = page.deviceStatusVisible
  wasted : page.wasted = wasted

variable {page : Page}

theorem OneInterval.start
    (one : page.OneInterval) (visible : page.deviceStatusVisible = true) :
    page.startDeviceStatus.Synced page.wasted := by
  have intervals : page.intervals = page.statusTimer.toList := one
  by_cases polls : page.statusTimer.isSome = true
  · rw [startDeviceStatus, if_pos polls]
    exact ⟨one, polls.trans visible.symm, rfl⟩
  · rw [startDeviceStatus, if_neg polls]
    have none : page.statusTimer = none := by simpa using polls
    refine ⟨?_, visible.symm, ?_⟩
    · change page.intervals ++ [page.timers] = [page.timers]
      rw [intervals, none]
      rfl
    · simp [Page.wasted, fetchDeviceStatus, visible]

theorem OneInterval.stop
    (one : page.OneInterval) (unseen : page.deviceStatusVisible = false) :
    page.stopDeviceStatus.Synced page.wasted := by
  have intervals : page.intervals = page.statusTimer.toList := one
  cases timer : page.statusTimer with
  | none =>
      simp only [stopDeviceStatus, timer]
      refine ⟨one, ?_, rfl⟩
      rw [timer, unseen]
      rfl
  | some id =>
      simp only [stopDeviceStatus, timer]
      rw [timer] at intervals
      refine ⟨?_, unseen.symm, rfl⟩
      simp [OneInterval, intervals]

/-- Whatever the page showed before, it polls afterwards exactly if the card can be
seen. -/
theorem OneInterval.synced
    (one : page.OneInterval) :
    page.syncDeviceStatusPolling.Synced page.wasted := by
  rw [syncDeviceStatusPolling]
  split
  · next visible => exact one.start visible
  · next unseen => exact one.stop (Bool.eq_false_iff.mpr unseen)

/-- Every event but a tick synchronises the polling. -/
theorem OneInterval.step
    (one : page.OneInterval) {event : Event} {next : Page}
    (stepped : page.step event = some next) (other : event.isTick = false) :
    next.Synced page.wasted := by
  cases event with
  | showView view =>
      obtain rfl := Option.some.inj stepped
      exact @OneInterval.synced { page with currentView := view } one
  | fullscreenchange fullscreen =>
      obtain rfl := Option.some.inj stepped
      exact @OneInterval.synced { page with fullscreen } one
  | visibilitychange hidden =>
      obtain rfl := Option.some.inj stepped
      exact @OneInterval.synced { page with hidden } one
  | tick timer => cases other

/-- A tick makes a request, and changes nothing else. -/
theorem eq_of_tick
    {event : Event} {next : Page} (stepped : page.step event = some next)
    (tick : event.isTick = true) :
    next = page.fetchDeviceStatus ∧ page.intervals ≠ [] := by
  cases event with
  | tick timer =>
      simp only [step] at stepped
      split at stepped
      · next set =>
        exact ⟨(Option.some.inj stepped).symm, List.ne_nil_of_mem set⟩
      · cases stepped
  | _ => cases tick

theorem wasted_fetchDeviceStatus (page : Page) :
    page.fetchDeviceStatus.wasted =
      page.wasted + if page.deviceStatusVisible then 0 else 1 := by
  cases visible : page.deviceStatusVisible <;>
    simp [fetchDeviceStatus, wasted, visible]

theorem Synced.step
    {wasted : Nat} (synced : page.Synced wasted) {event : Event} {next : Page}
    (stepped : page.step event = some next) : next.Synced wasted := by
  cases tick : event.isTick with
  | false =>
      rw [← synced.wasted]
      exact synced.one.step stepped tick
  | true =>
      obtain ⟨rfl, set⟩ := eq_of_tick stepped tick
      refine ⟨synced.one, synced.polls, ?_⟩
      have polls : page.statusTimer.isSome = true := by
        rw [Option.isSome_iff_ne_none]
        rintro none
        exact set (by rw [synced.one, none]; rfl)
      rw [wasted_fetchDeviceStatus, ← synced.polls, polls, if_pos rfl,
        synced.wasted, Nat.add_zero]

/-- A run from a page that polls: as long as nothing but ticks comes it goes on, and
with the first other event the polling follows the card. -/
theorem run_of_polling
    (one : page.OneInterval) (polls : page.statusTimer.isSome = true)
    {events : List Event} {final : Page}
    (ran : Transition.runEnabled step page events = some final) :
    final.OneInterval ∧
      (final.statusTimer.isSome = true ↔
        final.deviceStatusVisible = true ∨ events.all Event.isTick = true) ∧
      final.wasted = page.wasted +
        if page.deviceStatusVisible then 0
        else (events.takeWhile Event.isTick).length := by
  induction events generalizing page with
  | nil =>
      obtain rfl := Option.some.inj ran
      exact ⟨one, by simp [polls], by simp⟩
  | cons event events inductionHypothesis =>
      obtain ⟨next, stepped, later⟩ := Transition.runEnabled_cons_eq_some.mp ran
      cases tick : event.isTick with
      | false =>
          have synced : final.Synced page.wasted :=
            Transition.runEnabled_invariant
              (fun _ _ _ stepped synced => synced.step stepped) later
              (one.step stepped tick)
          refine ⟨synced.one, ?_, ?_⟩
          · rw [synced.polls]
            simp [tick]
          · rw [synced.wasted]
            simp [tick]
      | true =>
          obtain ⟨rfl, -⟩ := eq_of_tick stepped tick
          obtain ⟨oneFinal, polling, count⟩ :=
            @inductionHypothesis page.fetchDeviceStatus one polls later
          refine ⟨oneFinal, ?_, ?_⟩
          · rw [polling]
            simp [tick]
          · rw [count, wasted_fetchDeviceStatus]
            change _ + (if page.deviceStatusVisible then _ else _) = _
            cases page.deviceStatusVisible with
            | true => simp
            | false =>
                simp [tick]
                omega

end Page

/-- However the user and the browser go on, the page has one interval at most.  It
polls while the card can be seen and, because `initDeviceStatus` does not look, until
the first event other than a tick.  So the only requests made while the card could not
be seen are those of a page that was loaded in a hidden tab: one at once, and one for
every tick up to that event. -/
theorem polls_while_visible
    (hidden : Bool) (events : List Event) (final : Page)
    (ran : Transition.runEnabled Page.step (Page.load hidden) events =
      some final) :
    final.intervals = final.statusTimer.toList ∧
      (final.statusTimer.isSome = true ↔
        final.deviceStatusVisible = true ∨ events.all Event.isTick = true) ∧
      final.wasted =
        if hidden then 1 + (events.takeWhile Event.isTick).length else 0 := by
  have loaded : (Page.load hidden).OneInterval ∧
      (Page.load hidden).statusTimer.isSome = true := by
    cases hidden <;> exact ⟨rfl, rfl⟩
  obtain ⟨one, polling, count⟩ := Page.run_of_polling loaded.1 loaded.2 ran
  refine ⟨one, polling, ?_⟩
  rw [count]
  cases hidden with
  | false => rfl
  | true => rfl

/-- A page that was loaded in a hidden tab, and then looked at and left. -/
theorem polls_while_visible_background_tab :
    ∃ final, Transition.runEnabled Page.step (Page.load true)
        [.tick 0, .tick 0, .visibilitychange false, .tick 0,
          .showView .calendar] = some final ∧
      final.wasted = 3 ∧ final.statusTimer.isSome = false := by
  refine ⟨_, rfl, ?_⟩
  obtain ⟨-, polling, count⟩ := polls_while_visible true
    [.tick 0, .tick 0, .visibilitychange false, .tick 0, .showView .calendar]
    _ rfl
  exact ⟨count, by rfl⟩

end Status
end MotionSense
