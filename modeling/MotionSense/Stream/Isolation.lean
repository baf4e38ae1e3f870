import MotionSense.Stream.Broker

/-!
# Subscribers are served in order and do not disturb each other

Every channel is given the frames published while it was in the map, in order,
less those for which it had no room; and what happens to a channel depends on
the publisher and on its own subscriber only.
-/

namespace MotionSense

namespace Agent

/-! ## One channel -/

/-- The frames offered so far, but for those still to be sent, were each taken
or lost, and the taken ones are received in order. -/
structure Channel.Served
    (channel : Channel) (unsent : List Publication) (published : Nat) :
    Prop where
  ordered : (channel.offered.map Prod.fst).Pairwise (· < ·)
  numbered : ∀ item ∈ channel.offered, item.1 < published
  settled : ∃ settled, channel.offered = settled ++ unsent ∧
    channel.accepted.Sublist settled ∧
    (channel.accepted ++ channel.lost.map Prod.fst).Perm settled
  fifo : channel.accepted =
    channel.received ++ channel.drained ++ channel.pending
  undrained : channel.subscription = .active → channel.drained = []
  bounded : channel.pending.length ≤ channelCapacity
  full : ∀ entry ∈ channel.lost, entry.2 = channelCapacity
  ended : channel.subscription = .ended → channel.pending = []

namespace Channel.Served

variable {channel : Channel} {unsent : List Publication} {published : Nat}

theorem initial (published : Nat) : ({} : Channel).Served [] published where
  ordered := .nil
  numbered := by simp
  settled := ⟨[], rfl, .slnil, .refl _⟩
  fifo := rfl
  undrained := fun _ => rfl
  bounded := by simp
  full := by simp
  ended := by simp

/-- More frames may have been published since. -/
theorem later
    (served : channel.Served unsent published) {now : Nat}
    (grown : published ≤ now) : channel.Served unsent now :=
  { served with
    numbered := fun item offered =>
      (served.numbered item offered).trans_le grown }

/-- The next frame has a greater number than all before. -/
theorem offer
    (served : channel.Served [] published) (frame : Frame) :
    (channel.offer (published, frame)).Served [(published, frame)]
      (published + 1) := by
  obtain ⟨settled, offered, taken, shared⟩ := served.settled
  refine { served with ordered := ?_, numbered := ?_, settled := ?_ }
  · rw [Channel.offer, List.map_append, List.pairwise_append]
    refine ⟨served.ordered, List.pairwise_singleton _ _, ?_⟩
    intro earlier isEarlier last isLast
    obtain ⟨item, listed, rfl⟩ := List.mem_map.mp isEarlier
    obtain rfl := List.mem_singleton.mp isLast
    exact served.numbered item listed
  · intro item listed
    rcases List.mem_append.mp listed with earlier | isLast
    · exact (served.numbered item earlier).trans (Nat.lt_succ_self _)
    · obtain rfl := List.mem_singleton.mp isLast
      exact Nat.lt_succ_self _
  · refine ⟨settled, ?_, taken, shared⟩
    rw [Channel.offer, offered, List.append_nil]

/-- Sending settles a frame: there is room for it or it is lost. -/
theorem send
    {item : Publication} (served : channel.Served [item] published)
    (active : channel.subscription = .active) :
    (channel.send item).Served [] published := by
  obtain ⟨settled, offered, taken, shared⟩ := served.settled
  rw [Channel.send]
  split
  · rename_i room
    refine
      { served with
        settled := ⟨settled ++ [item], by simp [offered],
          taken.append (.refl _), ?_⟩
        fifo := ?_
        bounded := ?_
        ended := ?_ }
    · have swapped := (shared.append_right [item])
      refine .trans ?_ swapped
      rw [List.append_assoc, List.append_assoc]
      exact List.Perm.append_left _ List.perm_append_comm
    · rw [served.fifo, List.append_assoc]
    · rw [List.length_append]
      exact room
    · intro isEnded
      have other : channel.subscription = .ended := isEnded
      rw [active] at other
      contradiction
  · rename_i noRoom
    have isFull : channel.pending.length = channelCapacity :=
      Nat.le_antisymm served.bounded (Nat.le_of_not_lt noRoom)
    refine
      { served with
        settled := ⟨settled ++ [item], by simp [offered],
          taken.trans (List.sublist_append_left _ _), ?_⟩
        full := ?_ }
    · rw [List.map_append, ← List.append_assoc]
      exact shared.append_right _
    · intro entry listed
      rcases List.mem_append.mp listed with earlier | isLast
      · exact served.full entry earlier
      · obtain rfl := List.mem_singleton.mp isLast
        exact isFull

/-- Receiving takes the oldest frame. -/
theorem receive
    (served : channel.Served unsent published)
    (active : channel.subscription = .active) :
    channel.receive.Served unsent published := by
  have undrained := served.undrained active
  rw [Channel.receive]
  split
  · exact served
  · rename_i item pending held
    refine { served with fifo := ?_, bounded := ?_, ended := ?_ }
    · rw [served.fifo, undrained, held]
      simp
    · have bounded := served.bounded
      rw [held, List.length_cons] at bounded
      exact Nat.le_of_succ_le bounded
    · intro isEnded
      have isActive : channel.subscription = .ended := isEnded
      rw [active] at isActive
      contradiction

theorem delete
    (served : channel.Served unsent published) :
    channel.delete.Served unsent published :=
  { served with undrained := nofun, ended := nofun }

/-- Draining drops the oldest frame, and ends with an empty channel. -/
theorem drain
    (served : channel.Served unsent published)
    (draining : channel.subscription = .draining) :
    channel.drain.Served unsent published := by
  rw [Channel.drain]
  split
  · rename_i held
    exact { served with undrained := nofun, ended := fun _ => held }
  · rename_i item pending held
    refine { served with fifo := ?_, undrained := ?_, bounded := ?_, ended := ?_ }
    · rw [served.fifo, held]
      simp
    · intro isActive
      have other : channel.subscription = .active := isActive
      rw [draining] at other
      contradiction
    · have bounded := served.bounded
      rw [held, List.length_cons] at bounded
      exact Nat.le_of_succ_le bounded
    · intro isEnded
      have other : channel.subscription = .ended := isEnded
      rw [draining] at other
      contradiction

end Channel.Served

/-! ## All channels -/

namespace Broker

@[simp] theorem published_update
    (broker : Broker) (channel : Nat) (change : Channel → Channel) :
    (broker.update channel change).published = broker.published := rfl

/-- The frame that is still to be sent to a channel. -/
def unsent (broker : Broker) (channel : Nat) : List Publication :=
  match broker.publisher with
  | .sending item remaining => if channel ∈ remaining then [item] else []
  | _ => []

/-- Where the lock can be taken for writing nothing is being sent. -/
theorem not_sending_of_writable
    {broker : Broker} (writable : broker.writable = true)
    {item : Publication} {remaining : Finset Nat} :
    broker.publisher ≠ .sending item remaining := by
  intro sending
  simp [Broker.writable, sending] at writable

theorem unsent_of_writable
    {broker : Broker} (writable : broker.writable = true) (channel : Nat) :
    broker.unsent channel = [] := by
  rw [unsent]
  split
  · rename_i item remaining sending
    exact absurd sending (not_sending_of_writable writable)
  · rfl

/-- The map holds the active channels, and every channel is served. -/
structure Sound (broker : Broker) : Prop where
  clients : ∀ channel, channel ∈ broker.clients ↔
    broker.subscription channel = some .active
  remaining : ∀ item remaining, broker.publisher = .sending item remaining →
    remaining ⊆ broker.clients
  served : ∀ channel found, broker.channels channel = some found →
    found.Served (broker.unsent channel) broker.published

theorem sound_initial : ({} : Broker).Sound where
  clients := by simp [subscription]
  remaining := nofun
  served := nofun

section

variable {broker next : Broker}

theorem subscription_update
    (broker : Broker) (channel other : Nat) (change : Channel → Channel) :
    (broker.update channel change).subscription other =
      if other = channel then
        (broker.channels channel).map fun found =>
          (change found).subscription
      else broker.subscription other := by
  by_cases same : other = channel
  · subst same
    simp [subscription, update, Option.map_map, Function.comp_def]
  · simp [subscription, update, same]

/-- A change of one channel that keeps it served and says what becomes of its
subscription. -/
theorem Sound.update
    (sound : broker.Sound) {channel : Nat} {change : Channel → Channel}
    (keeps : ∀ found, broker.channels channel = some found →
      (change found).Served (broker.unsent channel) broker.published)
    {clients : Finset Nat}
    (isClient : ∀ other, other ∈ clients ↔
      (broker.update channel change).subscription other = some .active)
    (remaining : ∀ item remaining,
      broker.publisher = .sending item remaining → remaining ⊆ clients) :
    ({ broker.update channel change with clients } : Broker).Sound where
  clients := isClient
  remaining := remaining
  served := by
    intro other found present
    by_cases same : other = channel
    · subst same
      have updated : (broker.channels other).map change = some found := by
        simpa [Broker.update] using present
      obtain ⟨earlier, wasPresent, rfl⟩ := Option.map_eq_some_iff.mp updated
      exact keeps earlier wasPresent
    · refine sound.served other found ?_
      simpa [Broker.update, same] using present

/-- A change that leaves the subscription alone. -/
theorem Sound.update_same
    (sound : broker.Sound) {channel : Nat} {change : Channel → Channel}
    (keeps : ∀ found, broker.channels channel = some found →
      (change found).Served (broker.unsent channel) broker.published)
    (same : ∀ found, broker.channels channel = some found →
      ((change found).subscription = .active ↔
        found.subscription = .active)) :
    (broker.update channel change).Sound := by
  refine sound.update keeps (fun other => ?_) sound.remaining
  rw [sound.clients, subscription_update]
  split
  · rename_i isSame
    subst isSame
    cases present : broker.channels other with
    | none => simp [subscription, present]
    | some found => simp [subscription, present, same found present]
  · rfl

/-- The subscription of a channel that is there. -/
theorem subscription_of_present
    {channel : Nat} {found : Channel}
    (present : broker.channels channel = some found) :
    broker.subscription channel = some found.subscription := by
  rw [subscription, present]
  rfl

theorem Sound.lockForReading
    (sound : broker.Sound) {frame : Frame}
    (touched : broker.publisher = .touched frame) :
    ({ broker with
        publisher := .sending (broker.published, frame) broker.clients
        published := broker.published + 1
        channels := fun channel =>
          if channel ∈ broker.clients then
            (broker.channels channel).map fun found =>
              found.offer (broker.published, frame)
          else broker.channels channel } : Broker).Sound where
  clients := by
    intro channel
    rw [sound.clients]
    simp only [subscription]
    split
    · rw [Option.map_map]
      rfl
    · rfl
  remaining := by
    intro item remaining same
    obtain ⟨_, rfl⟩ := Publisher.sending.inj same
    exact subset_rfl
  served := by
    intro channel found present
    have none : broker.unsent channel = [] := by
      rw [unsent, touched]
    simp only [unsent] at present ⊢
    split at present
    · rename_i isClient
      obtain ⟨earlier, wasPresent, rfl⟩ := Option.map_eq_some_iff.mp present
      have served := sound.served channel earlier wasPresent
      rw [none] at served
      rw [if_pos isClient]
      exact served.offer frame
    · rename_i notClient
      have served := sound.served channel found present
      rw [none] at served
      rw [if_neg notClient]
      exact served.later (Nat.le_succ _)

theorem Sound.send
    (sound : broker.Sound) {channel : Nat} {item : Publication}
    {remaining : Finset Nat}
    (sending : broker.publisher = .sending item remaining)
    (isRemaining : channel ∈ remaining) :
    ({ broker.update channel fun found => found.send item with
        publisher := .sending item (remaining.erase channel) } :
      Broker).Sound where
  clients := by
    intro other
    rw [show ({ broker.update channel fun found => found.send item with
        publisher := .sending item (remaining.erase channel) } :
      Broker).subscription other =
        (broker.update channel fun found =>
          found.send item).subscription other from rfl, subscription_update]
    refine (sound.clients other).trans ?_
    split
    · rename_i isSame
      subst isSame
      cases present : broker.channels other with
      | none => simp [subscription, present]
      | some found =>
          have unchanged : (found.send item).subscription =
              found.subscription := by
            rw [Channel.send]
            split <;> rfl
          simp [subscription, present, unchanged]
    · rfl
  remaining := by
    intro other rest same
    obtain ⟨_, rfl⟩ := Publisher.sending.inj same
    exact (Finset.erase_subset _ _).trans
      (sound.remaining item remaining sending)
  served := by
    intro other found present
    by_cases same : other = channel
    · subst same
      have updated : (broker.channels other).map
          (fun found => found.send item) = some found := by
        simpa [Broker.update] using present
      obtain ⟨earlier, wasPresent, rfl⟩ := Option.map_eq_some_iff.mp updated
      have served := sound.served other earlier wasPresent
      rw [unsent, sending] at served
      simp only [if_pos isRemaining] at served
      have isActive := (sound.clients other).mp
        (sound.remaining item remaining sending isRemaining)
      rw [subscription_of_present wasPresent] at isActive
      have sent := served.send (Option.some.inj isActive)
      rw [published_update]
      simpa [unsent] using sent
    · have served := sound.served other found
        (by simpa [Broker.update, same] using present)
      rw [published_update]
      simpa [unsent, sending, same] using served

/-- A new channel holds nothing. -/
theorem Sound.subscribe
    (sound : broker.Sound) {channel : Nat}
    (unused : broker.channels channel = none)
    (writable : broker.writable = true) :
    ({ broker with
        clients := insert channel broker.clients
        channels := Function.update broker.channels channel (some {}) } :
      Broker).Sound where
  clients := by
    intro other
    rw [Finset.mem_insert, sound.clients]
    by_cases same : other = channel
    · subst same
      simp [subscription]
    · simp [subscription, same]
  remaining := fun _ _ sending =>
    absurd sending (not_sending_of_writable writable)
  served := by
    intro other found present
    have nothing : broker.unsent other = [] := unsent_of_writable writable other
    change found.Served (broker.unsent other) broker.published
    rw [nothing]
    by_cases same : other = channel
    · subst same
      obtain rfl : ({} : Channel) = found := by simpa using present
      exact .initial _
    · rw [← nothing]
      exact sound.served other found (by simpa [same] using present)

/-- A channel that leaves the map is no longer active. -/
theorem Sound.delete
    (sound : broker.Sound) {channel : Nat}
    (active : broker.subscription channel = some .active)
    (writable : broker.writable = true) :
    ({ broker.update channel Channel.delete with
        clients := broker.clients.erase channel } : Broker).Sound := by
  refine sound.update (fun found present =>
    (sound.served channel found present).delete) (fun other => ?_)
    fun _ _ sending => absurd sending (not_sending_of_writable writable)
  rw [Finset.mem_erase, sound.clients, subscription_update]
  by_cases same : other = channel
  · subst same
    simp [Channel.delete]
  · simp [same]

theorem Sound.step
    (sound : broker.Sound) {event : BrokerEvent}
    (stepped : broker.step event = some next) : next.Sound := by
  cases event with
  | touch frame now =>
      rw [Broker.step] at stepped
      split at stepped
      · rename_i idle
        obtain rfl := Option.some.inj stepped
        refine ⟨sound.clients, nofun, fun channel found present => ?_⟩
        have served := sound.served channel found present
        rw [unsent, idle] at served
        exact served
      · contradiction
  | lockForReading =>
      rw [Broker.step] at stepped
      split at stepped
      · rename_i frame touched
        obtain rfl := Option.some.inj stepped
        exact sound.lockForReading touched
      · contradiction
  | send channel =>
      rw [Broker.step] at stepped
      split at stepped
      · rename_i item remaining sending
        split at stepped
        · rename_i isRemaining
          obtain rfl := Option.some.inj stepped
          exact sound.send sending isRemaining
        · contradiction
      · contradiction
  | unlock =>
      rw [Broker.step] at stepped
      split at stepped
      · rename_i item remaining sending
        split at stepped
        · rename_i noneRemains
          obtain rfl := Option.some.inj stepped
          refine ⟨sound.clients, nofun, fun channel found present => ?_⟩
          have served := sound.served channel found present
          rw [unsent, sending, noneRemains] at served
          simpa [unsent] using served
        · contradiction
      · contradiction
  | subscribe channel =>
      rw [Broker.step] at stepped
      split at stepped
      · rename_i allowed
        obtain rfl := Option.some.inj stepped
        exact sound.subscribe allowed.1 allowed.2
      · contradiction
  | delete channel =>
      rw [Broker.step] at stepped
      split at stepped
      · rename_i allowed
        obtain rfl := Option.some.inj stepped
        exact sound.delete allowed.1 allowed.2
      · contradiction
  | drain channel =>
      rw [Broker.step] at stepped
      split at stepped
      · rename_i draining
        obtain rfl := Option.some.inj stepped
        refine sound.update_same (fun found present => ?_)
          fun found present => ?_
        · rw [subscription_of_present present] at draining
          exact (sound.served channel found present).drain
            (Option.some.inj draining)
        · rw [subscription_of_present present] at draining
          rw [Channel.drain]
          split <;> simp [Option.some.inj draining]
      · contradiction
  | receive channel =>
      rw [Broker.step] at stepped
      split at stepped
      · rename_i allowed
        obtain rfl := Option.some.inj stepped
        refine sound.update_same (fun found present => ?_)
          fun found present => ?_
        · have active := allowed.1
          rw [subscription_of_present present] at active
          exact (sound.served channel found present).receive
            (Option.some.inj active)
        · rw [Channel.receive]
          split <;> rfl
      · contradiction

/-- A subscription that has ended stays so. -/
theorem subscription_step
    {channel : Nat} (isEnded : broker.subscription channel = some .ended)
    {event : BrokerEvent} (stepped : broker.step event = some next) :
    next.subscription channel = some .ended := by
  obtain ⟨found, present, endedThere⟩ := Option.map_eq_some_iff.mp isEnded
  have changes : ∀ (other : Nat) (change : Channel → Channel),
      (∀ channel : Channel, channel.subscription = .ended →
        (change channel).subscription = .ended) →
      (broker.update other change).subscription channel = some .ended := by
    intro other change keeps
    rw [subscription_update]
    split
    · rename_i same
      rw [← same, present]
      exact congrArg some (keeps found endedThere)
    · exact isEnded
  cases event with
  | touch frame now =>
      rw [Broker.step] at stepped
      split at stepped
      · obtain rfl := Option.some.inj stepped
        exact isEnded
      · contradiction
  | lockForReading =>
      rw [Broker.step] at stepped
      split at stepped
      · obtain rfl := Option.some.inj stepped
        simp only [subscription, present]
        split
        · exact congrArg some endedThere
        · exact congrArg some endedThere
      · contradiction
  | send other =>
      rw [Broker.step] at stepped
      split at stepped
      · split at stepped
        · obtain rfl := Option.some.inj stepped
          refine changes other _ fun channel ended => ?_
          rw [Channel.send]
          split <;> exact ended
        · contradiction
      · contradiction
  | unlock =>
      rw [Broker.step] at stepped
      split at stepped
      · split at stepped
        · obtain rfl := Option.some.inj stepped
          exact isEnded
        · contradiction
      · contradiction
  | subscribe other =>
      rw [Broker.step] at stepped
      split at stepped
      · rename_i allowed
        obtain rfl := Option.some.inj stepped
        have different : channel ≠ other := by
          rintro rfl
          rw [present] at allowed
          exact nomatch allowed.1
        simpa [subscription, different] using isEnded
      · contradiction
  | delete other =>
      rw [Broker.step] at stepped
      split at stepped
      · rename_i allowed
        obtain rfl := Option.some.inj stepped
        have different : channel ≠ other := by
          rintro rfl
          rw [isEnded] at allowed
          exact nomatch allowed.1
        change (broker.update other Channel.delete).subscription channel = _
        rw [subscription_update, if_neg different]
        exact isEnded
      · contradiction
  | drain other =>
      rw [Broker.step] at stepped
      split at stepped
      · obtain rfl := Option.some.inj stepped
        refine changes other _ fun channel ended => ?_
        rw [Channel.drain]
        split
        · rfl
        · exact ended
      · contradiction
  | receive other =>
      rw [Broker.step] at stepped
      split at stepped
      · obtain rfl := Option.some.inj stepped
        refine changes other _ fun channel ended => ?_
        rw [Channel.receive]
        split <;> exact ended
      · contradiction

end

/-! ## What a subscriber can notice -/

/-- The events of the publisher, less the sends to others, and of the channel's
own subscriber. -/
def concerns (channel : Nat) : BrokerEvent → Bool
  | .touch _ _ | .lockForReading | .unlock => true
  | .send other | .subscribe other | .delete other | .drain other
  | .receive other => other = channel

/-- An event without the clock's value. -/
def timeless : BrokerEvent → BrokerEvent
  | .touch frame _ => .touch frame 0
  | event => event

/-- Where the publisher is, less the channels that remain. -/
inductive Progress
  | idle
  | touched (frame : Frame)
  | sending (item : Publication)

/-- The publisher's place. -/
def progress (broker : Broker) : Progress :=
  match broker.publisher with
  | .idle => .idle
  | .touched frame => .touched frame
  | .sending item _ => .sending item

/-- One channel and where the publisher is. -/
structure View where
  found : Option Channel
  progress : Progress
  published : Nat

/-- What a channel's subscriber can see of a broker. -/
def view (channel : Nat) (broker : Broker) : View :=
  ⟨broker.channels channel, broker.progress, broker.published⟩

/-- What an event that concerns the channel does to its view. -/
def View.change (view : View) : BrokerEvent → View
  | .touch frame _ => { view with progress := .touched frame }
  | .lockForReading =>
      match view.progress with
      | .touched frame =>
          { found := view.found.map fun found =>
              if found.subscription = .active then
                found.offer (view.published, frame)
              else found
            progress := .sending (view.published, frame)
            published := view.published + 1 }
      | _ => view
  | .send _ =>
      match view.progress with
      | .sending item =>
          { view with found := view.found.map fun found => found.send item }
      | _ => view
  | .unlock => { view with progress := .idle }
  | .subscribe _ => { view with found := some {} }
  | .delete _ => { view with found := view.found.map Channel.delete }
  | .drain _ => { view with found := view.found.map Channel.drain }
  | .receive _ => { view with found := view.found.map Channel.receive }

/-- No view depends on the clock. -/
theorem View.foldl_change_timeless (view : View) (events : List BrokerEvent) :
    (events.map timeless).foldl View.change view =
      events.foldl View.change view := by
  rw [List.foldl_map]
  congr
  funext view event
  cases event <;> rfl

theorem view_update
    (broker : Broker) (channel other : Nat) (change : Channel → Channel) :
    view channel (broker.update other change) =
      if other = channel then
        { view channel broker with
          found := (broker.channels channel).map change }
      else view channel broker := by
  by_cases same : other = channel
  · subst same
    simp [view, update, progress]
  · simp [view, update, progress, Ne.symm same, same]

/-- Other events change nothing that the subscriber can see, and what the events
that concern it do depends on what it sees. -/
theorem Sound.view_step
    {channel : Nat} {broker : Broker} {event : BrokerEvent} {next : Broker}
    (sound : broker.Sound) (stepped : broker.step event = some next) :
    view channel next =
      if concerns channel event then (view channel broker).change event
      else view channel broker := by
  cases event with
  | touch frame now =>
      rw [Broker.step] at stepped
      split at stepped
      · obtain rfl := Option.some.inj stepped
        rfl
      · contradiction
  | lockForReading =>
      rw [Broker.step] at stepped
      split at stepped
      · rename_i frame touched
        obtain rfl := Option.some.inj stepped
        simp only [concerns, if_true, View.change, view, progress, touched]
        congr 1
        have isClient := sound.clients channel
        cases present : broker.channels channel with
        | none => simp
        | some found =>
            rw [subscription_of_present present, Option.some_inj] at isClient
            by_cases active : found.subscription = .active
            · rw [if_pos (isClient.mpr active), Option.map_some,
                Option.map_some, if_pos active]
            · rw [if_neg fun listed => active (isClient.mp listed),
                Option.map_some, if_neg active]
      · contradiction
  | send other =>
      rw [Broker.step] at stepped
      split at stepped
      · rename_i item remaining sending
        split at stepped
        · obtain rfl := Option.some.inj stepped
          have isSending : progress broker = .sending item := by
            rw [progress, sending]
          change View.mk
            (Function.update broker.channels other
              ((broker.channels other).map fun found => found.send item)
              channel)
            (.sending item) broker.published = _
          by_cases same : other = channel
          · subst same
            simp only [concerns, decide_true, if_true, View.change, view,
              isSending, Function.update_self]
          · simp only [concerns, decide_eq_false same, Bool.false_eq_true,
              if_false, view, isSending,
              Function.update_of_ne (Ne.symm same)]
        · contradiction
      · contradiction
  | unlock =>
      rw [Broker.step] at stepped
      split at stepped
      · split at stepped
        · obtain rfl := Option.some.inj stepped
          rfl
        · contradiction
      · contradiction
  | subscribe other =>
      rw [Broker.step] at stepped
      split at stepped
      · obtain rfl := Option.some.inj stepped
        by_cases same : other = channel
        · subst same
          simp [concerns, view, View.change, progress]
        · simp [concerns, view, same, Ne.symm same, progress]
      · contradiction
  | delete other =>
      rw [Broker.step] at stepped
      split at stepped
      · obtain rfl := Option.some.inj stepped
        exact (view_update broker channel other Channel.delete).trans (by
          simp [concerns, View.change, view])
      · contradiction
  | drain other =>
      rw [Broker.step] at stepped
      split at stepped
      · obtain rfl := Option.some.inj stepped
        exact (view_update broker channel other Channel.drain).trans (by
          simp [concerns, View.change, view])
      · contradiction
  | receive other =>
      rw [Broker.step] at stepped
      split at stepped
      · obtain rfl := Option.some.inj stepped
        exact (view_update broker channel other Channel.receive).trans (by
          simp [concerns, View.change, view])
      · contradiction

end Broker

/-! ## Runs -/

namespace Channel.Served

variable {channel : Channel} {unsent : List Publication} {published : Nat}

/-- What was received was offered, in the same order and each frame once. -/
theorem received_sublist
    (served : channel.Served unsent published) :
    channel.received.Sublist channel.offered ∧ channel.received.Nodup := by
  obtain ⟨settled, offered, taken, _⟩ := served.settled
  have sublist : channel.received.Sublist channel.offered := by
    rw [offered]
    refine (List.Sublist.trans ?_ taken).trans (List.sublist_append_left _ _)
    rw [served.fifo, List.append_assoc]
    exact List.sublist_append_left _ _
  have distinct : channel.offered.Nodup :=
    List.Nodup.of_map Prod.fst (served.ordered.imp Nat.ne_of_lt)
  exact ⟨sublist, sublist.nodup distinct⟩

/-- A frame that was offered was taken, is still to be sent, or was lost on a
full channel. -/
theorem fate
    (served : channel.Served unsent published)
    {item : Publication} (isOffered : item ∈ channel.offered) :
    item ∈ channel.accepted ∨ item ∈ unsent ∨
      (item, channelCapacity) ∈ channel.lost := by
  obtain ⟨settled, offered, _, shared⟩ := served.settled
  rw [offered] at isOffered
  rcases List.mem_append.mp isOffered with isSettled | isUnsent
  · rcases List.mem_append.mp (shared.mem_iff.mpr isSettled) with taken | lost
    · exact .inl taken
    · obtain ⟨entry, listed, rfl⟩ := List.mem_map.mp lost
      refine .inr (.inr ?_)
      rw [← served.full entry listed]
      exact listed
  · exact .inr (.inl isUnsent)

end Channel.Served

end Agent
end MotionSense
