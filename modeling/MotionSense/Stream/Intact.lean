import MotionSense.Stream.Socket

/-!
# What the agent publishes

A message that `sendmsg` took in part leaves the stream in the middle of a
frame.  As long as nothing more is sent on such a connection, every connection
carries whole frames and at most one beginning of a frame, and the agent
publishes frames that were pushed, in order and intact.
-/

namespace MotionSense

namespace MjpegFrame

theorem accepts (frame : MjpegFrame) :
    socketFraming.accepts frame.bytes.length = true := by
  have nonempty : frame.bytes.length ≠ 0 := by
    simpa using frame.nonempty
  have bounded := frame.bounded
  simp only [socketFraming, acceptsSize, Bool.not_eq_true',
    Bool.or_eq_false_iff, decide_eq_false_iff_not]
  omega

/-- The frame on the wire. -/
def message (frame : MjpegFrame) : List UInt8 :=
  socketFraming.encode frame.bytes

end MjpegFrame

/-- A connection carries these frames, and behind them at most the beginning of
another one. -/
def Connection.Carries
    (connection : Connection)
    (frames : List MjpegFrame) : Prop :=
  ∃ (cut : MjpegFrame) (count : Nat),
    count < cut.message.length ∧
      connection.stream =
        frames.flatMap MjpegFrame.message ++ cut.message.take count ∧
      (connection.torn = false → count = 0)

namespace Connection

/-- A new connection carries nothing. -/
theorem carries_nil : ({} : Connection).Carries [] :=
  ⟨⟨[0], by decide, by decide⟩, 0, by decide, rfl, fun _ => rfl⟩

/-- What a reader makes of a connection that carries some frames. -/
theorem Carries.frames_read
    {connection : Connection} {frames : List MjpegFrame}
    (carries : connection.Carries frames) :
    (socketFraming.feedAll (.header []) connection.stream).2 =
      frames.map MjpegFrame.bytes := by
  obtain ⟨cut, count, short, stream, _⟩ := carries
  have whole : frames.flatMap MjpegFrame.message =
      (frames.map MjpegFrame.bytes).flatMap socketFraming.encode := by
    rw [List.flatMap_map]
    rfl
  rw [stream, whole, Framing.feedAll_encode_append, MjpegFrame.message,
    Framing.feedAll_take_encode _ _ cut.accepts count short, List.append_nil]
  intro bytes present
  obtain ⟨frame, _, rfl⟩ := List.mem_map.mp present
  exact frame.accepts

/-- One more `sendmsg` on the connection. -/
def after (connection : Connection) (message : List UInt8) (count : Nat) :
    Connection :=
  { sends := connection.sends ++ [⟨message, count⟩] }

theorem stream_after
    (connection : Connection) (message : List UInt8) (count : Nat) :
    (connection.after message count).stream =
      connection.stream ++ message.take count := by
  simp [stream, after]

theorem torn_after
    (connection : Connection) (message : List UInt8) (count : Nat) :
    (connection.after message count).torn =
      (connection.torn || decide (0 < count ∧ count < message.length)) := by
  simp [torn, after]

/-- A send on a connection that is not torn adds a whole frame, a beginning of
one, or nothing. -/
theorem Carries.after
    {connection : Connection} {frames : List MjpegFrame}
    (carries : connection.Carries frames)
    (frame : MjpegFrame) (count : Nat)
    (whole : 0 < count → connection.torn = false) :
    ∃ more, more.Sublist [frame] ∧
      (connection.after frame.message count).Carries (frames ++ more) := by
  obtain ⟨cut, before, short, stream, untorn⟩ := carries
  rcases Nat.eq_zero_or_pos count with rfl | sent
  · refine ⟨[], List.nil_sublist _, cut, before, short, ?_, ?_⟩
    · rw [stream_after, stream, List.take_zero, List.append_nil,
        List.append_nil]
    · rw [torn_after]
      simpa using untorn
  have noCut : before = 0 := untorn (whole sent)
  rw [noCut, List.take_zero, List.append_nil] at stream
  by_cases complete : frame.message.length ≤ count
  · refine ⟨[frame], List.Sublist.refl _, cut, 0, by omega, ?_, fun _ => rfl⟩
    rw [stream_after, stream, List.take_of_length_le complete]
    simp
  · refine ⟨[], List.nil_sublist _, frame, count, by omega, ?_, ?_⟩
    · rw [stream_after, stream, List.append_nil]
    · rw [torn_after]
      intro untornAfter
      simp only [Bool.or_eq_false_iff, decide_eq_false_iff_not] at untornAfter
      omega

end Connection

namespace SocketState

/-- The bytes of the frames pushed so far. -/
def pushedBytes (state : SocketState) : List (List UInt8) :=
  state.pushed.map MjpegFrame.bytes

/-- Everything published is a frame that was pushed, in order. -/
def PublishesIntact (state : SocketState) : Prop :=
  state.published.Sublist state.pushedBytes

instance (state : SocketState) : Decidable state.PublishesIntact :=
  inferInstanceAs (Decidable (state.published.Sublist state.pushedBytes))

/-- The connection that a push sends on. -/
def target (state : SocketState) (accepts : Bool) : Option Nat :=
  if !state.webSrvFd then none else (state.accept accepts).webSock

/-- No byte is sent on a connection that took an earlier message in part. -/
def SendsOnWhole (state : SocketState) : SocketEvent → Prop
  | .push _ accepts (.taken count) =>
      ∀ conn ∈ state.target accepts,
        0 < count → (state.connection conn).torn = false
  | _ => True

instance (state : SocketState) :
    (event : SocketEvent) → Decidable (state.SendsOnWhole event)
  | .push _ accepts (.taken count) => inferInstanceAs (Decidable
      (∀ conn ∈ state.target accepts,
        0 < count → (state.connection conn).torn = false))
  | .push _ _ .again => .isTrue trivial
  | .push _ _ .failed => .isTrue trivial
  | .listen _ => .isTrue trivial
  | .stop => .isTrue trivial
  | .dial => .isTrue trivial
  | .read _ => .isTrue trivial
  | .hangUp => .isTrue trivial

/-- Where the agent stands on its connection, which carries frames pushed after
those it published earlier. -/
structure Reading (state : SocketState) (agent : AgentReader) : Prop where
  position : agent.reader = (socketFraming.feedAll (.header [])
    ((state.connection agent.conn).stream.take agent.consumed)).1
  carried : ∃ earlier frames,
    state.published = earlier ++ (socketFraming.feedAll (.header [])
      ((state.connection agent.conn).stream.take agent.consumed)).2 ∧
    (state.connection agent.conn).Carries frames ∧
    agent.consumed ≤ (state.connection agent.conn).stream.length ∧
    (earlier ++ frames.map MjpegFrame.bytes).Sublist state.pushedBytes

/-- The invariant of the two processes. -/
structure Intact (state : SocketState) : Prop where
  publishes : state.PublishesIntact
  reading : ∀ agent ∈ state.agent, state.Reading agent

/-- What the agent reads from can only be extended. -/
theorem Reading.of_extended
    {before after : SocketState} {agent : AgentReader}
    (reading : before.Reading agent)
    (published : after.published = before.published)
    {frame : MjpegFrame} {more : List UInt8}
    (pushed : after.pushed = before.pushed ++ [frame])
    (stream : (after.connection agent.conn).stream =
      (before.connection agent.conn).stream ++ more)
    (carries : ∀ frames, (before.connection agent.conn).Carries frames →
      ∃ added, added.Sublist [frame] ∧
        (after.connection agent.conn).Carries (frames ++ added)) :
    after.Reading agent := by
  obtain ⟨earlier, frames, publishedEq, carried, consumed, sublist⟩ :=
    reading.carried
  have sameRead : (after.connection agent.conn).stream.take agent.consumed =
      (before.connection agent.conn).stream.take agent.consumed := by
    rw [stream, List.take_append_of_le_length consumed]
  obtain ⟨added, fewer, carriedAfter⟩ := carries frames carried
  refine ⟨by rw [sameRead]; exact reading.position,
    earlier, frames ++ added, ?_, carriedAfter, ?_, ?_⟩
  · rw [published, publishedEq, sameRead]
  · rw [stream, List.length_append]
    omega
  · rw [pushedBytes, pushed, List.map_append, List.map_append,
      ← List.append_assoc]
    exact sublist.append (fewer.map MjpegFrame.bytes)

/-- A `sendmsg` that takes bytes adds to the client's connection. -/
theorem sendmsg_taken
    {state : SocketState} {conn : Nat}
    (client : state.webSock = some conn)
    (frame : MjpegFrame) (count : Nat) :
    state.sendmsg frame (.taken count) =
      { state with
        connection := Function.update state.connection conn
          ((state.connection conn).after frame.message count) } := by
  unfold sendmsg
  split
  · rename_i noClient
    rw [client] at noClient
    contradiction
  · rename_i other isClient
    obtain rfl := Option.some.inj (isClient.symm.trans client)
    rfl

/-- What a push does: it leaves the agent alone and sends on its target at
most. -/
theorem webSockPush_cases
    (state : SocketState)
    (frame : MjpegFrame) (accepts : Bool) (outcome : SendOutcome) :
    let after := state.webSockPush frame accepts outcome
    after.agent = state.agent ∧ after.published = state.published ∧
      (after.connection = state.connection ∨
        ∃ conn ∈ state.target accepts, ∃ count, outcome = .taken count ∧
          after.connection = Function.update state.connection conn
            ((state.connection conn).after frame.message count)) := by
  have accepted : (state.accept accepts).agent = state.agent ∧
      (state.accept accepts).published = state.published ∧
      (state.accept accepts).connection = state.connection := by
    unfold accept
    split
    · split <;> exact ⟨rfl, rfl, rfl⟩
    · exact ⟨rfl, rfl, rfl⟩
  obtain ⟨agent, published, connection⟩ := accepted
  intro after
  by_cases closed : (!state.webSrvFd) = true
  · have unchanged : after = state := if_pos closed
    rw [unchanged]
    exact ⟨rfl, rfl, Or.inl rfl⟩
  have sent : after = (state.accept accepts).sendmsg frame outcome :=
    if_neg closed
  cases webSock : (state.accept accepts).webSock with
  | none =>
      have unchanged : after = state.accept accepts := by
        rw [sent, sendmsg, webSock]
      rw [unchanged]
      exact ⟨agent, published, Or.inl connection⟩
  | some conn =>
      have isTarget : conn ∈ state.target accepts := by
        rw [target, if_neg closed, webSock]
        rfl
      cases outcome with
      | taken count =>
          rw [sent, sendmsg_taken webSock]
          refine ⟨agent, published,
            Or.inr ⟨conn, isTarget, count, rfl, ?_⟩⟩
          rw [connection]
      | again =>
          have unchanged : after = state.accept accepts := by
            rw [sent, sendmsg, webSock]
          rw [unchanged]
          exact ⟨agent, published, Or.inl connection⟩
      | failed =>
          have closes : after =
              { state.accept accepts with webSock := none } := by
            rw [sent, sendmsg, webSock]
          rw [closes]
          exact ⟨agent, published, Or.inl connection⟩

/-- A push keeps the invariant when it does not send behind a beginning of a
frame. -/
theorem Intact.push
    {state : SocketState}
    (intact : state.Intact)
    (frame : MjpegFrame) (accepts : Bool) (outcome : SendOutcome)
    (sendsOnWhole : state.SendsOnWhole (.push frame accepts outcome)) :
    (state.step (.push frame accepts outcome)).Intact := by
  obtain ⟨agentEq, publishedEq, connection⟩ :=
    state.webSockPush_cases frame accepts outcome
  refine ⟨?_, ?_⟩
  · change (state.webSockPush frame accepts outcome).published.Sublist
      ((state.pushed ++ [frame]).map MjpegFrame.bytes)
    rw [publishedEq, List.map_append]
    exact intact.publishes.trans (List.sublist_append_left _ _)
  intro agent present
  replace present : agent ∈ state.agent := by
    rw [← agentEq]
    exact present
  have unsent : (state.webSockPush frame accepts outcome).connection
        agent.conn = state.connection agent.conn →
      (state.step (.push frame accepts outcome)).Reading agent := by
    intro same
    refine @Reading.of_extended state _ agent (intact.reading agent present)
      publishedEq frame [] rfl ?_ ?_
    · rw [List.append_nil]
      exact congrArg Connection.stream same
    · intro frames carries
      refine ⟨[], List.nil_sublist _, ?_⟩
      rw [List.append_nil]
      exact same ▸ carries
  rcases connection with same | ⟨conn, isTarget, count, rfl, updated⟩
  · exact unsent (congrFun same agent.conn)
  by_cases reads : agent.conn = conn
  · subst reads
    have extended : (state.webSockPush frame accepts
          (.taken count)).connection agent.conn =
        (state.connection agent.conn).after frame.message count := by
      rw [updated, Function.update_self]
    refine @Reading.of_extended state _ agent (intact.reading agent present)
      publishedEq frame (frame.message.take count) rfl ?_ ?_
    · exact (congrArg Connection.stream extended).trans
        (Connection.stream_after _ _ _)
    · intro frames carries
      obtain ⟨added, fewer, carriedAfter⟩ :=
        carries.after frame count (sendsOnWhole agent.conn isTarget)
      exact ⟨added, fewer, extended ▸ carriedAfter⟩
  · exact unsent (by rw [updated, Function.update_of_ne reads])

/-- Reading more bytes keeps the invariant. -/
theorem Intact.readFrames
    {state : SocketState}
    (intact : state.Intact)
    (count : Nat) :
    (state.readFrames count).Intact := by
  unfold SocketState.readFrames
  cases agentEq : state.agent with
  | none => exact intact
  | some agent =>
      have reading := intact.reading agent agentEq
      obtain ⟨earlier, frames, publishedEq, carries, consumed, sublist⟩ :=
        reading.carried
      let stream := (state.connection agent.conn).stream
      let bytes := (stream.drop agent.consumed).take count
      have consumedAfter : agent.consumed + bytes.length ≤ stream.length := by
        have inside : agent.consumed ≤ stream.length := consumed
        change agent.consumed +
          ((stream.drop agent.consumed).take count).length ≤ stream.length
        rw [List.length_take, List.length_drop]
        omega
      have readAfter : stream.take (agent.consumed + bytes.length) =
          stream.take agent.consumed ++ bytes := by
        rw [List.take_add, List.append_cancel_left_eq]
        change (stream.drop agent.consumed).take
          ((stream.drop agent.consumed).take count).length = _
        rw [List.length_take, ← List.take_take, List.take_length]
      have result : socketFraming.feedAll (.header [])
          (stream.take (agent.consumed + bytes.length)) =
            ((socketFraming.feedAll agent.reader bytes).1,
              (socketFraming.feedAll (.header [])
                  (stream.take agent.consumed)).2 ++
                (socketFraming.feedAll agent.reader bytes).2) := by
        rw [readAfter, Framing.feedAll_append, ← reading.position]
      have publishedAfter : state.published ++
            (socketFraming.feedAll agent.reader bytes).2 =
          earlier ++ (socketFraming.feedAll (.header [])
            (stream.take (agent.consumed + bytes.length))).2 := by
        rw [publishedEq, result, List.append_assoc]
      refine ⟨?_, ?_⟩
      · change (state.published ++
          (socketFraming.feedAll agent.reader bytes).2).Sublist _
        have partly := socketFraming.feedAll_take_prefix (.header []) stream
          (agent.consumed + bytes.length)
        rw [carries.frames_read] at partly
        rw [publishedAfter]
        exact (partly.sublist.append_left earlier).trans sublist
      · intro next present
        simp only at present
        split at present
        · simp at present
        · obtain rfl := Option.mem_some.mp present
          refine ⟨?_, earlier, frames, publishedAfter, carries,
            consumedAfter, sublist⟩
          exact (congrArg Prod.fst result).symm

/-- Every event that meets the condition keeps the invariant. -/
theorem Intact.step
    {state : SocketState} {event : SocketEvent}
    (sendsOnWhole : state.SendsOnWhole event)
    (intact : state.Intact) :
    (state.step event).Intact := by
  cases event with
  | listen succeeds =>
      change (state.webSockSrvInit succeeds).Intact
      unfold webSockSrvInit
      split
      · exact ⟨intact.publishes, fun agent present =>
          ⟨(intact.reading agent present).1,
            (intact.reading agent present).2⟩⟩
      · exact intact
  | push frame accepts outcome =>
      exact intact.push frame accepts outcome sendsOnWhole
  | stop =>
      exact ⟨intact.publishes, fun agent present =>
        ⟨(intact.reading agent present).1, (intact.reading agent present).2⟩⟩
  | dial =>
      change state.dial.Intact
      unfold SocketState.dial
      cases agentEq : state.agent with
      | some agent => exact intact
      | none =>
          simp only
          split
          · exact intact
          · refine ⟨intact.publishes, ?_⟩
            intro agent present
            obtain rfl := Option.mem_some.mp present
            refine ⟨rfl, state.published, [], by simp, ?_, by simp, ?_⟩
            · simp only [Function.update_self]
              exact Connection.carries_nil
            · rw [List.map_nil, List.append_nil]
              exact intact.publishes
  | read count => exact intact.readFrames count
  | hangUp => exact ⟨intact.publishes, by simp [SocketState.step]⟩

end SocketState

/-- A frame of six bytes of which only one is sent, then a frame of one byte:
the agent publishes the byte, the second header and the second frame as one. -/
theorem socket_publishes_mixed_frame :
    ¬ (Transition.run SocketState.step {}
        [.listen true, .dial,
          .push ⟨[1, 2, 3, 4, 5, 6], by decide, by decide⟩ true (.taken 5),
          .push ⟨[7], by decide, by decide⟩ true (.taken 5),
          .read 16]).PublishesIntact := by
  decide

/-- As long as nothing is sent on a connection behind a message that was taken
in part, the frames published are a subsequence of those pushed. -/
theorem socket_publishes_intact_of_sends_on_whole
    (events : List SocketEvent)
    (along : Transition.Along SocketState.step SocketState.SendsOnWhole {}
      events) :
    (Transition.run SocketState.step {} events).PublishesIntact :=
  (Transition.run_invariant
    (fun _ _ sendsOnWhole intact =>
      SocketState.Intact.step sendsOnWhole intact) along
    ⟨List.nil_sublist _, by simp⟩).publishes

/-- The daemon drops the connection behind a frame cut short, and the agent gets
the next frame on a new one. -/
theorem socket_publishes_intact_of_sends_on_whole_reconnect :
    (Transition.run SocketState.step {}
      [.listen true, .dial,
        .push ⟨[1, 2], by decide, by decide⟩ true (.taken 5),
        .read 4,
        .push ⟨[3], by decide, by decide⟩ true .failed,
        .read 4, .hangUp, .dial,
        .push ⟨[4], by decide, by decide⟩ true (.taken 5),
        .read 9]).PublishesIntact :=
  socket_publishes_intact_of_sends_on_whole _ (by decide)

end MotionSense
