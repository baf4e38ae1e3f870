import MotionSense.Foundations.Framing
import MotionSense.Foundations.Transition

/-!
# The stream socket between the daemon and the agent

`web_sock_push` of `media.c` writes MJPEG frames to a Unix stream socket without
blocking; `ReceiveFrames` of the agent's `receiver.go` dials that socket again
and again, and `readFrames` cuts the stream back into frames.  A connection is
the list of the `sendmsg` calls made on it, with how much of each message the
kernel took; the environment chooses every outcome.
-/

namespace MotionSense

/-- A frame of the MJPEG channel, of a size that the agent accepts. -/
@[ext] structure MjpegFrame where
  bytes : List UInt8
  nonempty : bytes ≠ []
  bounded : bytes.length ≤ 8 * 2 ^ 20

instance : DecidableEq MjpegFrame := fun _ _ =>
  decidable_of_iff _ MjpegFrame.ext_iff.symm

/-- `htonl((uint32_t)value)`, as bytes on the wire. -/
def htonl (value : Nat) : List UInt8 :=
  [UInt8.ofNat (value / 2 ^ 24), UInt8.ofNat (value / 2 ^ 16),
    UInt8.ofNat (value / 2 ^ 8), UInt8.ofNat value]

/-- `binary.BigEndian.Uint32`. -/
def bigEndianUint32 (bytes : List UInt8) : Nat :=
  bytes.foldl (fun value byte => value * 2 ^ 8 + byte.toNat) 0

/-- The check `readFrames` makes on an announced size. -/
def acceptsSize (size : Nat) : Bool :=
  !(size = 0 || size > 8 * 2 ^ 20)

theorem bigEndianUint32_htonl
    {value : Nat}
    (bounded : value < 2 ^ 32) :
    bigEndianUint32 (htonl value) = value := by
  simp only [bigEndianUint32, htonl, List.foldl_cons, List.foldl_nil,
    UInt8.toNat_ofNat']
  omega

theorem acceptsSize_bounds
    {size : Nat} (accepted : acceptsSize size = true) :
    0 < size ∧ size ≤ 8 * 2 ^ 20 := by
  simp only [acceptsSize, Bool.not_eq_true', Bool.or_eq_false_iff,
    decide_eq_false_iff_not] at accepted
  omega

/-- A size that is accepted survives the header. -/
theorem bigEndianUint32_of_accepts
    {size : Nat} (accepted : acceptsSize size = true) :
    bigEndianUint32 (htonl size) = size := by
  have bounds := acceptsSize_bounds accepted
  exact bigEndianUint32_htonl (by omega)

theorem pos_of_acceptsSize
    {size : Nat} (accepted : acceptsSize size = true) : 0 < size :=
  (acceptsSize_bounds accepted).1

/-- The wire format on which `web_sock_push` and `readFrames` agree. -/
def socketFraming : Framing UInt8 where
  width := 4
  announce := htonl
  announced := bigEndianUint32
  accepts := acceptsSize
  width_pos := by decide
  length_announce _ := rfl
  announced_announce _ accepted := bigEndianUint32_of_accepts accepted
  pos_of_accepts _ accepted := pos_of_acceptsSize accepted

/-- One `sendmsg` and the number of bytes it took. -/
structure Send where
  message : List UInt8
  taken : Nat
  deriving DecidableEq

/-- A connection, as what the daemon has sent on it. -/
structure Connection where
  sends : List Send := []

namespace Connection

/-- The bytes that went into the connection. -/
def stream (connection : Connection) : List UInt8 :=
  connection.sends.flatMap fun send => send.message.take send.taken

/-- Some message went into the connection in part only. -/
def torn (connection : Connection) : Bool :=
  connection.sends.any fun send =>
    decide (0 < send.taken ∧ send.taken < send.message.length)

end Connection

/-- How a non-blocking `sendmsg` turns out. -/
inductive SendOutcome
  | taken (count : Nat)
  | again
  | failed
  deriving DecidableEq

/-- `readFrames` at work on a connection: how many bytes it has read from it and
where it stands. -/
structure AgentReader where
  conn : Nat
  consumed : Nat
  reader : Reader UInt8

/-- Both ends of the socket, with what went in and what came out. -/
structure SocketState where
  /-- `s_web_srv_fd >= 0`. -/
  webSrvFd : Bool := false
  /-- `s_web_sock`. -/
  webSock : Option Nat := none
  /-- Connections dialled and not yet accepted. -/
  backlog : List Nat := []
  connection : Nat → Connection := fun _ => {}
  dialled : Nat := 0
  agent : Option AgentReader := none
  pushed : List MjpegFrame := []
  published : List (List UInt8) := []

/-- What the two processes and the kernel do. -/
inductive SocketEvent
  | listen (succeeds : Bool)
  | push (frame : MjpegFrame) (accepts : Bool) (outcome : SendOutcome)
  | stop
  | dial
  | read (count : Nat)
  | hangUp

namespace SocketState

/-- `web_sock_srv_init`. -/
def webSockSrvInit (state : SocketState) (succeeds : Bool) : SocketState :=
  if succeeds then { state with webSrvFd := true, backlog := [] } else state

/-- The part of `web_sock_push` that accepts a client when there is none. -/
def accept (state : SocketState) (accepts : Bool) : SocketState :=
  match state.webSock, state.backlog with
  | none, conn :: backlog =>
      if accepts then { state with webSock := some conn, backlog } else state
  | _, _ => state

/-- The `sendmsg` of `web_sock_push`.  Only a negative result is looked at: a
message taken in part counts as sent. -/
def sendmsg
    (state : SocketState)
    (frame : MjpegFrame)
    (outcome : SendOutcome) : SocketState :=
  match state.webSock with
  | none => state
  | some conn =>
      match outcome with
      | .taken count =>
          let send : Send :=
            ⟨htonl frame.bytes.length ++ frame.bytes, count⟩
          { state with
            connection := Function.update state.connection conn
              { sends := (state.connection conn).sends ++ [send] } }
      | .again => state
      | .failed => { state with webSock := none }

/-- `web_sock_push`. -/
def webSockPush
    (state : SocketState)
    (frame : MjpegFrame)
    (accepts : Bool)
    (outcome : SendOutcome) : SocketState :=
  if !state.webSrvFd then state
  else (state.accept accepts).sendmsg frame outcome

/-- The end of `media_stop`, which closes both sockets. -/
def mediaStop (state : SocketState) : SocketState :=
  { state with webSock := none, webSrvFd := false, backlog := [] }

/-- A successful `DialContext` of `ReceiveFrames`, after which `readFrames`
starts on the new connection. -/
def dial (state : SocketState) : SocketState :=
  match state.agent with
  | some _ => state
  | none =>
      if !state.webSrvFd then state
      else
        { state with
          connection := Function.update state.connection state.dialled {}
          backlog := state.backlog ++ [state.dialled]
          dialled := state.dialled + 1
          agent := some ⟨state.dialled, 0, .header []⟩ }

/-- Some more bytes reach `readFrames`.  It publishes each frame it completes,
and returns on a size that it does not accept. -/
def readFrames (state : SocketState) (count : Nat) : SocketState :=
  match state.agent with
  | none => state
  | some agent =>
      let bytes :=
        ((state.connection agent.conn).stream.drop agent.consumed).take count
      let result := socketFraming.feedAll agent.reader bytes
      { state with
        published := state.published ++ result.2
        agent :=
          if result.1 = .stopped then none
          else some
            { agent with
              consumed := agent.consumed + bytes.length
              reader := result.1 } }

/-- One event. -/
def step (state : SocketState) : SocketEvent → SocketState
  | .listen succeeds => state.webSockSrvInit succeeds
  | .push frame accepts outcome =>
      { state.webSockPush frame accepts outcome with
        pushed := state.pushed ++ [frame] }
  | .stop => state.mediaStop
  | .dial => state.dial
  | .read count => state.readFrames count
  | .hangUp => { state with agent := none }

end SocketState
end MotionSense
