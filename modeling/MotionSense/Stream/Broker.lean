import MotionSense.Foundations.Transition

/-!
# The broker of live frames

`broker.go` of package `stream`.  A subscriber is a buffered channel; publishing
takes the lock, gives it back and takes it again for reading, under which it
offers the frame to the channels of the map one after the other.  Channels are
read and drained without the lock.  With each channel goes a record of the
frames that were published while it was subscribed and of what became of them.
-/

namespace MotionSense

namespace Agent

/-- `Frame`. -/
abbrev Frame := List UInt8

/-- A published frame: how many were published before it, and its bytes. -/
abbrev Publication := Nat × Frame

/-- The capacity given to `make`. -/
def channelCapacity : Nat := 4

/-- Where a subscriber is: it receives, it is in `Unsubscribe` behind the
deletion from the map, or that has returned. -/
inductive Subscription
  | active
  | draining
  | ended
  deriving DecidableEq

/-- A channel made by `Subscribe`. -/
structure Channel where
  /-- What the channel holds. -/
  pending : List Publication := []
  subscription : Subscription := .active
  /-- Frames published while the channel was in the map. -/
  offered : List Publication := []
  accepted : List Publication := []
  /-- Frames that the channel had no room for, with the number pending. -/
  lost : List (Publication × Nat) := []
  received : List Publication := []
  drained : List Publication := []
  deriving DecidableEq

/-- Where the publisher is in `Publish`. -/
inductive Publisher
  | idle
  /-- Between the two locks. -/
  | touched (frame : Frame)
  /-- Under the lock for reading, with the channels not offered the frame
  yet. -/
  | sending (item : Publication) (remaining : Finset Nat)

/-- `Broker`, with every channel ever made. -/
structure Broker where
  clients : Finset Nat := ∅
  lastFrame : Option Nat := none
  channels : Nat → Option Channel := fun _ => none
  publisher : Publisher := .idle
  published : Nat := 0

/-- An atomic step: of `Publish` (`touch`, `lockForReading`, a `send` to each
client in any order, `unlock`), of `Subscribe`, of `Unsubscribe` (the deletion,
then one round of the draining loop after the other), or a receive. -/
inductive BrokerEvent
  | touch (frame : Frame) (now : Nat)
  | lockForReading
  | send (channel : Nat)
  | unlock
  | subscribe (channel : Nat)
  | delete (channel : Nat)
  | drain (channel : Nat)
  | receive (channel : Nat)
  deriving DecidableEq

namespace Channel

/-- A frame is published while the channel is in the map. -/
def offer (channel : Channel) (item : Publication) : Channel :=
  { channel with offered := channel.offered ++ [item] }

/-- The `select` that sends without waiting. -/
def send (channel : Channel) (item : Publication) : Channel :=
  if channel.pending.length < channelCapacity then
    { channel with
      pending := channel.pending ++ [item]
      accepted := channel.accepted ++ [item] }
  else
    { channel with lost := channel.lost ++ [(item, channel.pending.length)] }

/-- A receive by the subscriber. -/
def receive (channel : Channel) : Channel :=
  match channel.pending with
  | [] => channel
  | item :: pending =>
      { channel with pending, received := channel.received ++ [item] }

/-- The deletion from the map. -/
def delete (channel : Channel) : Channel :=
  { channel with subscription := .draining }

/-- A round of the draining loop. -/
def drain (channel : Channel) : Channel :=
  match channel.pending with
  | [] => { channel with subscription := .ended }
  | item :: pending =>
      { channel with pending, drained := channel.drained ++ [item] }

end Channel

namespace Broker

/-- The lock for writing is free: the publisher does not hold it for
reading. -/
def writable (broker : Broker) : Bool :=
  match broker.publisher with
  | .sending _ _ => false
  | _ => true

/-- Change a channel. -/
def update (broker : Broker) (channel : Nat) (change : Channel → Channel) :
    Broker :=
  { broker with
    channels := Function.update broker.channels channel
      ((broker.channels channel).map change) }

/-- The subscription of a channel. -/
def subscription (broker : Broker) (channel : Nat) : Option Subscription :=
  (broker.channels channel).map Channel.subscription

/-- One step, where it is enabled. -/
def step (broker : Broker) : BrokerEvent → Option Broker
  | .touch frame now =>
      match broker.publisher with
      | .idle =>
          some { broker with
            lastFrame := some now
            publisher := .touched frame }
      | _ => none
  | .lockForReading =>
      match broker.publisher with
      | .touched frame =>
          some { broker with
            publisher := .sending (broker.published, frame) broker.clients
            published := broker.published + 1
            channels := fun channel =>
              if channel ∈ broker.clients then
                (broker.channels channel).map fun found =>
                  found.offer (broker.published, frame)
              else broker.channels channel }
      | _ => none
  | .send channel =>
      match broker.publisher with
      | .sending item remaining =>
          if channel ∈ remaining then
            some { broker.update channel fun found => found.send item with
              publisher := .sending item (remaining.erase channel) }
          else none
      | _ => none
  | .unlock =>
      match broker.publisher with
      | .sending _ remaining =>
          if remaining = ∅ then some { broker with publisher := .idle }
          else none
      | _ => none
  | .subscribe channel =>
      if broker.channels channel = none ∧ broker.writable then
        some { broker with
          clients := insert channel broker.clients
          channels := Function.update broker.channels channel (some {}) }
      else none
  | .delete channel =>
      if broker.subscription channel = some .active ∧ broker.writable then
        some { broker.update channel Channel.delete with
          clients := broker.clients.erase channel }
      else none
  | .drain channel =>
      if broker.subscription channel = some .draining then
        some (broker.update channel Channel.drain)
      else none
  | .receive channel =>
      if broker.subscription channel = some .active ∧
          ((broker.channels channel).map Channel.pending) ≠ some [] then
        some (broker.update channel Channel.receive)
      else none

end Broker

end Agent
end MotionSense
