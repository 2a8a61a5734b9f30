import PushDelivery.Broker.Queues
import PushDelivery.Health.Report

/-!
# The link to the broker

The transport owns one channel to the broker at a time. The channel stands in a slot, and the state
of the link is announced beside it, so that tasks can wait for a change. Slot and announcement
change one after the other, and other tasks may see what lies between: `install` and `lose` are each
composed of two steps.

## Main definitions

* `Link`: slot, announced state and counters.
* `Link.fill` and `Link.announceConnected`: the steps of a new connection.
* `Link.vacate?` and `Link.announceLoss`: the steps of a loss.
-/

namespace PushDelivery

/-- The announced state of the link. -/
inductive LinkState
  | connected
  | disconnected
  | closed
  deriving DecidableEq, Repr, Inhabited

/-- The name of a state. -/
def LinkState.name : LinkState → String
  | .connected => "connected"
  | .disconnected => "disconnected"
  | .closed => "closed"

/-- The link: the announced state, the number of announcements so far, the channel in use, and
counters of the messages that went over it. -/
structure Link where
  state : LinkState := .disconnected
  announcements : Nat := 0
  slot : Option Nat := none
  received : Nat := 0
  completed : Nat := 0
  deadLettered : Nat := 0
  malformed : Nat := 0
  published : Nat := 0
  publishFailures : Nat := 0
  reconnections : Nat := 0
  deriving DecidableEq, Repr

namespace Link

/-- Announces a state. -/
def announce (l : Link) (s : LinkState) : Link :=
  { l with state := s, announcements := l.announcements + 1 }

/-- Puts a new channel into the slot. -/
def fill (l : Link) (channel : Nat) : Link := { l with slot := some channel }

/-- Announces that there is a channel. -/
def announceConnected (l : Link) : Link := l.announce .connected

/-- Takes a new channel into use. -/
def install (l : Link) (channel : Nat) : Link := (l.fill channel).announceConnected

/-- Empties the slot if it still holds the channel that was lost; one that was replaced before is no
loss. -/
def vacate? (l : Link) (channel : Nat) : Option Link :=
  if l.slot = some channel then some { l with slot := none } else none

/-- Announces that there is no channel, unless that was announced before. -/
def announceLoss (l : Link) : Link :=
  if l.state = .connected then l.announce .disconnected else l

/-- Gives the channel up for good. -/
def close (l : Link) : Link := { l with slot := none }.announce .closed

/-- The name of the transport as a dependency. -/
def name : String := "queue_transport"

/-- The health of the link over a broker. -/
def health (l : Link) (b : Broker) : Health :=
  match l.state with
  | .connected =>
    if l.slot.any b.isOpen then .healthy else .unhealthy "channel closed"
  | .disconnected => .unhealthy "reconnecting"
  | .closed => .unhealthy "closed"

/-- The statistics of the link as a value. -/
def json (l : Link) (t : Topology) : Json :=
  .record [
    Json.always "state" (.str l.state.name),
    Json.always "backend" (.str Broker.backend),
    Json.always "prefetch_count" (.ofNat t.prefetch),
    Json.always "received" (.ofNat l.received),
    Json.always "completed" (.ofNat l.completed),
    Json.always "dead_lettered" (.ofNat l.deadLettered),
    Json.always "malformed" (.ofNat l.malformed),
    Json.always "published" (.ofNat l.published),
    Json.always "publish_failures" (.ofNat l.publishFailures),
    Json.always "reconnections" (.ofNat l.reconnections)]

end Link

end PushDelivery
