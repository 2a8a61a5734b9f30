import PushDelivery.Broker.Stream
import PushDelivery.Delivery.Scene
import PushDelivery.Transport.Link
import PushDelivery.Transport.Settlement

/-!
# The surroundings of the transport

The supervisor, the consumer and the deliveries in work share one station: the scene of the
deliveries, the broker and the link to it. A wish to cancel is the shutdown of all of them. For
rehearsals the next operations of the broker can be made to fail.

## Main definitions

* `Station`: the surroundings.
* `Station.install`, `Station.announceLoss`: changes of the link, with their metrics.
* `Station.perform`: the answer to each request of settling a message.
-/

namespace PushDelivery

/-- How many of the next operations of each kind fail. A message that is taken while `take` counts
is lost. -/
structure Faults where
  publish : Nat := 0
  consume : Nat := 0
  take : Nat := 0
  settle : Nat := 0
  deriving DecidableEq, Repr

/-- The surroundings of the transport. -/
structure Station extends Scene where
  topology : Topology := {}
  reconnectDelay : Duration := Duration.ofSeconds 5
  broker : Broker := {}
  link : Link := {}
  faults : Faults := {}

namespace Station

/-- A new channel is announced. -/
def announceConnected (s : Station) : Station :=
  { s with link := s.link.announceConnected, metrics := s.metrics.setConnected true }

/-- A new channel is taken into use. -/
def install (s : Station) (channel : Nat) : Station :=
  { s with link := s.link.fill channel }.announceConnected

/-- The loss of the channel is announced, unless the service shuts down. -/
def announceLoss (s : Station) : Station :=
  if s.cancelled then s
  else { s with link := s.link.announceLoss, metrics := s.metrics.setConnected false }

/-- A connection that was lost is there again. -/
def noteReconnection (s : Station) : Station :=
  { s with
    link := { s.link with reconnections := s.link.reconnections + 1 }
    metrics := { s.metrics with reconnections := s.metrics.reconnections + 1 } }

/-- Opens a channel to the broker. -/
def openChannel (s : Station) : Except BrokerError Nat × Station :=
  let (result, broker) := s.broker.connect s.topology
  (result, { s with broker })

/-- Connects for the first time, or anew. -/
def connect (s : Station) : Except BrokerError Unit × Station :=
  match s.openChannel with
  | (.error e, s) => (.error e, s)
  | (.ok channel, s) => (.ok (), s.install channel)

/-- Gives the connection up for good. -/
def close (s : Station) : Station :=
  { s with
    link := s.link.close
    broker := match s.link.slot with
      | some channel => s.broker.close channel
      | none => s.broker
    metrics := s.metrics.setConnected false }

/-- The failure of an operation that was made to fail. -/
def fault (operation : String) : BrokerError := .operation (operation ++ " fault")

/-- Starts a stream on the push queue. -/
def consume (s : Station) (channel : Nat) : Except BrokerError Stream × Station :=
  if 0 < s.faults.consume then
    (.error (fault "consume"),
      { s with faults := { s.faults with consume := s.faults.consume - 1 } })
  else (s.broker.consume channel s.topology.pushQueue, s)

/-- Publishes a message over a channel. -/
def publishOver (s : Station) (channel : Nat) (queue : String) (body : Body) :
    Except BrokerError Unit × Station :=
  if 0 < s.faults.publish then
    (.error (fault "publish"),
      { s with faults := { s.faults with publish := s.faults.publish - 1 } })
  else
    let (result, broker) := s.broker.publish channel queue body
    (result, { s with broker })

/-- Settles a message at the broker. -/
def settleAt (s : Station) (settled : Broker) : Except BrokerError Unit × Station :=
  if 0 < s.faults.settle then
    (.error (fault "ack"), { s with faults := { s.faults with settle := s.faults.settle - 1 } })
  else (.ok (), { s with broker := settled })

/-- What an event adds to the counters. -/
def noteEvent (s : Station) : Transport.Event → Station
  | .received =>
    { s with
      link := { s.link with received := s.link.received + 1 }
      metrics := { s.metrics with jobsReceived := s.metrics.jobsReceived + 1 } }
  | .malformed =>
    { s with
      link := { s.link with malformed := s.link.malformed + 1 }
      metrics := { s.metrics with malformed := s.metrics.malformed + 1 } }
  | .completed => { s with link := { s.link with completed := s.link.completed + 1 } }
  | .published queue =>
    { s with
      link := { s.link with published := s.link.published + 1 }
      metrics := { s.metrics with published := s.metrics.published.add queue 1 } }
  | .publishFailed =>
    { s with link := { s.link with publishFailures := s.link.publishFailures + 1 } }
  | .deadLettered reason =>
    { s with
      link := { s.link with deadLettered := s.link.deadLettered + 1 }
      metrics := { s.metrics with jobsDeadLettered := s.metrics.jobsDeadLettered.add reason 1 } }

/-- The answer to a request of settling a message. -/
def perform (s : Station) : (r : Transport.Request) → Response r.Answer × Station
  | .delivery r =>
    let (response, scene) := s.toScene.perform r
    (response, { s with toScene := scene })
  | .channel => (.now s.link.slot, s)
  | .publishOver channel queue body =>
    let (result, s) := s.publishOver channel queue body
    (.now result, s)
  | .acknowledge _ =>
    let (result, s) := s.settleAt s.broker.acknowledge
    (.now result, s)
  | .refuse h =>
    let (result, s) := s.settleAt (s.broker.reject h false)
    (.now result, s)
  | .note e => (.now (), s.noteEvent e)

/-- The health of every dependency. -/
def health (s : Station) : HealthReport :=
  ⟨[(s.breakerName, s.breaker.circuit.health), (Link.name, s.link.health s.broker),
    (Store.name, s.store.health)]⟩

end Station

end PushDelivery
