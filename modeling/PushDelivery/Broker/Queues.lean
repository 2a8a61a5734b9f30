import PushDelivery.Broker.Body

/-!
# The broker in memory

A broker that keeps its queues in memory. A message is routed to the queue of its name, and is
dropped if there is none. One channel is the current one; it is replaced by the next connection and
ended when the connection is severed. A message that was handed out is gone from its queue, and
comes back only if it is rejected with the wish to have it back.

## Main definitions

* `Topology`: the queues of the service.
* `Broker`: queues, channels and counters, with `connect`, `publish`, `acknowledge`, `reject`,
  `sever`, `close`.
* `Broker.enqueue`, `Broker.wake`: the two steps of which every arrival of a message consists.
-/

namespace PushDelivery

/-- The queues of the service, and how many messages may be in work at once. -/
structure Topology where
  exchange : String := "notifications.direct"
  pushQueue : String := "push.queue"
  failedQueue : String := "failed.queue"
  statusQueue : String := "status.queue"
  prefetch : Nat := 10
  deriving DecidableEq, Repr

/-- The queues to declare. -/
def Topology.queues (t : Topology) : List String := [t.pushQueue, t.failedQueue, t.statusQueue]

/-- The topology with room for one message at least. -/
def Topology.atLeastOne (t : Topology) : Topology := { t with prefetch := max 1 t.prefetch }

/-- A message that was handed out. -/
structure Handout where
  tag : Nat
  queue : String
  body : Body
  deriving DecidableEq, Repr

/-- A handed out message in diagnostics. -/
def Handout.debug (h : Handout) : String :=
  "Delivery \x7b delivery_tag: " ++ Nat.repr h.tag ++ ", body_len: " ++ Nat.repr h.body.size ++
    " \x7d"

/-- A broker. Channels are numbered in the order of their connections, and a closed one has a
reason. `epoch` counts the wake-up calls to consumers that sleep. -/
structure Broker where
  queues : List (String × List Body) := []
  channels : List (Option String) := []
  current : Option Nat := none
  connectFailures : Nat := 0
  connects : Nat := 0
  lastTag : Nat := 0
  acked : Nat := 0
  rejected : Nat := 0
  requeued : Nat := 0
  epoch : Nat := 0
  deriving DecidableEq, Repr

namespace Broker

/-- The name of this kind of broker. -/
def backend : String := "memory"

/-- Changes the messages of a queue, if it is declared. -/
def updateQueue (name : String) (f : List Body → List Body) :
    List (String × List Body) → List (String × List Body)
  | [] => []
  | (n, bodies) :: rest =>
    if n = name then (n, f bodies) :: rest else (n, bodies) :: updateQueue name f rest

/-- Whether a queue is declared. -/
def isDeclared (b : Broker) (queue : String) : Bool := b.queues.any (·.1 = queue)

/-- Declares a queue. -/
def declare (b : Broker) (queue : String) : Broker :=
  if b.isDeclared queue then b else { b with queues := b.queues ++ [(queue, [])] }

/-- The messages waiting in a queue. -/
def waiting (b : Broker) (queue : String) : List Body := (b.queues.lookup queue).getD []

/-- The number of messages waiting in a queue. -/
def depth (b : Broker) (queue : String) : Nat := (b.waiting queue).length

/-- Puts a message into a queue, at its front if it comes back. -/
def enqueue (b : Broker) (queue : String) (body : Body) (front : Bool) : Broker :=
  { b with
    queues := updateQueue queue (fun w => if front then body :: w else w ++ [body]) b.queues }

/-- Calls the consumers that sleep. -/
def wake (b : Broker) : Broker := { b with epoch := b.epoch + 1 }

/-- A message arrives at a queue. One for which there is no queue is dropped. -/
def arrive (b : Broker) (queue : String) (body : Body) (front : Bool) : Broker :=
  if b.isDeclared queue then (b.enqueue queue body front).wake else b

/-- A message comes from outside, and its queue is declared first. -/
def push (b : Broker) (queue : String) (body : Body) : Broker :=
  (b.declare queue).arrive queue body false

/-- Takes the first message out of a queue. -/
def pop? (b : Broker) (queue : String) : Option (Body × Broker) :=
  match b.waiting queue with
  | [] => none
  | body :: rest => some (body, { b with queues := updateQueue queue (fun _ => rest) b.queues })

/-- Takes all messages out of a queue. -/
def drain (b : Broker) (queue : String) : List Body × Broker :=
  (b.waiting queue, { b with queues := updateQueue queue (fun _ => []) b.queues })

/-- The reason why a channel was closed. -/
def closedReason? (b : Broker) (channel : Nat) : Option String := (b.channels[channel]?).bind id

/-- Whether a channel is open. -/
def isOpen (b : Broker) (channel : Nat) : Bool := b.channels[channel]? == some none

/-- Closes a channel for a reason, and calls its consumers. -/
def shut (b : Broker) (channel : Nat) (reason : String) : Broker :=
  { b with channels := b.channels.set channel (some reason) }.wake

/-- Closes a channel on the wish of its owner. -/
def close (b : Broker) (channel : Nat) : Broker := b.shut channel "closed by client"

/-- The connection is lost. -/
def sever (b : Broker) (reason : String) : Broker :=
  match b.current with
  | none => b
  | some channel => { b with current := none }.shut channel reason

/-- Opens a channel with the queues declared; the channel before it is closed. -/
def connect (b : Broker) (t : Topology) : Except BrokerError Nat × Broker :=
  if 0 < b.connectFailures then
    (.error (.connection "connection refused (simulated)"),
      { b with connectFailures := b.connectFailures - 1 })
  else
    let declared := t.queues.foldl declare b
    let channel := declared.channels.length
    let opened := { declared with channels := declared.channels ++ [none], current := some channel }
    let replaced := match b.current with
      | none => opened
      | some previous => opened.shut previous "replaced by new connection"
    (.ok channel, { replaced with connects := replaced.connects + 1 })

/-- Publishes a message over a channel. -/
def publish (b : Broker) (channel : Nat) (queue : String) (body : Body) :
    Except BrokerError Unit × Broker :=
  if b.isOpen channel then (.ok (), b.arrive queue body false) else (.error .notConnected, b)

/-- Settles a message that was handed out. -/
def acknowledge (b : Broker) : Broker := { b with acked := b.acked + 1 }

/-- Refuses a message that was handed out; it may come back to the front of its queue. -/
def reject (b : Broker) (h : Handout) (requeue : Bool) : Broker :=
  if requeue then { b with requeued := b.requeued + 1 }.arrive h.queue h.body true
  else { b with rejected := b.rejected + 1 }

end Broker

end PushDelivery
