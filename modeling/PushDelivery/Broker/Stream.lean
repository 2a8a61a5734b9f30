import PushDelivery.Broker.Queues

/-!
# Consumer streams

A stream hands out the messages of a queue over one channel. It sleeps while there is none, and ends
with its channel. Between sleeping and looking at the queue lie steps of their own, and anything may
happen between them: a stream listens for wake-up calls first, then looks whether its channel is
closed, then at the queue, and only then goes to sleep, to be woken by every call since it began to
listen.

## Main definitions

* `Stream`: a stream, `Stream.step` one step of it.
* `Stream.poll`: steps until there is something to tell.
-/

namespace PushDelivery

/-- Where a stream stands. `since` is the number of wake-up calls when it began to listen. -/
inductive Stream.Phase
  | idle
  | listening (since : Nat)
  | looking (since : Nat)
  | asleep (since : Nat)
  | ended
  deriving DecidableEq, Repr

/-- A stream of the messages of a queue over a channel. -/
structure Stream where
  channel : Nat
  queue : String
  phase : Stream.Phase := .idle
  deriving DecidableEq, Repr

namespace Stream

/-- What a step comes to: it moved, it handed out a message, it sleeps, or the stream has ended. -/
inductive Outcome
  | moved
  | handed (handout : Handout)
  | sleeps
  | ended
  deriving DecidableEq, Repr

/-- Whether a stream that listened since some call has anything to wake up for. -/
def isCalled (b : Broker) (s : Stream) (since : Nat) : Bool :=
  decide (since < b.epoch) || (b.closedReason? s.channel).isSome

/-- One step. -/
def step (b : Broker) (s : Stream) : Outcome × Broker × Stream :=
  match s.phase with
  | .idle => (.moved, b, { s with phase := .listening b.epoch })
  | .listening since =>
    if (b.closedReason? s.channel).isSome then (.ended, b, { s with phase := .ended })
    else (.moved, b, { s with phase := .looking since })
  | .looking since =>
    match b.pop? s.queue with
    | some (body, b) =>
      let tag := b.lastTag + 1
      (.handed ⟨tag, s.queue, body⟩, { b with lastTag := tag }, { s with phase := .idle })
    | none => (.sleeps, b, { s with phase := .asleep since })
  | .asleep since =>
    if isCalled b s since then (.moved, b, { s with phase := .idle }) else (.sleeps, b, s)
  | .ended => (.ended, b, s)

/-- Steps until one does more than move, at most `fuel` of them. -/
def pollWithin : Nat → Broker → Stream → Outcome × Broker × Stream
  | 0, b, s => (.moved, b, s)
  | fuel + 1, b, s =>
    match step b s with
    | (.moved, b, s) => pollWithin fuel b s
    | result => result

/-- Steps until a message is handed out, the stream sleeps, or it has ended. From sleep this takes
four steps at most. -/
def poll (b : Broker) (s : Stream) : Outcome × Broker × Stream :=
  pollWithin 4 b s

end Stream

namespace Broker

/-- Starts a stream over a channel. -/
def consume (b : Broker) (channel : Nat) (queue : String) : Except BrokerError Stream :=
  if b.isOpen channel then .ok { channel, queue } else .error .notConnected

end Broker

end PushDelivery
