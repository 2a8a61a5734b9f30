import PushDelivery.Transport.Station

/-!
# The consumer

The consumer takes messages from the push queue, at most as many at once as the topology allows, and
starts a delivery for each. When its stream ends it reports the loss of the channel and goes on with
the next one. On shutdown it takes nothing more, and stops once all deliveries that it started are
over.

## Main definitions

* `Consumer`: where it stands.
* `Consumer.isReady`: whether it has anything to do.
* `Consumer.step`: one step, with the message it takes.
-/

namespace PushDelivery

/-- Where the consumer stands: it seeks a channel, having heard some number of announcements; waits
for the next announcement; starts a stream; waits for room for another delivery; takes a message,
with room reserved for it; has lost a channel; is about to announce the loss; waits for its
deliveries; or has stopped. -/
inductive Consumer
  | seeking (heard : Nat)
  | waiting (heard : Nat)
  | subscribing (channel : Nat)
  | making (stream : Stream)
  | taking (stream : Stream)
  | losing (channel : Nat)
  | reporting
  | draining
  | stopped
  deriving DecidableEq, Repr

namespace Consumer

/-- Before its first step, with all announcements so far heard. -/
def start (s : Station) : Consumer := .seeking s.link.announcements

/-- Whether room is reserved for a message. -/
def reserves : Consumer → Bool
  | .taking _ => true
  | _ => false

/-- The most deliveries at once. -/
def room (t : Topology) : Nat := max 1 t.prefetch

/-- Whether a stream has anything to tell. -/
def hasNews (s : Station) (stream : Stream) : Bool :=
  match stream.phase with
  | .asleep since => Stream.isCalled s.broker stream since
  | _ => true

/-- Whether there is anything to do while `inWork` deliveries are not over. -/
def isReady (s : Station) (inWork : Nat) : Consumer → Bool
  | .waiting heard => s.cancelled || s.link.announcements != heard
  | .making _ => s.cancelled || decide (inWork < room s.topology)
  | .taking stream => s.cancelled || hasNews s stream
  | .draining => inWork == 0
  | .stopped => false
  | .seeking _ | .subscribing _ | .losing _ | .reporting => true

/-- Takes what a stream tells. -/
def take (s : Station) (stream : Stream) : Consumer × Station × Option Handout :=
  let (outcome, broker, stream) := Stream.poll s.broker stream
  let s := { s with broker }
  match outcome with
  | .handed h =>
    if 0 < s.faults.take then
      (.losing stream.channel, { s with faults := { s.faults with take := s.faults.take - 1 } },
        none)
    else (.making stream, s, some h)
  | .ended => (.losing stream.channel, s, none)
  | .moved | .sleeps => (.taking stream, s, none)

/-- One step, and the message that it takes. -/
def step (s : Station) : Consumer → Consumer × Station × Option Handout
  | .seeking heard =>
    if s.cancelled then (.draining, s, none)
    else
      match s.link.slot with
      | some channel => (.subscribing channel, s, none)
      | none => (.waiting heard, s, none)
  | .waiting _ => (if s.cancelled then .draining else .seeking s.link.announcements, s, none)
  | .subscribing channel =>
    match s.consume channel with
    | (.ok stream, s) => (.making stream, s, none)
    | (.error _, s) => (.losing channel, s, none)
  | .making stream => (if s.cancelled then .draining else .taking stream, s, none)
  | .taking stream => if s.cancelled then (.draining, s, none) else take s stream
  | .losing channel =>
    match s.link.vacate? channel with
    | some link => (.reporting, { s with link }, none)
    | none => (start s, s, none)
  | .reporting =>
    let s := s.announceLoss
    (start s, s, none)
  | .draining => (.stopped, s, none)
  | .stopped => (.stopped, s, none)

end Consumer

end PushDelivery
