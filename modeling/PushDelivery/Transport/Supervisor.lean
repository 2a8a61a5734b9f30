import PushDelivery.Transport.Station

/-!
# The supervisor

The supervisor watches the channel in use and connects again once it is lost, until it succeeds or
the service shuts down. It holds the lock of the connection while it connects and while it rests
between two attempts.

## Main definitions

* `Supervisor`: where it stands.
* `Supervisor.isReady`: whether it has anything to do.
* `Supervisor.step`: one step, which changes slot or announced state once at most.
-/

namespace PushDelivery

/-- Where the supervisor stands: it looks for a channel, watches one, is about to announce its loss,
waits for the lock, connects, is about to announce the new channel, rests after a failure, or has
stopped. -/
inductive Supervisor
  | looking
  | watching (channel : Nat)
  | reporting
  | locking
  | connecting
  | announcing
  | resting (due : Instant)
  | stopped
  deriving DecidableEq, Repr

namespace Supervisor

/-- Whether the lock of the connection is held. -/
def holdsLock : Supervisor → Bool
  | .connecting | .announcing | .resting _ => true
  | _ => false

/-- Whether there is anything to do. -/
def isReady (s : Station) (lockFree : Bool) : Supervisor → Bool
  | .watching channel =>
    s.cancelled || (s.broker.closedReason? channel).isSome || s.link.state != .connected
  | .locking => lockFree
  | .resting due => s.cancelled || decide (due ≤ s.now)
  | .stopped => false
  | .looking | .reporting | .connecting | .announcing => true

/-- After the channel is gone: connect again, unless the service shuts down. -/
def recover (s : Station) : Supervisor := if s.cancelled then .stopped else .locking

/-- One step. -/
def step (s : Station) : Supervisor → Supervisor × Station
  | .looking =>
    match s.link.slot with
    | some channel => (.watching channel, s)
    | none => (recover s, s)
  | .watching channel =>
    if s.cancelled then (.stopped, s)
    else if (s.broker.closedReason? channel).isSome then
      match s.link.vacate? channel with
      | some link => (.reporting, { s with link })
      | none => (recover s, s)
    else (recover s, s)
  | .reporting =>
    let s := s.announceLoss
    (recover s, s)
  | .locking => (if s.link.slot.any s.broker.isOpen then .looking else .connecting, s)
  | .connecting =>
    if s.cancelled then (.stopped, s)
    else
      match s.openChannel with
      | (.ok channel, s) => (.announcing, { s with link := s.link.fill channel })
      | (.error _, s) => (.resting (Duration.ceilMillis (s.now + s.reconnectDelay)), s)
  | .announcing => (.looking, s.announceConnected.noteReconnection)
  | .resting _ => (if s.cancelled then .stopped else .connecting, s)
  | .stopped => (.stopped, s)

end Supervisor

end PushDelivery
