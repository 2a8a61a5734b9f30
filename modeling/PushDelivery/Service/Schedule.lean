import PushDelivery.Delivery.Courier
import PushDelivery.Service.Task

/-!
# The service under virtual time

Here the tasks of the service take turns in one particular order: the first of those that are ready
runs until it has to wait, and tasks that become ready stand in line behind the others. The clock
stands still as long as any task is ready, and then moves on to the next instant for which a task
waits.

## Main definitions

* `Service`: the station and the tasks.
* `Service.tick`: one turn.
* `Service.settle`: turns until all tasks wait.
* `Service.advance`: the time moves on.
-/

namespace PushDelivery

/-- The service: its station, the courier for its jobs, the tasks that are ready and those that
wait, each in the order in which they came to that, and the result of the last connection that was
asked for. -/
structure Service where
  station : Station := {}
  courier : Courier := {}
  ready : List (Nat × Task) := []
  waiting : List (Nat × Task) := []
  tasks : Nat := 0
  connected : Option (Except BrokerError Unit) := none

namespace Service

/-- Starts a task. -/
def start (s : Service) (task : Task) : Service :=
  { s with ready := s.ready ++ [(s.tasks, task)], tasks := s.tasks + 1 }

/-- The other tasks beside one. -/
def others (s : Service) (number : Nat) : List (Nat × Task) :=
  (s.ready ++ s.waiting).filter (·.1 ≠ number)

/-- Whether a task is ready. -/
def isReady (s : Service) (t : Nat × Task) : Bool :=
  t.2.isReady s.station (s.others t.1) t.1

/-- Lets the tasks stand in line that have become ready. -/
def rouse (s : Service) : Service :=
  { s with
    ready := s.ready ++ s.waiting.filter s.isReady
    waiting := s.waiting.filter (!s.isReady ·) }

/-- The delivery of a message that a consumer took. -/
def deliveryOf (s : Service) (consumer : Nat) (h : Handout) : Task :=
  .delivery consumer (.ready (Transport.settle s.station.topology s.courier.process h))

/-- One turn of the first task that is ready; nothing if there is none. -/
def tick (s : Service) : Option Service :=
  match s.ready with
  | [] => none
  | (number, task) :: rest =>
    let turned := task.step s.station
    let s := { s with
      station := turned.station
      ready := rest
      connected := turned.connected.or s.connected }
    let s := match turned.taken with
      | some h => s.start (s.deliveryOf number h)
      | none => s
    let s := match turned.task with
      | none => s
      | some task =>
        if s.isReady (number, task) then { s with ready := (number, task) :: s.ready }
        else { s with waiting := s.waiting ++ [(number, task)] }
    some s.rouse

/-- Turns until all tasks wait, at most `fuel` of them. -/
def settleWithin : Nat → Service → Service
  | 0, s => s
  | fuel + 1, s =>
    match s.tick with
    | none => s
    | some s => settleWithin fuel s

/-- The most turns at one instant. -/
def patience : Nat := 10000000

/-- Turns until all tasks wait. -/
def settle (s : Service) : Service := settleWithin patience s.rouse

/-- The next instant for which a task waits. -/
def nextDue? (s : Service) : Option Instant := (s.waiting.filterMap (·.2.due?)).min?

/-- Moves the clock. -/
def setClock (s : Service) (t : Instant) : Service :=
  { s with station := { s.station with now := max s.station.now t } }

/-- Lets the time move on to an instant, with the turns that fall due on the way, at most at `fuel`
instants. -/
def advanceWithin : Nat → Instant → Service → Service
  | 0, target, s => s.setClock target
  | fuel + 1, target, s =>
    match s.nextDue? with
    | some due =>
      if due ≤ target then advanceWithin fuel target (s.setClock due).settle
      else s.setClock target
    | none => s.setClock target

/-- Lets the time move on to an instant, with the turns that fall due on the way. -/
def advanceTo (s : Service) (target : Instant) : Service :=
  (advanceWithin patience target s.settle).settle

/-- Lets a duration pass. -/
def advance (s : Service) (d : Duration) : Service := s.advanceTo (s.station.now + d)

/-- Lets the time move on until a connection that was asked for has a result. -/
def awaitConnection : Nat → Service → Service
  | 0, s => s
  | fuel + 1, s =>
    if s.connected.isSome then s
    else
      match s.nextDue? with
      | some due => awaitConnection fuel (s.setClock due).settle
      | none => s

end Service

end PushDelivery
