import PushDelivery.Transport.Consumer
import PushDelivery.Transport.Supervisor

/-!
# Tasks

The tasks of the service run side by side on one station, and each runs until it has to wait. The
order in which they get their turns is no part of them.

## Main definitions

* `Stage`: where a delivery in work stands.
* `Task`: a supervisor, a consumer, a delivery in work, or a connection that is asked for.
* `Task.isReady`, `Task.step`: what a task does in its turn.
-/

namespace PushDelivery

/-- Where a delivery in work stands: it can go on, waits for an answer, or makes a pause. An answer
that is none crashes it. -/
inductive Stage
  | ready (run : Run Transport.interface Unit)
  | expecting (due : Instant) (next : Option (Run Transport.interface Unit))
  | pausing (due : Instant) (next : Pause → Run Transport.interface Unit)

namespace Stage

/-- Goes on until the delivery is over, for which there is no stage, or has to wait. -/
def advance : Run Transport.interface Unit → Station → Option Stage × Station
  | .done _, s => (none, s)
  | .ask r next, s =>
    match s.perform r with
    | (.now answer, s) => advance (next answer) s
    | (.later due answer, s) => (some (.expecting due (some (next answer))), s)
    | (.pausing due answer, s) => (some (.pausing due fun p => next (answer p)), s)
    | (.crash, s) => (none, s)
    | (.crashLater due, s) => (some (.expecting due none), s)

/-- When the delivery goes on by itself. -/
def due? : Stage → Option Instant
  | .ready _ => none
  | .expecting due _ | .pausing due _ => some due

/-- Whether the delivery can go on. -/
def isReady (s : Station) : Stage → Bool
  | .ready _ => true
  | .expecting due _ => decide (due ≤ s.now)
  | .pausing due _ => s.cancelled || decide (due ≤ s.now)

/-- Goes on, if it can. -/
def step (s : Station) : Stage → Option Stage × Station
  | .ready run => advance run s
  | .expecting _ (some run) => advance run s
  | .expecting _ none => (none, s)
  | .pausing _ next => advance (next (if s.cancelled then .cancelled else .elapsed)) s

end Stage

/-- A task; a delivery knows the number of the consumer that started it. -/
inductive Task
  | supervisor (state : Supervisor)
  | consumer (state : Consumer)
  | delivery (owner : Nat) (stage : Stage)
  | connection

namespace Task

/-- Whether a task holds the lock of the connection. -/
def holdsLock : Task → Bool
  | .supervisor state => state.holdsLock
  | _ => false

/-- Whether a task is a delivery of a consumer. -/
def isDeliveryOf (owner : Nat) : Task → Bool
  | .delivery o _ => o == owner
  | _ => false

/-- When a task goes on by itself. -/
def due? : Task → Option Instant
  | .supervisor (.resting due) => some due
  | .delivery _ stage => stage.due?
  | _ => none

/-- Whether a task has anything to do beside others. -/
def isReady (s : Station) (others : List (Nat × Task)) (number : Nat) : Task → Bool
  | .supervisor state => state.isReady s (others.all (!·.2.holdsLock))
  | .consumer state => state.isReady s (others.countP (·.2.isDeliveryOf number))
  | .delivery _ stage => stage.isReady s
  | .connection => others.all (!·.2.holdsLock)

/-- What a turn of a task leaves: the station, the task unless it is over, a message that it took,
and the result of a connection. -/
structure Turned where
  station : Station
  task : Option Task
  taken : Option Handout := none
  connected : Option (Except BrokerError Unit) := none

/-- A turn of a task. -/
def step (s : Station) : Task → Turned
  | .supervisor state =>
    let (state, s) := state.step s
    { station := s, task := some (.supervisor state) }
  | .consumer state =>
    let (state, s, taken) := state.step s
    { station := s, task := some (.consumer state), taken }
  | .delivery owner stage =>
    let (stage, s) := stage.step s
    { station := s, task := stage.map (.delivery owner) }
  | .connection =>
    let (result, s) := s.connect
    { station := s, task := none, connected := some result }

end Task

end PushDelivery
