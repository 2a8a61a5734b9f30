import PushDelivery.Service.Schedule

/-!
# Operating the service

What is done to a running service from outside. After each operation all tasks take their turns
until they wait.

## Main definitions

* `Service.connect`, `supervise`, `consume`, `shutdown`, `close`: the life of the service.
* `Service.atBroker`: what others do at the broker.
* `Service.carryOut`: publications of the service.
-/

namespace PushDelivery

namespace Station

/-- A run that is answered at once throughout, to its end. -/
def complete {α : Type} : Run Transport.interface α → Station → Option α × Station
  | .done a, s => (some a, s)
  | .ask r next, s =>
    match s.perform r with
    | (.now answer, s) => complete (next answer) s
    | (_, s) => (none, s)

end Station

namespace Service

/-- Changes the station. -/
def atStation (s : Service) (f : Station → Station) : Service :=
  ({ s with station := f s.station } : Service).settle

/-- What others do at the broker. -/
def atBroker (s : Service) (f : Broker → Broker) : Service :=
  s.atStation fun st => { st with broker := f st.broker }

/-- Connects to the broker, once no other task does. -/
def connect (s : Service) : Option (Except BrokerError Unit) × Service :=
  let s := (({ s with connected := none } : Service).start .connection).settle
  let s := awaitConnection patience s
  (s.connected, s)

/-- Starts a supervisor. -/
def supervise (s : Service) : Service := (s.start (.supervisor .looking)).settle

/-- Starts a consumer. -/
def consume (s : Service) : Service := (s.start (.consumer (Consumer.start s.station))).settle

/-- Shuts the service down. -/
def shutdown (s : Service) : Service := s.atStation fun st => { st with cancelled := true }

/-- Gives the connection up for good. -/
def close (s : Service) : Service := s.atStation Station.close

/-- A publication of the service. -/
def carryOut {α : Type} (s : Service) (run : Run Transport.interface α) : Option α × Service :=
  let (result, station) := Station.complete run s.station
  (result, ({ s with station } : Service).settle)

/-- What the task that was started last tells, of those that tell anything. -/
def latest? {α : Type} (s : Service) (tell : Task → Option α) : Option α :=
  ((s.ready ++ s.waiting).foldl (fun (best : Option (Nat × α)) t =>
    match tell t.2 with
    | none => best
    | some a => if best.any (t.1 < ·.1) then best else some (t.1, a)) none).map (·.2)

/-- Whether the last supervisor has stopped, if there was one. -/
def supervisorStopped? (s : Service) : Option Bool :=
  s.latest? fun
    | .supervisor state => some (state == .stopped)
    | _ => none

/-- Whether the last consumer has stopped, if there was one. -/
def consumerStopped? (s : Service) : Option Bool :=
  s.latest? fun
    | .consumer state => some (state == .stopped)
    | _ => none

end Service

end PushDelivery
