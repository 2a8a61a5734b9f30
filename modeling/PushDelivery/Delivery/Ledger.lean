import PushDelivery.Delivery.Error
import PushDelivery.Notification.Report

/-!
# The ledger of a delivery

A delivery may take several attempts, and an attempt several requests. The ledger keeps every
outcome that the gateway reported, and the latest one of a device is the one that counts.

## Main definitions

* `Ledger.record`: takes in the outcomes of a request.
* `Ledger.pending`: the devices that are still to be reached.
* `Ledger.results`: one outcome per device for the report.
-/

namespace PushDelivery

/-- The outcomes reported so far, the latest first, all of one correlation. -/
structure Ledger where
  correlationId : Option String
  history : List Outcome
  deriving Repr

namespace Ledger

/-- A ledger before the first request. -/
def empty (correlationId : Option String) : Ledger := ⟨correlationId, []⟩

/-- Takes in outcomes in their order. -/
def record (l : Ledger) (outcomes : List Outcome) : Ledger :=
  { l with
    history :=
      (outcomes.map fun o => { o with correlationId := l.correlationId }).reverse ++ l.history }

/-- The outcome that counts for a device. -/
def outcome? (l : Ledger) (token : String) : Option Outcome :=
  l.history.find? (·.deviceToken = token)

/-- Whether a device was reached. -/
def isReached (l : Ledger) (token : String) : Bool :=
  match l.outcome? token with
  | some o => o.success
  | none => false

/-- The devices of a list that were not reached. -/
def pending (l : Ledger) (tokens : List String) : List String :=
  tokens.filter (!l.isReached ·)

/-- The outcomes known for a list of devices. -/
def outcomes (l : Ledger) (tokens : List String) : List Outcome :=
  tokens.filterMap l.outcome?

/-- One outcome per device. A device without one failed for the reason of the whole delivery. -/
def results (l : Ledger) (tokens : List String) (error : Option DeliveryError) (now : Moment) :
    List Outcome :=
  let reason := match error with
    | some e => e.message
    | none => "not attempted"
  tokens.map fun t =>
    match l.outcome? t with
    | some o => o
    | none => { Outcome.failed t reason now with correlationId := l.correlationId }

end Ledger

end PushDelivery
