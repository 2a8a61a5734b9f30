import PushDelivery.Guard.Address

/-!
# Backends

Broker and guard store live in memory, or on servers of their own. A name that is not known stands
for the server.
-/

namespace PushDelivery.Backend

/-- Where the broker lives. -/
inductive Broker
  | memory
  | amqp
  deriving DecidableEq, Repr

/-- The name of a broker backend. -/
def Broker.name : Broker → String
  | .memory => "memory"
  | .amqp => "amqp"

/-- The broker backend that a setting names. -/
def broker (setting : String) : Broker := if setting = "memory" then .memory else .amqp

/-- Where the guard store lives, if the address of its server is one. -/
inductive Guard
  | memory
  | redis
  | invalid
  deriving DecidableEq, Repr

/-- The guard store backend that a setting and an address name. -/
def guard (setting url : String) : Guard :=
  if setting = "memory" then .memory
  else if (Redis.Address.ofText? url).isSome then .redis
  else .invalid

end PushDelivery.Backend
