import PushDelivery.Json.Document
import PushDelivery.Json.Printer
import PushDelivery.Text.Utf8

/-!
# Message bodies and broker failures

The service writes its messages as JSON texts. What other programs put on a queue is any sequence of
octets.

## Main definitions

* `Body`: the content of a message.
* `Body.document?`: the document that a body spells.
* `BrokerError`: why an operation of the broker failed.
-/

namespace PushDelivery

open Text

/-- The content of a message. -/
inductive Body
  | text (value : String)
  | octets (value : List UInt8)
  deriving DecidableEq, Repr

namespace Body

/-- The characters of a body. -/
def cells : Body → List Cell
  | .text s => s.toList.map some
  | .octets o => Utf8.cells o

/-- The length of a body in octets. -/
def size : Body → Nat
  | .text s => s.utf8ByteSize
  | .octets o => o.length

/-- The octets of a body. -/
def toOctets : Body → List UInt8
  | .text s => Utf8.octets s
  | .octets o => o

/-- The text of a body, if it is one. -/
def text? : Body → Option String
  | .text s => some s
  | .octets o => Utf8.text? o

/-- The document that a body spells. -/
def document? (b : Body) : Option Document := Document.read? b.cells

/-- The body that a value is written as. -/
def ofJson (v : Json) : Body := .text v.render

end Body

/-- An operation of the broker failed. -/
inductive BrokerError
  | connection (detail : String)
  | operation (detail : String)
  | notConnected
  | serialization (detail : String)
  deriving DecidableEq, Repr

/-- The wording of a failure. -/
def BrokerError.message : BrokerError → String
  | .connection detail => "Broker connection failed: " ++ detail
  | .operation detail => "Broker operation failed: " ++ detail
  | .notConnected => "Not connected to broker"
  | .serialization detail => "Failed to serialize message: " ++ detail

/-- The key of an object. -/
def Json.key? : Json → Except BrokerError String
  | .str s => .ok s
  | _ => .error (.serialization "key must be a string")

/-- The body of a message that is given by pairs of a key and a value. -/
def Body.ofPairs? (pairs : List (Json × Json)) : Except BrokerError Body := do
  let fields ← pairs.mapM fun p => return (← p.1.key?, p.2)
  pure (.ofJson (.obj fields))

end PushDelivery
