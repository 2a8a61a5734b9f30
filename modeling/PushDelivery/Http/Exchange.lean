import PushDelivery.Text.Utf8

/-!
# Requests to other services

## Main definitions

* `Http.Request`: a request to another service.
* `Http.Reply`: its reply.
* `Http.Outage`: why there is none.
-/

namespace PushDelivery.Http

/-- A request to another service. -/
structure Request where
  method : String
  url : String
  authorization : Option String := none
  body : Option String := none
  deriving DecidableEq, Repr

/-- A reply: its status and its body. -/
structure Reply where
  status : Nat
  body : List UInt8
  deriving DecidableEq, Repr

/-- Why there is no reply. -/
inductive Outage
  | timeout
  | transport (detail : String)
  deriving DecidableEq, Repr

namespace Reply

/-- The service itself failed, or wants fewer requests. -/
def isUnable (r : Reply) : Bool := (500 ≤ r.status && r.status < 600) || r.status == 429

/-- The service refused the request. -/
def isRefusal (r : Reply) : Bool := 400 ≤ r.status && r.status < 500

/-- The text of the body; broken characters are replaced. -/
def text (r : Reply) : String := Text.Utf8.lossy r.body

end Reply

/-- A base address without slashes at its end. -/
def trimBase (url : String) : String :=
  String.ofList (url.toList.reverse.dropWhile (· = '/')).reverse

end PushDelivery.Http
