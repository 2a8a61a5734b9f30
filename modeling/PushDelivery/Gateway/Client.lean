import PushDelivery.Delivery.Error
import PushDelivery.Http.Exchange
import PushDelivery.Json.Printer
import PushDelivery.Json.Record
import PushDelivery.Notification.Report

/-!
# The push gateway over HTTP

The gateway takes the content for one device or for several in one request. A refusal is a matter of
the devices: each of them failed for the reason in the reply. Only a gateway that cannot work at all
is a failure of the request.

## Main definitions

* `Gateway`: address and key of a gateway.
* `Gateway.sendRequest`, `Gateway.sendManyRequest`: the requests.
* `Gateway.readSend`, `Gateway.readSendMany`: what the replies say.
-/

namespace PushDelivery

/-- A push gateway: its address without slashes at the end, and the key to it. -/
structure Gateway where
  base : String
  apiKey : Option String
  deriving DecidableEq, Repr

namespace Gateway

/-- A gateway at an address. -/
def ofUrl (url : String) (apiKey : Option String) : Gateway := ⟨Http.trimBase url, apiKey⟩

/-- A request with a value. -/
def post (g : Gateway) (path : String) (body : Json) : Http.Request :=
  { method := "POST"
    url := g.base ++ path
    authorization := g.apiKey.map ("Bearer " ++ ·)
    body := some body.render }

/-- The request for one device. -/
def sendRequest (g : Gateway) (token : String) (content : Content) : Http.Request :=
  g.post "/v1/send" (.record [
    Json.always "token" (.str (Text.trim token)),
    Json.always "notification" content.json])

/-- The request for several devices. -/
def sendManyRequest (g : Gateway) (tokens : List String) (content : Content) : Http.Request :=
  g.post "/v1/send-many" (.record [
    Json.always "tokens" (.arr (tokens.map fun t => .str (Text.trim t))),
    Json.always "notification" content.json])

/-- What a reply says about one device. -/
structure Verdict where
  success : Bool
  messageId : Option String
  error : Option String
  deriving DecidableEq, Repr

namespace Verdict

/-- The fields of a verdict. -/
def names : List String := ["success", "message_id", "error"]

/-- The verdict that a document holds. -/
def ofDocument? (d : Document) : Option Verdict := do
  let f ← d.record? names
  pure {
    success := ← f.required "success" Document.bool?
    messageId := ← f.optional "message_id" Document.text?
    error := ← f.optional "error" Document.text? }

/-- The outcome of a device. -/
def outcome (v : Verdict) (token : String) (now : Moment) : Outcome :=
  if v.success then .delivered token (v.messageId.getD "") now
  else .failed token (v.error.getD "rejected by provider") now

end Verdict

/-- The verdicts that a document holds; it may hold none. -/
def verdicts? (d : Document) : Option (Option (List Verdict)) := do
  let f ← d.record? ["responses"]
  f.optional "responses" (Document.list? Verdict.ofDocument?)

/-- A request that had no reply. -/
def outageError : Http.Outage → GatewayError
  | .timeout => .timeout
  | .transport detail => .transport detail

/-- A reply that cannot be read. -/
def unreadable : GatewayError := .invalidResponse "error decoding response body"

/-- Why a gateway refused a request. -/
def refusalReason (r : Http.Reply) : String :=
  if r.body = [] then "rejected with status " ++ Nat.repr r.status else r.text

/-- What a reply says, by what a refusal and what a document say. -/
def read {α : Type} (reply : Except Http.Outage Http.Reply) (refused : String → α)
    (answer : Document → Option α) : Except GatewayError α :=
  match reply with
  | .error outage => .error (outageError outage)
  | .ok r =>
    if r.isUnable then .error (.status r.status r.text)
    else if r.isRefusal then .ok (refused (refusalReason r))
    else
      match (Document.read? (Text.Utf8.cells r.body)).bind answer with
      | some a => .ok a
      | none => .error unreadable

/-- What the reply to a request for one device says. -/
def readSend (token : String) (now : Moment) (reply : Except Http.Outage Http.Reply) :
    Except GatewayError Outcome :=
  let token := Text.trim token
  read reply (Outcome.failed token · now) fun d =>
    (Verdict.ofDocument? d).map (·.outcome token now)

/-- The reason for a reply that does not fit the devices of the request. -/
def mismatch : String := "gateway response mismatch"

/-- The outcomes of several devices by the verdicts on them, of which there has to be one for
each. -/
def outcomes (tokens : List String) (now : Moment) : Option (List Verdict) → List Outcome
  | some verdicts =>
    if verdicts.length = tokens.length then
      List.zipWith (fun v t => Verdict.outcome v t now) verdicts tokens
    else tokens.map (Outcome.failed · mismatch now)
  | none => tokens.map (Outcome.failed · mismatch now)

/-- What the reply to a request for several devices says. -/
def readSendMany (tokens : List String) (now : Moment) (reply : Except Http.Outage Http.Reply) :
    Except GatewayError (List Outcome) :=
  let tokens := tokens.map Text.trim
  read reply (fun reason => tokens.map (Outcome.failed · reason now)) fun d =>
    (verdicts? d).map (outcomes tokens now)

end Gateway

end PushDelivery
