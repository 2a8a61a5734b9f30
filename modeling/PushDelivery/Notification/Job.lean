import PushDelivery.Json.Parts
import PushDelivery.Text.Blank

/-!
# Jobs

A job asks for one notification to be sent to the devices of one user. It arrives as a message on
the push queue, and carries its content itself or names a template to render.

## Main definitions

* `Job`: the message, with `Job.json` and `Job.ofDocument?` as its written form and its reader.
* `Job.validTokens`: the devices to send to.
* `Job.problem?`: why a job cannot be delivered, if it cannot.
* `Content`: what is handed to the push gateway, with `Content.ofJob` taking it from the job.
-/

namespace PushDelivery

/-- How urgent a notification is. -/
inductive Priority
  | normal
  | high
  deriving DecidableEq, Repr, Inhabited

namespace Priority

/-- The name of a priority. -/
def name : Priority → String
  | .normal => "normal"
  | .high => "high"

/-- The names that are read. -/
def choices : List (String × Priority) := [("normal", .normal), ("high", .high)]

/-- A priority as a value. -/
def json (p : Priority) : Json := .str p.name

/-- The priority that a document names. -/
def ofDocument? (d : Document) : Option Priority := d.choice? choices

end Priority

/-- One past the greatest count of attempts. -/
def attemptBound : Nat := Decimal.wordSize 32

/-- One past the greatest count in a report. -/
def countBound : Nat := Decimal.wordSize 64

/-- A push request. -/
structure Job where
  id : String
  userId : String
  deviceTokens : List String
  platform : Option String
  templateCode : Option String
  title : String
  body : String
  imageUrl : Option String
  link : Option String
  data : DataMap
  bindings : DataMap
  language : Option String
  priority : Priority
  attemptCount : Nat
  correlationId : Option String
  requestId : Option String
  scheduledAt : Option Moment
  createdAt : Moment
  deriving DecidableEq, Repr, Inhabited

namespace Job

/-- The fields of a job in the order of the message. -/
def names : List String :=
  ["id", "user_id", "device_tokens", "platform", "template_code", "title", "body", "image_url",
    "link", "data", "variables", "language", "priority", "attempt_count", "correlation_id",
    "request_id", "scheduled_at", "created_at"]

/-- A job as a value: null fields and empty maps are left out. -/
def json (j : Job) : Json :=
  .record [
    Json.always "id" (.str j.id),
    Json.always "user_id" (.str j.userId),
    Json.always "device_tokens" (.arr (j.deviceTokens.map .str)),
    Json.ifSome "platform" j.platform .str,
    Json.ifSome "template_code" j.templateCode .str,
    Json.always "title" (.str j.title),
    Json.always "body" (.str j.body),
    Json.ifSome "image_url" j.imageUrl .str,
    Json.ifSome "link" j.link .str,
    Json.unlessEmpty "data" j.data,
    Json.unlessEmpty "variables" j.bindings,
    Json.ifSome "language" j.language .str,
    Json.always "priority" j.priority.json,
    Json.always "attempt_count" (.ofNat j.attemptCount),
    Json.ifSome "correlation_id" j.correlationId .str,
    Json.ifSome "request_id" j.requestId .str,
    Json.ifSome "scheduled_at" j.scheduledAt Moment.json,
    Json.always "created_at" j.createdAt.json]

/-- The job that a document holds inside `depth` other arrays and objects. A job without a creation
date was created now. -/
def ofDocument? (now : Moment) (depth : Nat) (d : Document) : Option Job := do
  let f ← d.record? names
  pure {
    id := ← f.required "id" Document.text?
    userId := ← f.required "user_id" Document.text?
    deviceTokens := ← f.required "device_tokens" (Document.list? Document.text?)
    platform := ← f.optional "platform" Document.text?
    templateCode := ← f.optional "template_code" Document.text?
    title := ← f.withDefault "title" "" Document.text?
    body := ← f.withDefault "body" "" Document.text?
    imageUrl := ← f.optional "image_url" Document.text?
    link := ← f.optional "link" Document.text?
    data := ← f.withDefault "data" [] (Document.map? (depth + 1))
    bindings := ← f.withDefault "variables" [] (Document.map? (depth + 1))
    language := ← f.optional "language" Document.text?
    priority := ← f.withDefault "priority" .normal Priority.ofDocument?
    attemptCount := ← f.withDefault "attempt_count" 0 (Document.below? attemptBound)
    correlationId := ← f.optional "correlation_id" Document.text?
    requestId := ← f.optional "request_id" Document.text?
    scheduledAt := ← f.optional "scheduled_at" Document.moment?
    createdAt := ← f.withDefault "created_at" now Document.moment? }

/-- The template to render, unless its code is empty. -/
def template? (j : Job) : Option String :=
  j.templateCode.filter (· ≠ "")

/-- The device tokens without the blanks around them, without the blank ones, in order. -/
def validTokens (j : Job) : List String :=
  (j.deviceTokens.map Text.trim).filter (· ≠ "")

/-- What makes a job undeliverable. -/
inductive Problem
  | missingId
  | missingUserId
  | noDeviceTokens
  | emptyContent
  deriving DecidableEq, Repr

/-- The wording of a problem. -/
def Problem.message : Problem → String
  | .missingId => "invalid notification ID"
  | .missingUserId => "invalid user ID"
  | .noDeviceTokens => "no device tokens provided"
  | .emptyContent => "notification content cannot be empty"

/-- The first problem of a job: a blank id, a blank user id, no token that is not blank, or neither
title nor body nor template. -/
def problem? (j : Job) : Option Problem :=
  if Text.isBlankText j.id then some .missingId
  else if Text.isBlankText j.userId then some .missingUserId
  else if j.deviceTokens.all Text.isBlankText then some .noDeviceTokens
  else if j.title = "" ∧ j.body = "" ∧ j.template? = none then some .emptyContent
  else none

end Job

/-- What a device is sent. -/
structure Content where
  title : String
  body : String
  imageUrl : Option String
  link : Option String
  data : DataMap
  priority : Priority
  deriving DecidableEq, Repr, Inhabited

namespace Content

/-- The fields of content in the order of the message. -/
def names : List String := ["title", "body", "image_url", "link", "data", "priority"]

/-- Content as a value. -/
def json (c : Content) : Json :=
  .record [
    Json.always "title" (.str c.title),
    Json.always "body" (.str c.body),
    Json.ifSome "image_url" c.imageUrl .str,
    Json.ifSome "link" c.link .str,
    Json.unlessEmpty "data" c.data,
    Json.always "priority" c.priority.json]

/-- The content that a document holds. Image and link may be null, and an array has to give both. -/
def ofDocument? (d : Document) : Option Content := do
  let f ← d.record? names
  pure {
    title := ← f.required "title" Document.text?
    body := ← f.required "body" Document.text?
    imageUrl := ← f.nullable "image_url" Document.text?
    link := ← f.nullable "link" Document.text?
    data := ← f.withDefault "data" [] (Document.map? 1)
    priority := ← f.withDefault "priority" .normal Priority.ofDocument? }

/-- The content that a job carries itself; an empty image or link counts as none. -/
def ofJob (j : Job) : Content where
  title := j.title
  body := j.body
  imageUrl := j.imageUrl.filter (· ≠ "")
  link := j.link.filter (· ≠ "")
  data := j.data
  priority := j.priority

end Content

end PushDelivery
