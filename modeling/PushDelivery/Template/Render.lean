import PushDelivery.Notification.Job
import PushDelivery.Template.Substitution

/-!
# Templates

A template is the title, body and data of a notification with placeholders, kept by a template
service under a code.

## Main definitions

* `Template`: the message of the template service.
* `render`: the content of a job that names a template.
-/

namespace PushDelivery

/-- A template. -/
structure Template where
  code : String
  name : String
  title : String
  body : String
  imageUrl : Option String
  link : Option String
  data : DataMap
  deriving DecidableEq, Repr, Inhabited

namespace Template

/-- The fields of a template in the order of the message. -/
def names : List String := ["code", "name", "title", "body", "image_url", "link", "data"]

/-- A template as a value. -/
def json (t : Template) : Json :=
  .record [
    Json.always "code" (.str t.code),
    Json.always "name" (.str t.name),
    Json.always "title" (.str t.title),
    Json.always "body" (.str t.body),
    Json.ifSome "image_url" t.imageUrl .str,
    Json.ifSome "link" t.link .str,
    Json.unlessEmpty "data" t.data]

/-- The template that a document holds. -/
def ofDocument? (d : Document) : Option Template := do
  let f ← d.record? names
  pure {
    code := ← f.required "code" Document.text?
    name := ← f.withDefault "name" "" Document.text?
    title := ← f.withDefault "title" "" Document.text?
    body := ← f.withDefault "body" "" Document.text?
    imageUrl := ← f.optional "image_url" Document.text?
    link := ← f.optional "link" Document.text?
    data := ← f.withDefault "data" [] (Document.map? 1) }

/-- A template's own image or link, with variables applied, or the one of the job. -/
def choose (bindings : DataMap) (own fallback : Option String) : Option String :=
  match own.filter (· ≠ "") with
  | some text => some (substitute bindings text)
  | none => fallback

end Template

/-- The content of a job under a template: title and body from the template, its image and link
before the job's, and its data under the job's, with the job's variables applied to what comes from
the template. -/
def render (template : Template) (job : Job) : Content :=
  let own := Content.ofJob job
  { title := substitute job.bindings template.title
    body := substitute job.bindings template.body
    imageUrl := Template.choose job.bindings template.imageUrl own.imageUrl
    link := Template.choose job.bindings template.link own.link
    data := DataMap.merge (substituteData job.bindings template.data) job.data
    priority := job.priority }

end PushDelivery
