import PushDelivery.Json.Record
import PushDelivery.Time.Moment

/-!
# Dates in messages

A date is a string that spells a moment, and is written in the one form of `Moment.text`.
-/

namespace PushDelivery

/-- A date. -/
def Document.moment? (d : Document) : Option Moment :=
  d.text?.bind Moment.ofText?

/-- A date as a value. -/
def Moment.json (m : Moment) : Json := .str m.text

end PushDelivery
