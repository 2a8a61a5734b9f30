import PushDelivery.Json.Document

/-!
# Records in JSON

A message is a record: an object whose keys are the names of its fields. A record is read from an
object, where keys that name no field are ignored and a repeated field is refused, or from an array
that holds the fields in the order of their names, with fields missing at the end only.

## Main definitions

* `Document.record?`: the fields given in a document.
* `Fields.required`, `Fields.withDefault`, `Fields.optional`, `Fields.nullable`: one field.
* `text?`, `bool?`, `below?`, `list?`, `choice?`, `map?`: the parts that records are made of.
-/

namespace PushDelivery

/-- The fields of a record that a document gives, and whether it gave them by position. -/
structure Fields where
  positional : Bool
  given : List (String × Document)
  deriving Repr

namespace Document

/-- The fields of an object among `names`; a key without a text is refused even if it is unknown. -/
def known? (names : List String) :
    List (Option String × Document) → Option (List (String × Document))
  | [] => some []
  | (key, document) :: rest => do
    let key ← key
    let more ← known? names rest
    pure (if names.contains key then (key, document) :: more else more)

/-- The fields of a record. -/
def record? (names : List String) : Document → Option Fields
  | .arr items => if items.length ≤ names.length then some ⟨true, names.zip items⟩ else none
  | .obj fields => do
    let given ← known? names fields
    if (given.map (·.1)).Nodup then pure ⟨false, given⟩ else none
  | _ => none

/-- A string with a text. -/
def text? : Document → Option String
  | .str s => s
  | _ => none

/-- A truth value. -/
def bool? : Document → Option Bool
  | .bool b => some b
  | _ => none

/-- An integer from zero to under `bound`. -/
def below? (bound : Nat) : Document → Option Nat
  | .num (some (.int i)) => if 0 ≤ i ∧ i < bound then some i.toNat else none
  | _ => none

/-- A list of parts. -/
def list? {α : Type} (part : Document → Option α) : Document → Option (List α)
  | .arr items => items.mapM part
  | _ => none

/-- A name out of a fixed list, written as a string or as the only key of an object with null. -/
def choice? {α : Type} (choices : List (String × α)) : Document → Option α
  | .str s => s.bind fun name => choices.lookup name
  | .obj [(key, .null)] => key.bind fun name => choices.lookup name
  | _ => none

/-- A free-form object inside `depth` other arrays and objects. -/
def map? (depth : Nat) : Document → Option DataMap
  | .obj fields =>
    match json? (nesting - depth) (.obj fields) with
    | some (.obj m) => some m
    | _ => none
  | _ => none

end Document

namespace Fields

/-- A field that has to be given. -/
def required {α : Type} (f : Fields) (name : String) (read : Document → Option α) : Option α :=
  (f.given.lookup name).bind read

/-- A field that has a value of its own when it is not given. -/
def withDefault {α : Type} (f : Fields) (name : String) (value : α)
    (read : Document → Option α) : Option α :=
  match f.given.lookup name with
  | none => some value
  | some d => read d

/-- A field that may be null or not given. -/
def optional {α : Type} (f : Fields) (name : String) (read : Document → Option α) :
    Option (Option α) :=
  match f.given.lookup name with
  | none | some .null => some none
  | some d => (read d).map some

/-- A field that may be null, and may be left out only from an object. -/
def nullable {α : Type} (f : Fields) (name : String) (read : Document → Option α) :
    Option (Option α) :=
  match f.given.lookup name with
  | none => if f.positional then none else some none
  | some .null => some none
  | some d => (read d).map some

end Fields

/-- The fields of a written record: those that are present, in order. -/
def Json.record (fields : List (Option (String × Json))) : Json :=
  .obj (fields.filterMap id)

namespace Json

/-- A field that is always written. -/
def always (name : String) (value : Json) : Option (String × Json) := some (name, value)

/-- A field that is written if it has a value. -/
def ifSome {α : Type} (name : String) (value : Option α) (write : α → Json) :
    Option (String × Json) :=
  value.map fun v => (name, write v)

/-- A free-form object that is written unless it is empty. -/
def unlessEmpty (name : String) (value : DataMap) : Option (String × Json) :=
  if value = [] then none else some (name, .obj value)

end Json

end PushDelivery
