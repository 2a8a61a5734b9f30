import PushDelivery.Settings.Value

/-!
# Paths to settings

A setting lies in tables in tables, or at a position of a list. The path to it is written as keys
that are separated by points, with positions in brackets, as in `server.port` or `server[1]`. A
negative position counts from the end of a list.

## Main definitions

* `Step`: a key or a position.
* `Path.ofChars`: the path that characters spell.
* `Value.place`: a value set at a path.
-/

namespace PushDelivery.Settings

/-- A step of a path. -/
inductive Step
  | key (name : String)
  | position (index : Int)
  deriving DecidableEq, Repr

namespace Path

/-- Where reading stands: in a key, in brackets, or behind brackets. The characters so far have the
last first. -/
inductive Reading
  | key (soFar : List Char)
  | brackets (soFar : List Char)
  | behind
  deriving DecidableEq, Repr

/-- Whether a character may stand in a key. -/
def isKeyChar (c : Char) : Bool := c.isAlphanum || c == '_' || c == '-' || c == ' '

/-- The position that characters in brackets spell, with blanks around it. -/
def position? (cs : List Char) : Option Int :=
  let isBlank (c : Char) : Bool := c = ' ' || c = '\t'
  match ((cs.dropWhile isBlank).reverse.dropWhile isBlank).reverse with
  | '+' :: _ => none
  | digits => (Decimal.integer? digits).filter Decimal.isSigned64

/-- Reads on; the steps so far have the last first. -/
def readFrom (steps : List Step) : Reading → List Char → Option (List Step)
  | .key [], [] => none
  | .key name, [] => some (.key (String.ofList name.reverse) :: steps).reverse
  | .key name, c :: rest =>
    if isKeyChar c then readFrom steps (.key (c :: name)) rest
    else if name = [] then none
    else
      let steps := .key (String.ofList name.reverse) :: steps
      if c = '.' then readFrom steps (.key []) rest
      else if c = '[' then readFrom steps (.brackets []) rest
      else none
  | .brackets _, [] => none
  | .brackets inside, c :: rest =>
    if c = ']' then do
      let index ← position? inside.reverse
      readFrom (.position index :: steps) .behind rest
    else readFrom steps (.brackets (c :: inside)) rest
  | .behind, [] => some steps.reverse
  | .behind, c :: rest =>
    if c = '.' then readFrom steps (.key []) rest
    else if c = '[' then readFrom steps (.brackets []) rest
    else none

/-- The path that characters spell. What spells none is a single key. -/
def ofChars (cs : List Char) : List Step :=
  (readFrom [] (.key []) cs).getD [.key (String.ofList cs)]

end Path

namespace Value

/-- A list in which a position is there, and the number of that position. Missing items are filled
in at the end, or at the front for a position that counts from the end. -/
def slot (items : List Value) (index : Int) : List Value × Nat :=
  if 0 ≤ index then
    (items ++ List.replicate (index.toNat + 1 - items.length) nothing, index.toNat)
  else
    let missing := index.natAbs - items.length
    (List.replicate missing nothing ++ items, items.length - index.natAbs)

/-- Sets a value at a path below another value. A table or a list is made wherever the path wants
one and there is none. -/
def place : List Step → Value → Value → Value
  | [], v, _ => v
  | [.key name], v, old => old.withFields (Table.assign name v old.fields)
  | .key name :: rest, v, old =>
    let inner := (old.fields.lookup name).getD nothing
    old.withFields (Table.put name (place rest v inner) old.fields)
  | .position index :: rest, v, old =>
    let (items, i) := slot old.items index
    old.withItems (items.set i (place rest v ((items[i]?).getD nothing)))

end Value

end PushDelivery.Settings
