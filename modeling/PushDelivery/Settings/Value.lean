import PushDelivery.Decimal.Literal
import PushDelivery.Decimal.Shortest
import PushDelivery.Json.Basic
import PushDelivery.Text.LowerCase

/-!
# Raw settings

Before a setting is read it is a raw value: a scalar that remembers where it came from, a list, or a
table. Values from the environment are texts, of which those that look like a truth value or a
number are taken for one.

## Main definitions

* `Scalar`, `Value`: raw settings.
* `Scalar.ofText`: what a text from the environment is taken for.
* `Value.ofJson`: the raw setting of a file.
* `Table.assign`: a value set in a table; tables are merged.
-/

namespace PushDelivery.Settings

open Decimal (Binary64 integer? isSigned64 Shortest.decimal Shortest.positional)

/-- A raw setting without parts. -/
inductive Scalar
  | null
  | bool (value : Bool)
  | int (value : Int)
  | float (value : Binary64)
  | str (value : String)
  deriving DecidableEq, Repr

/-- A raw setting. What comes from a file or the environment remembers its origin; defaults, and
tables and lists that were made to hold other settings, have none. -/
inductive Value
  | scalar (origin : Option String) (value : Scalar)
  | list (origin : Option String) (items : List Value)
  | table (origin : Option String) (fields : List (String × Value))
  deriving Repr

/-- Named raw settings. -/
abbrev Table := List (String × Value)

namespace Scalar

/-- What a text from the environment is taken for: a truth value, an integer, a number, or else
itself. -/
def ofText (s : String) : Scalar :=
  let cs := s.toList
  if Binary64.isWord ['t', 'r', 'u', 'e'] cs then .bool true
  else if Binary64.isWord ['f', 'a', 'l', 's', 'e'] cs then .bool false
  else
    match (integer? cs).filter isSigned64 with
    | some i => .int i
    | none =>
      match Binary64.ofLiteral? cs with
      | some x => .float x
      | none => .str s

/-- The number of a file: an integer if it is within range. -/
def ofNumber : Number → Scalar
  | .int i => if isSigned64 i then .int i else .float (.ofInt i)
  | .float x => .float x

/-- A number as a text: its shortest decimal, written out. Of two equally near decimals it is the
greater one in size. -/
def floatText : Binary64 → String
  | .nan => "NaN"
  | .infinite negative => if negative then "-inf" else "inf"
  | .finite negative m e =>
    (if negative then "-" else "") ++ Shortest.positional "" (Shortest.decimal .up m e)

end Scalar

namespace Value

/-- The fields of a table; any other value has none. -/
def fields : Value → Table
  | .table _ fields => fields
  | _ => []

/-- A table with other fields, or a new one in place of any other value. -/
def withFields (v : Value) (fields : Table) : Value :=
  match v with
  | .table origin _ => .table origin fields
  | _ => .table none fields

/-- The items of a list; any other value has none. -/
def items : Value → List Value
  | .list _ items => items
  | _ => []

/-- A list with other items, or a new one in place of any other value. -/
def withItems (v : Value) (items : List Value) : Value :=
  match v with
  | .list origin _ => .list origin items
  | _ => .list none items

/-- Nothing, which is where a setting was not made yet. -/
def nothing : Value := .scalar none .null

mutual

/-- The raw setting of a value in a file. Keys are in lower case. -/
def ofJson (origin : Option String) : Json → Value
  | .null => .scalar origin .null
  | .bool b => .scalar origin (.bool b)
  | .num n => .scalar origin (.ofNumber n)
  | .str s => .scalar origin (.str s)
  | .arr items => .list origin (ofItems origin items)
  | .obj fields => .table origin (ofFields origin fields)

/-- The raw settings of items. -/
def ofItems (origin : Option String) : List Json → List Value
  | [] => []
  | v :: rest => ofJson origin v :: ofItems origin rest

/-- The raw settings of fields. -/
def ofFields (origin : Option String) : List (String × Json) → Table
  | [] => []
  | (k, v) :: rest =>
    (Text.toLower k, ofJson origin v) :: ofFields origin rest

end

end Value

namespace Table

/-- Puts a value at a key. -/
def put (key : String) (v : Value) : Table → Table
  | [] => [(key, v)]
  | (k, w) :: rest => if k = key then (k, v) :: rest else (k, w) :: put key v rest

mutual

/-- Sets a value at a key of a table. A table is merged into what is there: it leaves anything alone
if it is empty, and else replaces what is no table. -/
def assign (key : String) (v : Value) (t : Table) : Table :=
  match v with
  | .table _ fields =>
    let target := (t.lookup key).getD (.table none [])
    match fields with
    | [] => put key target t
    | (k, w) :: rest => put key (target.withFields (assignAll rest (assign k w target.fields))) t
  | v => put key v t

/-- Sets several values. -/
def assignAll (fields : List (String × Value)) (t : Table) : Table :=
  match fields with
  | [] => t
  | (k, v) :: rest => assignAll rest (assign k v t)

end

end Table

end PushDelivery.Settings
