import PushDelivery.Settings.Value
import PushDelivery.Text.Quoted

/-!
# Reading a setting

A raw setting is read as the type that is wanted of it, with generous conversions: numbers and truth
values are read as texts, texts as numbers, and numbers as truth values. What does not convert is
refused, with the key and the origin of the value where they are known.

## Main definitions

* `Settings.Error`: why a setting cannot be read.
* `Value.text?`, `Value.natural?`, `Value.number?`, `Value.truth?`: the conversions.
* `Section`: the raw settings of a section, by key or by position.
-/

namespace PushDelivery.Settings

open Decimal (Binary64 integerText natural? wordSize)

/-- What was found instead of what was wanted. Numbers are named by their size where a single
setting is read, and without it where a whole section is. -/
inductive Found
  | bool (value : Bool)
  | integer (value : Int)
  | signed (value : Int)
  | real (value : Binary64)
  | unsigned (value : Nat)
  | float (value : Binary64)
  | str (value : String)
  | unit
  | map
  | sequence
  deriving DecidableEq, Repr

/-- What was found, in words. -/
def Found.describe : Found → String
  | .bool b => "boolean `" ++ (if b then "true" else "false") ++ "`"
  | .integer i => "integer `" ++ integerText i ++ "`"
  | .signed i => "64-bit integer `" ++ integerText i ++ "`"
  | .real x => "floating point `" ++ Scalar.floatText x ++ "`"
  | .unsigned n => "64-bit unsigned integer `" ++ Nat.repr n ++ "`"
  | .float x =>
    let text := Scalar.floatText x
    "floating point `" ++ (if x.isFinite ∧ !text.contains '.' then text ++ ".0" else text) ++ "`"
  | .str s => "string " ++ Text.quoted s
  | .unit => "unit value"
  | .map => "map"
  | .sequence => "sequence"

/-- Why settings cannot be read: a value of another type, a section by position that is too short,
or a file that holds no table. -/
inductive Error
  | type (found : Found) (expected : String) (key origin : Option String)
  | length (found : Nat) (expected : String)
  | file (found : Found) (name : String)
  deriving DecidableEq, Repr

/-- The wording of an error. -/
def Error.message : Error → String
  | .type found expected key origin =>
    "invalid type: " ++ found.describe ++ ", expected " ++ expected ++
      (match key with
        | some k => " for key `" ++ k ++ "`"
        | none => "") ++
      (match origin with
        | some o => " in " ++ o
        | none => "")
  | .length found expected =>
    "invalid length " ++ Nat.repr found ++ ", expected " ++ expected
  | .file found name =>
    "invalid type: " ++ found.describe ++ ", expected a map in " ++ name ++ " in " ++ name

/-- Texts that say yes. -/
def yes : List String := ["true", "on", "yes"]

/-- Texts that say no. -/
def no : List String := ["false", "off", "no"]

namespace Value

/-- What a value is found to be. -/
def found : Value → Found
  | .scalar _ .null => .unit
  | .scalar _ (.bool b) => .bool b
  | .scalar _ (.int i) => .signed i
  | .scalar _ (.float x) => .real x
  | .scalar _ (.str s) => .str s
  | .list .. => .sequence
  | .table .. => .map

/-- Where a value comes from. -/
def origin? : Value → Option String
  | .scalar origin _ | .list origin _ | .table origin _ => origin

/-- The refusal of a value at a key. -/
def refuse {α : Type} (expected key : String) (v : Value) : Except Error α :=
  .error (.type v.found expected (some key) v.origin?)

/-- A text; truth values and numbers are written out. -/
def text? (key : String) : Value → Except Error String
  | .scalar _ (.str s) => .ok s
  | .scalar _ (.bool b) => .ok (if b then "true" else "false")
  | .scalar _ (.int i) => .ok (integerText i)
  | .scalar _ (.float x) => .ok (Scalar.floatText x)
  | v => v.refuse "a string" key

/-- A number to the nearest natural number, halves away from zero, within 64 bits. What is no number
counts as zero. -/
def roundToWord : Binary64 → Nat
  | .nan => 0
  | .infinite negative => if negative then 0 else wordSize 64 - 1
  | .finite negative m e =>
    if negative then 0 else min (Binary64.roundTimes .up m e 1) (wordSize 64 - 1)

/-- The natural number that a text spells. -/
def textNatural? (s : String) : Option Nat :=
  (match s.toList with
    | '+' :: rest => natural? rest
    | rest => natural? rest).filter (· < wordSize 64)

/-- A natural number of 64 bits. -/
def word? (key : String) : Value → Except Error Nat
  | .scalar origin (.int i) =>
    if 0 ≤ i then .ok i.toNat
    else (Value.scalar origin (.int i)).refuse "an unsigned 64 bit or less integer" key
  | .scalar _ (.bool b) => .ok (if b then 1 else 0)
  | .scalar _ (.float x) => .ok (roundToWord x)
  | .scalar origin (.str s) =>
    if (Text.toLower s) ∈ yes then .ok 1
    else if (Text.toLower s) ∈ no then .ok 0
    else
      match textNatural? s with
      | some n => .ok n
      | none => (Value.scalar origin (.str s)).refuse "an integer" key
  | v => v.refuse "an integer" key

/-- A natural number of some bits. -/
def natural? (bits : Nat) (key : String) (v : Value) : Except Error Nat := do
  let n ← v.word? key
  if n < wordSize bits then pure n
  else
    .error (.type (.unsigned n) ("an unsigned " ++ Nat.repr bits ++ " bit integer") (some key) none)

/-- A number. -/
def number? (key : String) : Value → Except Error Binary64
  | .scalar _ (.float x) => .ok x
  | .scalar _ (.int i) => .ok (.ofInt i)
  | .scalar _ (.bool b) => .ok (.ofNat (if b then 1 else 0))
  | .scalar origin (.str s) =>
    if (Text.toLower s) ∈ yes then .ok (.ofNat 1)
    else if (Text.toLower s) ∈ no then .ok (.ofNat 0)
    else
      match Binary64.ofLiteral? s.toList with
      | some x => .ok x
      | none => (Value.scalar origin (.str s)).refuse "a floating point" key
  | v => v.refuse "a floating point" key

/-- A truth value; a number is true unless it is zero. -/
def truth? (key : String) : Value → Except Error Bool
  | .scalar _ (.bool b) => .ok b
  | .scalar _ (.int i) => .ok (i ≠ 0)
  | .scalar _ (.float x) => .ok (!x.isZero)
  | .scalar origin (.str s) =>
    if Text.toLower s = "1" ∨ (Text.toLower s) ∈ yes then .ok true
    else if Text.toLower s = "0" ∨ (Text.toLower s) ∈ no then .ok false
    else (Value.scalar origin (.str (Text.toLower s))).refuse "a boolean" key
  | v => v.refuse "a boolean" key

/-- A text, or null. -/
def textOrNull? (key : String) : Value → Except Error (Option String)
  | .scalar _ .null => .ok none
  | v => (v.text? key).map some

end Value

/-- The raw settings of a section: by key, or by position. -/
inductive Section
  | keyed (name : String) (fields : Table)
  | positional (name : String) (items : List Value)
  deriving Repr

namespace Section

/-- The section of a name, which holds a `kind`. A list gives its settings by position. -/
def read (root : Table) (name kind : String) : Except Error Section :=
  match root.lookup name with
  | none => .ok (.keyed name [])
  | some (.table _ fields) => .ok (.keyed name fields)
  | some (.list _ items) => .ok (.positional name items)
  | some (.scalar _ v) =>
    .error (.type (match v with
      | .null => .unit
      | .bool b => .bool b
      | .int i => .integer i
      | .float x => .float x
      | .str s => .str s) ("struct " ++ kind) none none)

/-- The raw setting of a key at a position, with the full key. -/
def raw? (s : Section) (position : Nat) (key : String) : Option (String × Value) :=
  match s with
  | .keyed name fields => (fields.lookup key).map fun v => (name ++ "." ++ key, v)
  | .positional name items =>
    (items[position]?).map fun v => (name ++ "[" ++ Nat.repr position ++ "]", v)

/-- A setting with a default. -/
def field {α : Type} (s : Section) (position : Nat) (key : String) (default : α)
    (convert : String → Value → Except Error α) : Except Error α :=
  match s.raw? position key with
  | none => .ok default
  | some (key, v) => convert key v

/-- A setting that may be null, and that a section by position of some `kind` has to give. -/
def nullable (s : Section) (position : Nat) (key kind : String) : Except Error (Option String) :=
  match s, s.raw? position key with
  | _, some (key, v) => v.textOrNull? key
  | .keyed .., none => .ok none
  | .positional .., none => .error (.length position kind)

end Section

end PushDelivery.Settings
