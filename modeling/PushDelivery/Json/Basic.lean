import PushDelivery.Decimal.Binary64

/-!
# JSON values

Jobs carry free-form data that is passed on to the device as it came. A JSON number is kept as an
integer if it was written as one that fits 64 bits, else as a binary64 value.

## Main definitions

* `Json`: values. The fields of an object are a list, so the order of writing is part of a value.
* `DataMap`: a free-form object, its fields sorted by key, one field per key.
-/

namespace PushDelivery

open Decimal (Binary64)

/-- A JSON number. -/
inductive Number
  | int (value : Int)
  | float (value : Binary64)
  deriving DecidableEq, Repr

/-- A JSON value. -/
inductive Json
  | null
  | bool (value : Bool)
  | num (value : Number)
  | str (value : String)
  | arr (items : List Json)
  | obj (fields : List (String × Json))
  deriving Repr, Inhabited

namespace Json

mutual

/-- Equality of values, decided. -/
def decEq : (a b : Json) → Decidable (a = b)
  | .null, .null => isTrue rfl
  | .bool a, .bool b => if h : a = b then isTrue (by rw [h]) else isFalse (by simpa using h)
  | .num a, .num b => if h : a = b then isTrue (by rw [h]) else isFalse (by simpa using h)
  | .str a, .str b => if h : a = b then isTrue (by rw [h]) else isFalse (by simpa using h)
  | .arr a, .arr b =>
    match decEqItems a b with
    | isTrue h => isTrue (by rw [h])
    | isFalse h => isFalse (by simpa using h)
  | .obj a, .obj b =>
    match decEqFields a b with
    | isTrue h => isTrue (by rw [h])
    | isFalse h => isFalse (by simpa using h)
  | .null, .bool _ | .null, .num _ | .null, .str _ | .null, .arr _ | .null, .obj _
  | .bool _, .null | .bool _, .num _ | .bool _, .str _ | .bool _, .arr _ | .bool _, .obj _
  | .num _, .null | .num _, .bool _ | .num _, .str _ | .num _, .arr _ | .num _, .obj _
  | .str _, .null | .str _, .bool _ | .str _, .num _ | .str _, .arr _ | .str _, .obj _
  | .arr _, .null | .arr _, .bool _ | .arr _, .num _ | .arr _, .str _ | .arr _, .obj _
  | .obj _, .null | .obj _, .bool _ | .obj _, .num _ | .obj _, .str _ | .obj _, .arr _ =>
    isFalse (by simp)

/-- Equality of array items, decided. -/
def decEqItems : (a b : List Json) → Decidable (a = b)
  | [], [] => isTrue rfl
  | [], _ :: _ => isFalse (by simp)
  | _ :: _, [] => isFalse (by simp)
  | a :: as, b :: bs =>
    match decEq a b, decEqItems as bs with
    | isTrue h, isTrue h' => isTrue (by rw [h, h'])
    | isFalse h, _ => isFalse (by simp [h])
    | _, isFalse h => isFalse (by simp [h])

/-- Equality of object fields, decided. -/
def decEqFields : (a b : List (String × Json)) → Decidable (a = b)
  | [], [] => isTrue rfl
  | [], _ :: _ => isFalse (by simp)
  | _ :: _, [] => isFalse (by simp)
  | (k, a) :: as, (l, b) :: bs =>
    if hk : k = l then
      match decEq a b, decEqFields as bs with
      | isTrue h, isTrue h' => isTrue (by rw [hk, h, h'])
      | isFalse h, _ => isFalse (by simp [h])
      | _, isFalse h => isFalse (by simp [h])
    else isFalse (by simp [hk])

end

instance : DecidableEq Json := decEq

/-- A number that was written as an integer. -/
def ofInt (i : Int) : Json := .num (.int i)

/-- A count. -/
def ofNat (n : Nat) : Json := .num (.int n)

/-- A text, or null. -/
def orNull : Option String → Json
  | some s => .str s
  | none => .null

/-- The value at a field of an object. -/
def field? (key : String) : Json → Option Json
  | .obj fields => fields.lookup key
  | _ => none

end Json

/-- A free-form object: fields sorted by key, one per key. -/
abbrev DataMap := List (String × Json)

namespace DataMap

/-- Sets the value of a key, at its place in the order. -/
def insert (key : String) (value : Json) : DataMap → DataMap
  | [] => [(key, value)]
  | (k, v) :: rest =>
    if key < k then (key, value) :: (k, v) :: rest
    else if key = k then (key, value) :: rest
    else (k, v) :: insert key value rest

/-- The object with these fields; of two with one key the later one counts. -/
def ofFields (fields : List (String × Json)) : DataMap :=
  fields.foldl (fun m f => insert f.1 f.2 m) []

/-- The fields of the second map laid over those of the first. -/
def merge (base overlay : DataMap) : DataMap :=
  overlay.foldl (fun m f => insert f.1 f.2 m) base

/-- Keys strictly increase along the map. -/
def Sorted (m : DataMap) : Prop :=
  (m.map (·.1)).Pairwise (· < ·)

end DataMap

end PushDelivery
