import PushDelivery.Json.Printer

/-!
# Substitution

Placeholders `{{name}}` in the texts of a template are replaced by the variables of a job. The
variables are applied one after the other in the order of their names, each to the text that the
ones before it left behind. A placeholder without a variable stays as it is.

## Main definitions

* `placeholder`: the characters that stand for a variable.
* `replaceAll`: every occurrence of a pattern, from the left, without overlaps.
* `substitute`: all variables applied to a text.
* `substituteJson`: the same in every string of a value, keys included.
* `substituteData`: the same in the values of a map.
-/

namespace PushDelivery

/-- The characters that stand for a variable. -/
def placeholder (name : List Char) : List Char :=
  '{' :: '{' :: name ++ ['}', '}']

/-- What a variable's value is replaced by: a string as it is, null by nothing, and any other value
by its JSON text. -/
def variableText : Json → List Char
  | .str s => s.toList
  | .null => []
  | v => v.write

/-- Replaces every occurrence of a pattern, from the left and without overlaps. -/
def replaceAll (pattern replacement : List Char) (text : List Char) : List Char :=
  match text with
  | [] => []
  | c :: rest =>
    if pattern ≠ [] ∧ pattern.isPrefixOf (c :: rest) then
      replacement ++ replaceAll pattern replacement ((c :: rest).drop pattern.length)
    else c :: replaceAll pattern replacement rest
termination_by text.length
decreasing_by
  · have : 0 < pattern.length := List.length_pos_iff.mpr (by simp_all)
    simp only [List.length_drop, List.length_cons]
    omega
  · simp

/-- Variables applied to characters, one after the other. -/
def substituteChars (bindings : DataMap) (text : List Char) : List Char :=
  bindings.foldl (fun t v => replaceAll (placeholder v.1.toList) (variableText v.2) t) text

/-- Variables applied to a text. -/
def substitute (bindings : DataMap) (text : String) : String :=
  String.ofList (substituteChars bindings text.toList)

mutual

/-- Variables applied to every string of a value, keys included. Of two keys that become equal the
later one in the order of the old keys counts. -/
def substituteJson (bindings : DataMap) : Json → Json
  | .str s => .str (substitute bindings s)
  | .arr items => .arr (substituteItems bindings items)
  | .obj fields => .obj (DataMap.ofFields (substituteFields bindings fields))
  | .null => .null
  | .bool b => .bool b
  | .num n => .num n

/-- Variables applied to array items. -/
def substituteItems (bindings : DataMap) : List Json → List Json
  | [] => []
  | v :: rest => substituteJson bindings v :: substituteItems bindings rest

/-- Variables applied to object fields. -/
def substituteFields (bindings : DataMap) : List (String × Json) → List (String × Json)
  | [] => []
  | (k, v) :: rest =>
    (substitute bindings k, substituteJson bindings v) :: substituteFields bindings rest

end

/-- Variables applied to the values of a map; its own keys stay. -/
def substituteData (bindings : DataMap) (data : DataMap) : DataMap :=
  data.map fun f => (f.1, substituteJson bindings f.2)

end PushDelivery
