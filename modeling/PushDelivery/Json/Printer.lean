import PushDelivery.Decimal.Shortest
import PushDelivery.Json.Basic

/-!
# Writing JSON

The written form is compact: no blanks, fields in the order of the value. In a string only the
quote, the backslash and characters below U+0020 are escaped, the five with a letter of their own
by that letter and the others by `\u00xx`.

## Main definitions

* `Json.write`: the characters of a value.
* `Json.render`: the same as a text.
* `Number.write`: integers plainly, binary64 values by their shortest decimal.
-/

namespace PushDelivery

open Decimal (Binary64 Shortest.decimal Shortest.positional Shortest.scientific)

/-- A binary64 value in JSON: its shortest decimal, written out with at least one digit after the
point if the leading digit stands for `10 ^ -5` to `10 ^ 15`, else with an exponent. Of two equally
near decimals it is the even one. Values that are no numbers have no JSON form and are written as
null. -/
def writeFloat : Binary64 → String
  | .nan | .infinite _ => "null"
  | .finite negative m e =>
    let d := Shortest.decimal .toEven m e
    let size := if -5 ≤ d.leading ∧ d.leading ≤ 15 then Shortest.positional ".0" d
      else Shortest.scientific d
    if negative then "-" ++ size else size

/-- A number in JSON. -/
def Number.write : Number → List Char
  | .int i => Decimal.writeInteger i
  | .float x => (writeFloat x).toList

namespace Json

/-- The digit of a number below sixteen, in lower case. -/
def hexDigit (n : Nat) : Char :=
  if n < 10 then Char.ofNat (48 + n) else Char.ofNat (87 + n)

/-- A character inside a string. -/
def escapeChar (c : Char) : List Char :=
  if c = '"' then ['\\', '"']
  else if c = '\\' then ['\\', '\\']
  else if c = '\n' then ['\\', 'n']
  else if c = '\r' then ['\\', 'r']
  else if c = '\t' then ['\\', 't']
  else if c.toNat = 8 then ['\\', 'b']
  else if c.toNat = 12 then ['\\', 'f']
  else if c.toNat < 32 then
    ['\\', 'u', '0', '0', hexDigit (c.toNat / 16), hexDigit (c.toNat % 16)]
  else [c]

/-- A string between quotes. -/
def writeString (s : String) : List Char :=
  '"' :: s.toList.flatMap escapeChar ++ ['"']

mutual

/-- The characters of a value. -/
def write : Json → List Char
  | .null => ['n', 'u', 'l', 'l']
  | .bool true => ['t', 'r', 'u', 'e']
  | .bool false => ['f', 'a', 'l', 's', 'e']
  | .num n => n.write
  | .str s => writeString s
  | .arr items => '[' :: writeItems items ++ [']']
  | .obj fields => '{' :: writeFields fields ++ ['}']

/-- Items with commas between them. -/
def writeItems : List Json → List Char
  | [] => []
  | [v] => write v
  | v :: rest => write v ++ ',' :: writeItems rest

/-- Fields with commas between them. -/
def writeFields : List (String × Json) → List Char
  | [] => []
  | [(k, v)] => writeString k ++ ':' :: write v
  | (k, v) :: rest => writeString k ++ ':' :: write v ++ ',' :: writeFields rest

end

/-- The text of a value. -/
def render (v : Json) : String :=
  String.ofList (write v)

end Json

end PushDelivery
