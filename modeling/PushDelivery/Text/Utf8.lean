/-!
# UTF-8

Message bodies and replies arrive as octets. `cells` reads them as UTF-8 and keeps a mark where
they are not: a `none` stands for one maximal part that no UTF-8 text holds (the longest run of
octets that begins a character without completing it, or a single octet that cannot begin one).

## Main definitions

* `cells`: the characters of a sequence of octets, with the broken parts marked.
* `text?`: the text, if nothing is broken.
* `lossy`: the text with U+FFFD for each broken part.
* `octets`: the octets of a text.
-/

namespace PushDelivery.Text

/-- A character, or `none` for octets that are no UTF-8. -/
abbrev Cell := Option Char

namespace Utf8

/-- Where reading stands between two octets. Inside a character, `owed` octets are still to come,
the next of them lies in `low ≤ b ≤ high`, and `bits` holds what the earlier ones contributed. -/
inductive State
  | between
  | inside (owed : Nat) (low high bits : Nat)
  deriving DecidableEq, Repr

/-- The state after an octet that stands where a character begins, and the cells it completes. -/
def first (b : Nat) : List Cell × State :=
  if b ≤ 0x7F then ([some (Char.ofNat b)], .between)
  else if 0xC2 ≤ b ∧ b ≤ 0xDF then ([], .inside 1 0x80 0xBF (b - 0xC0))
  else if b = 0xE0 then ([], .inside 2 0xA0 0xBF 0)
  else if 0xE1 ≤ b ∧ b ≤ 0xEC then ([], .inside 2 0x80 0xBF (b - 0xE0))
  else if b = 0xED then ([], .inside 2 0x80 0x9F 0xD)
  else if 0xEE ≤ b ∧ b ≤ 0xEF then ([], .inside 2 0x80 0xBF (b - 0xE0))
  else if b = 0xF0 then ([], .inside 3 0x90 0xBF 0)
  else if 0xF1 ≤ b ∧ b ≤ 0xF3 then ([], .inside 3 0x80 0xBF (b - 0xF0))
  else if b = 0xF4 then ([], .inside 3 0x80 0x8F 4)
  else ([none], .between)

/-- The state after an octet, and the cells it completes. An octet that does not continue the
character begun before it closes that broken part and is read as a beginning of its own. -/
def step : State → Nat → List Cell × State
  | .between, b => first b
  | .inside owed low high bits, b =>
    if low ≤ b ∧ b ≤ high then
      let bits := bits * 0x40 + (b - 0x80)
      if owed ≤ 1 then ([some (Char.ofNat bits)], .between)
      else ([], .inside (owed - 1) 0x80 0xBF bits)
    else
      let (cells, state) := first b
      (none :: cells, state)

/-- Reads on from a state; a character cut off by the end is a broken part. -/
def cellsFrom : State → List UInt8 → List Cell
  | .between, [] => []
  | .inside .., [] => [none]
  | state, b :: rest =>
    let (cells, next) := step state b.toNat
    cells ++ cellsFrom next rest

/-- The characters of a sequence of octets, with broken parts marked. -/
def cells (octets : List UInt8) : List Cell :=
  cellsFrom .between octets

/-- The text that a list of cells holds, unless a part of it is broken. -/
def cellsText? (cs : List Cell) : Option (List Char) :=
  cs.mapM id

/-- The text of a sequence of octets, unless a part of it is broken. -/
def text? (octets : List UInt8) : Option String :=
  (cellsText? (cells octets)).map String.ofList

/-- The text of a sequence of octets with U+FFFD for each broken part. -/
def lossy (octets : List UInt8) : String :=
  String.ofList ((cells octets).map (·.getD '\uFFFD'))

/-- The octets of a text. -/
def octets (s : String) : List UInt8 :=
  s.toUTF8.toList

end Utf8

end PushDelivery.Text
