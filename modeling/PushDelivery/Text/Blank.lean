/-!
# Blank characters

Device tokens, job ids and user ids are compared and stored without the blanks around them. A
character is blank when it has the Unicode property `White_Space`.

## Main definitions

* `isBlank`: the property, as ranges of code points.
* `trim`: a text without the blanks at both ends.
* `isBlankText`: nothing is left after trimming.
-/

namespace PushDelivery.Text

/-- The characters with the Unicode property `White_Space`. -/
def isBlank (c : Char) : Bool :=
  let n := c.toNat
  (0x09 ≤ n && n ≤ 0x0D) || n == 0x20 || n == 0x85 || n == 0xA0 || n == 0x1680 ||
    (0x2000 ≤ n && n ≤ 0x200A) || n == 0x2028 || n == 0x2029 || n == 0x202F || n == 0x205F ||
    n == 0x3000

/-- Drops the blanks at the front. -/
def trimStart (cs : List Char) : List Char :=
  cs.dropWhile isBlank

/-- Drops the blanks at the end. -/
def trimEnd (cs : List Char) : List Char :=
  (cs.reverse.dropWhile isBlank).reverse

/-- A text without the blanks at both ends. -/
def trim (s : String) : String :=
  String.ofList (trimEnd (trimStart s.toList))

/-- A text that holds blanks only. -/
def isBlankText (s : String) : Bool :=
  s.toList.all isBlank

end PushDelivery.Text
