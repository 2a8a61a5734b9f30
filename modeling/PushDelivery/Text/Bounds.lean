/-!
# Sets of characters by bounds

A property of characters is given by the runs of code points that have it.

## Main definitions

* `isWithin`: membership in such a set.
-/

namespace PushDelivery.Text

/-- Whether a number is at least the first and less than the second of two bounds in a row, of the
next two, and so on. -/
def isWithin (n : Nat) : List Nat → Bool
  | low :: high :: rest => (low ≤ n && n < high) || isWithin n rest
  | _ => false

end PushDelivery.Text
