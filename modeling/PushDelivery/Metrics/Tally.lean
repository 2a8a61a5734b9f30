import PushDelivery.Time.Clock

/-!
# Counting

## Main definitions

* `Tally`: counts by label, sorted by label. A label is there from its first use, even by zero.
* `Histogram`: how many durations were at most as long as each of some bounds, their number and
  their sum.
-/

namespace PushDelivery

/-- Counts by label, sorted by label. -/
abbrev Tally := List (String × Nat)

namespace Tally

/-- Changes the count of a label, which is zero before its first use. -/
def update (label : String) (f : Nat → Nat) : Tally → Tally
  | [] => [(label, f 0)]
  | (l, n) :: rest =>
    if label < l then (label, f 0) :: (l, n) :: rest
    else if label = l then (l, f n) :: rest
    else (l, n) :: update label f rest

/-- Adds to the count of a label. -/
def add (label : String) (n : Nat) (t : Tally) : Tally := update label (· + n) t

/-- Sets the number of a label. -/
def set (label : String) (n : Nat) (t : Tally) : Tally := update label (fun _ => n) t

end Tally

/-- Durations counted under bounds. -/
structure Histogram where
  counts : List (String × Duration × Nat)
  count : Nat
  sum : Duration
  deriving DecidableEq, Repr

namespace Histogram

/-- A histogram over bounds, which are named in seconds. -/
def ofBounds (bounds : List (String × Duration)) : Histogram :=
  ⟨bounds.map fun b => (b.1, b.2, 0), 0, 0⟩

/-- Counts a duration under every bound that it does not exceed. -/
def observe (h : Histogram) (d : Duration) : Histogram where
  counts := h.counts.map fun (name, bound, n) => (name, bound, if d ≤ bound then n + 1 else n)
  count := h.count + 1
  sum := h.sum + d

end Histogram

end PushDelivery
