import Mathlib.Data.List.DropRight
import PushDelivery.Text.Blank

/-!
# Trimmed Texts

A text is checked for being blank without trimming it, and it is trimmed without checking it. This
module shows that the two agree: nothing is left of a text exactly if it is blank. What is left has
no blank at either end, so that trimming it again changes nothing.

## Main results

* `isBlankText_iff_trim`: the two agree.
* `trim_trim`: trimming is done once.
-/

namespace PushDelivery.Text

/-- A text is blank if and only if nothing is left after trimming. -/
theorem isBlankText_iff_trim {s : String} : isBlankText s = true ↔ trim s = "" := by
  rw [isBlankText, List.all_eq_true, trim, trimEnd, ← List.rdropWhile, String.ofList_eq_empty_iff,
    List.rdropWhile_eq_nil_iff, trimStart]
  constructor
  · intro blank c hc
    exact blank c ((List.dropWhile_suffix isBlank).subset hc)
  · intro blank
    by_contra some
    -- What the front is dropped up to is not blank.
    have left : s.toList.dropWhile isBlank ≠ [] := fun none =>
      some (List.dropWhile_eq_nil_iff.mp none)
    have first := List.head_dropWhile_not isBlank left
    rw [blank _ (List.head_mem left)] at first
    cases first

/-- The front of a text without blanks at the front stays without them when the end is trimmed. -/
theorem trimStart_trimEnd {cs : List Char} (h : trimStart cs = cs) :
    trimStart (trimEnd cs) = trimEnd cs := by
  rw [trimStart, List.dropWhile_eq_self_iff] at h ⊢
  intro left
  have front : trimEnd cs <+: cs := List.rdropWhile_prefix isBlank cs
  rw [front.getElem left]
  exact h (Nat.lt_of_lt_of_le left front.length_le)

/-- A text that is trimmed has no blanks to trim. -/
theorem trim_trim (s : String) : trim (trim s) = trim s := by
  have start : trimStart (trimStart s.toList) = trimStart s.toList :=
    List.dropWhile_idempotent isBlank s.toList
  rw [trim, trim, String.toList_ofList, trimStart_trimEnd start]
  exact congrArg String.ofList (List.rdropWhile_idempotent isBlank _)

end PushDelivery.Text
