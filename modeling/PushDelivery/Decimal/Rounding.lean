/-!
# Rounding a quotient of natural numbers

Backoff delays, binary64 numbers and the settings reader each round a quotient to a whole number.
They differ in what happens to an exact half, so that is the only parameter.

## Main definitions

* `roundDiv`: the whole number nearest to a quotient.
* `Ties`: where an exact half goes.
-/

namespace PushDelivery.Decimal

/-- Where a quotient that lies exactly between two whole numbers goes. -/
inductive Ties
  | toEven
  | up
  deriving DecidableEq, Repr

/-- The whole number nearest to `num / den`. -/
def roundDiv (ties : Ties) (num den : Nat) : Nat :=
  let q := num / den
  let twice := 2 * (num % den)
  if twice < den then q
  else if den < twice then q + 1
  else match ties with
    | .up => q + 1
    | .toEven => if q % 2 = 0 then q else q + 1

/-- A whole quotient is kept. -/
theorem roundDiv_mul (ties : Ties) (q : Nat) {den : Nat} (h : 0 < den) :
    roundDiv ties (q * den) den = q := by
  simp [roundDiv, Nat.mul_div_cancel _ h, h]

/-- The result is the floor of the quotient or the whole number after it. -/
theorem roundDiv_eq_or (ties : Ties) (num den : Nat) :
    roundDiv ties num den = num / den ∨ roundDiv ties num den = num / den + 1 := by
  unfold roundDiv
  dsimp only
  cases ties <;> (repeat' split) <;> simp

end PushDelivery.Decimal
