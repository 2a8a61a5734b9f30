import PushDelivery.Decimal.Integer
import PushDelivery.Decimal.Rounding

/-!
# Binary floating point of 64 bits, as exact data

Numbers with a fraction part, the retry multiplier and delays in seconds are IEEE 754 binary64
values. A value is its sign, a significand and a power of two, so that every operation is exact
arithmetic on natural numbers followed by one rounding to nearest, ties to even.

## Main definitions

* `Binary64`: the values; a finite one is `± significand · 2 ^ exponent`.
* `Binary64.ofRatio`: the value nearest to a quotient of natural numbers.
* `mul`, `div`, `add`, `pow`: the operations, each rounded once per step.
* `Binary64.compare?`: the order, undefined on NaN.

## Canonical form

`ofRatio` uses the least exponent from `-1074` on whose significand stays under `2 ^ 53`, so equal
values have equal representations.
-/

namespace PushDelivery.Decimal

/-- A binary64 value. -/
inductive Binary64
  | nan
  | infinite (negative : Bool)
  | finite (negative : Bool) (significand : Nat) (exponent : Int)
  deriving DecidableEq, Repr

namespace Binary64

/-- The least exponent of a finite value. -/
def minExponent : Int := -1074

/-- The greatest exponent of a finite value. -/
def maxExponent : Int := 971

/-- Significands lie under this bound. -/
def significandBound : Nat := wordSize 53

/-- Zero with a sign. -/
def zero (negative : Bool) : Binary64 := .finite negative 0 minExponent

/-- The quotient `num / den` divided by `2 ^ exponent`, again as a quotient. -/
def scaleDown (num den : Nat) (exponent : Int) : Nat × Nat :=
  if 0 ≤ exponent then (num, den * Nat.pow 2 exponent.toNat)
  else (num * Nat.pow 2 (-exponent).toNat, den)

/-- The least exponent, from `minExponent` on, at which the significand of `num / den` stays under
the bound. -/
def exponentOf (num den : Nat) : Int :=
  let low := max minExponent ((num.log2 : Int) - (den.log2 : Int) - 53)
  let scaled := scaleDown num den low
  if scaled.1 / scaled.2 < significandBound then low else low + 1

/-- A rounded significand at an exponent: one that reached the bound moves to the next exponent,
and an exponent beyond the greatest one is an infinity. -/
def normalize (negative : Bool) (significand : Nat) (exponent : Int) : Binary64 :=
  let (m, e) := if significand < significandBound then (significand, exponent)
    else (significand / 2, exponent + 1)
  if maxExponent < e then .infinite negative else .finite negative m e

/-- The value nearest to `num / den`, ties to the even significand. -/
def ofRatio (negative : Bool) (num den : Nat) : Binary64 :=
  if num = 0 then zero negative
  else
    let e := exponentOf num den
    let scaled := scaleDown num den e
    normalize negative (roundDiv .toEven scaled.1 scaled.2) e

/-- The value nearest to a natural number. -/
def ofNat (n : Nat) : Binary64 := ofRatio false n 1

/-- The value nearest to an integer. -/
def ofInt (i : Int) : Binary64 := ofRatio (decide (i < 0)) i.natAbs 1

/-- The size of a finite value as a quotient of natural numbers. -/
def ratio (significand : Nat) (exponent : Int) : Nat × Nat :=
  if 0 ≤ exponent then (significand * Nat.pow 2 exponent.toNat, 1)
  else (significand, Nat.pow 2 (-exponent).toNat)

/-- The sign bit; a NaN counts as positive. -/
def isNegative : Binary64 → Bool
  | .nan => false
  | .infinite s => s
  | .finite s _ _ => s

/-- Neither a NaN nor an infinity. -/
def isFinite : Binary64 → Bool
  | .finite .. => true
  | _ => false

/-- A zero of either sign. -/
def isZero : Binary64 → Bool
  | .finite _ 0 _ => true
  | _ => false

/-- The same size with the other sign. -/
def neg : Binary64 → Binary64
  | .nan => .nan
  | .infinite s => .infinite !s
  | .finite s m e => .finite (!s) m e

/-- The product. -/
def mul : Binary64 → Binary64 → Binary64
  | .finite s m e, .finite t n f =>
    let a := ratio m e
    let b := ratio n f
    ofRatio (s != t) (a.1 * b.1) (a.2 * b.2)
  | .nan, _ | _, .nan => .nan
  | x, y => if x.isZero || y.isZero then .nan else .infinite (x.isNegative != y.isNegative)

/-- The quotient. -/
def div : Binary64 → Binary64 → Binary64
  | .nan, _ | _, .nan => .nan
  | .infinite _, .infinite _ => .nan
  | .infinite s, .finite t _ _ => .infinite (s != t)
  | .finite s _ _, .infinite t => zero (s != t)
  | .finite s m e, .finite t n f =>
    if n = 0 then (if m = 0 then .nan else .infinite (s != t))
    else
      let a := ratio m e
      let b := ratio n f
      ofRatio (s != t) (a.1 * b.2) (a.2 * b.1)

/-- The sum. A sum that is exactly zero is negative only if both terms are. -/
def add : Binary64 → Binary64 → Binary64
  | .nan, _ | _, .nan => .nan
  | .infinite s, .infinite t => if s = t then .infinite s else .nan
  | .infinite s, _ => .infinite s
  | _, .infinite t => .infinite t
  | .finite s m e, .finite t n f =>
    let a := ratio m e
    let b := ratio n f
    let left := (if s then -1 else 1) * ((a.1 * b.2 : Nat) : Int)
    let right := (if t then -1 else 1) * ((b.1 * a.2 : Nat) : Int)
    let sum := left + right
    if sum = 0 then zero (s && t) else ofRatio (decide (sum < 0)) sum.natAbs (a.2 * b.2)

/-- The order of two values; a NaN has none, and the two zeros are equal. -/
def compare? : Binary64 → Binary64 → Option Ordering
  | .nan, _ | _, .nan => none
  | .infinite s, .infinite t =>
    some (if s = t then .eq else if s then .lt else .gt)
  | .infinite s, .finite .. => some (if s then .lt else .gt)
  | .finite .., .infinite t => some (if t then .gt else .lt)
  | .finite s m e, .finite t n f =>
    let a := ratio m e
    let b := ratio n f
    let left := (if s then -1 else 1) * ((a.1 * b.2 : Nat) : Int)
    let right := (if t then -1 else 1) * ((b.1 * a.2 : Nat) : Int)
    some (compare left right)

/-- `x ≥ y`, false if either is a NaN. -/
def ge (x y : Binary64) : Bool :=
  match compare? x y with
  | some .gt | some .eq => true
  | _ => false

/-- The power by repeated squaring: `square` runs through the squares of the base, and `acc`
collects those whose bit is set in the exponent. -/
def powLoop (acc square : Binary64) (n : Nat) : Binary64 :=
  let acc := if n % 2 = 1 then acc.mul square else acc
  if n / 2 = 0 then acc else powLoop acc (square.mul square) (n / 2)
termination_by n
decreasing_by omega

/-- `base ^ n`, one rounding per multiplication. -/
def pow (base : Binary64) (n : Nat) : Binary64 :=
  powLoop (ofNat 1) base n

/-- The whole number nearest to a value times a factor, for finite values that are not negative. -/
def roundTimes (ties : Ties) (significand : Nat) (exponent : Int) (factor : Nat) : Nat :=
  let a := ratio significand exponent
  roundDiv ties (a.1 * factor) a.2

/-- The value nearest to `digits · 10 ^ exponent`. Exponents far outside the range are decided
without computing the power: with `n` digits the value lies between `10 ^ (exponent + n - 1)` and
`10 ^ (exponent + n)`. -/
def ofDecimal (negative : Bool) (digits : Nat) (exponent : Int) : Binary64 :=
  let magnitude := exponent + (Nat.toDigits 10 digits).length
  if digits = 0 then zero negative
  else if 400 < magnitude then .infinite negative
  else if magnitude < -400 then zero negative
  else if 0 ≤ exponent then ofRatio negative (digits * Nat.pow 10 exponent.toNat) 1
  else ofRatio negative digits (Nat.pow 10 (-exponent).toNat)

end Binary64

end PushDelivery.Decimal
