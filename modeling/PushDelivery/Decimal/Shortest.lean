import PushDelivery.Decimal.Binary64

/-!
# The shortest decimal of a binary64 value

A finite value is written with the fewest decimal digits that read back as the same value, and
among those with the digits nearest to it. Two decimals can be equally near: `2 ^ 50 + 1 / 4` is
halfway between its neighbours with sixteen digits, which both read back. Where such a tie goes is a
parameter.

The reals that round to `m · 2 ^ e` form an interval around it, closed if `m` is even. On the grid
of the multiples of `10 ^ k`, a point lies in that interval if one of the value's two neighbours on
the grid does, so it is enough to try those, on coarser grids first.

## Main definitions

* `Shortest.decimal`: digits and power of ten of a value.
* `Shortest.positional`: digits written out around a decimal point.
* `Shortest.scientific`: one digit before the point, and an exponent.
-/

namespace PushDelivery.Decimal.Shortest

/-- A decimal number `digits · 10 ^ exponent`. -/
structure Digits where
  digits : Nat
  exponent : Int
  deriving DecidableEq, Repr

/-- A quotient times a power of ten. -/
def timesTen (num den : Nat) (k : Int) : Nat × Nat :=
  if 0 ≤ k then (num * Nat.pow 10 k.toNat, den) else (num, den * Nat.pow 10 (-k).toNat)

/-- The interval of reals that round to `m · 2 ^ e`, in quarters of `2 ^ e`: lower end, value and
upper end. Below a power of two the spacing is half as wide. -/
def quarters (m : Nat) (e : Int) : Nat × Nat × Nat :=
  let below := if m = Nat.pow 2 52 ∧ Binary64.minExponent < e then 1 else 2
  (4 * m - below, 4 * m, 4 * m + 2)

/-- Whether `digits · 10 ^ k` rounds to `m · 2 ^ e`. -/
def readsBack (m : Nat) (e : Int) (digits : Nat) (k : Int) : Bool :=
  let (low, _, high) := quarters m e
  let unit := Binary64.ratio 1 (e - 2)
  let point := timesTen digits 1 k
  let left := point.1 * unit.2
  let lowEnd := low * unit.1 * point.2
  let highEnd := high * unit.1 * point.2
  if m % 2 = 0 then lowEnd ≤ left && left ≤ highEnd else lowEnd < left && left < highEnd

/-- The exponent `p` with `10 ^ p ≤ num / den < 10 ^ (p + 1)`, for positive quotients. -/
def leadingPower (num den : Nat) : Int :=
  let guess := ((Nat.toDigits 10 num).length : Int) - (Nat.toDigits 10 den).length
  let scaled := timesTen num den (-guess)
  if scaled.2 ≤ scaled.1 then guess else guess - 1

/-- The first grid, from coarse to fine, that holds a neighbour of the value which reads back. With
two such neighbours the nearer one is taken. -/
def search (ties : Ties) (m : Nat) (e : Int) (top : Int) : (grids : Nat) → (tried : Nat) → Digits
  | 0, tried =>
    let value := Binary64.ratio m e
    let k := top - tried
    let scaled := timesTen value.1 value.2 (-k)
    ⟨roundDiv ties scaled.1 scaled.2, k⟩
  | grids + 1, tried =>
    let value := Binary64.ratio m e
    let k := top - tried
    let scaled := timesTen value.1 value.2 (-k)
    let low := scaled.1 / scaled.2
    let nearest := roundDiv ties scaled.1 scaled.2
    let other := if nearest = low then low + 1 else low
    if readsBack m e nearest k then ⟨nearest, k⟩
    else if readsBack m e other k then ⟨other, k⟩
    else search ties m e top grids (tried + 1)

/-- A decimal without zeros at its end. A neighbour may be a power of ten one digit longer than its
grid, so the digits found can end in one. -/
def Digits.strip (digits : Nat) (exponent : Int) : Digits :=
  if h : digits ≠ 0 ∧ digits % 10 = 0 then strip (digits / 10) (exponent + 1)
  else ⟨digits, exponent⟩
termination_by digits
decreasing_by omega

/-- The shortest decimal of the positive value `m · 2 ^ e`; zero is `0 · 10 ^ 0`. -/
def decimal (ties : Ties) (m : Nat) (e : Int) : Digits :=
  if m = 0 then ⟨0, 0⟩
  else
    let value := Binary64.ratio m e
    let found := search ties m e (leadingPower value.1 value.2) 17 0
    Digits.strip found.digits found.exponent

/-- The exponent of the leading digit. -/
def Digits.leading (d : Digits) : Int :=
  d.exponent + ((Nat.toDigits 10 d.digits).length : Int) - 1

/-- A text of zeros. -/
def zeros (n : Nat) : String := String.ofList (List.replicate n '0')

/-- A decimal written out around a decimal point. A whole number ends in `wholeEnd`. -/
def positional (wholeEnd : String) (d : Digits) : String :=
  let digits := Nat.toDigits 10 d.digits
  if 0 ≤ d.exponent then
    String.ofList digits ++ (if d.digits = 0 then "" else zeros d.exponent.toNat) ++ wholeEnd
  else
    let places := (-d.exponent).toNat
    if places < digits.length then
      let whole := digits.length - places
      String.ofList (digits.take whole) ++ "." ++ String.ofList (digits.drop whole)
    else "0." ++ zeros (places - digits.length) ++ String.ofList digits

/-- A decimal with one digit before the point, and the exponent with its sign. -/
def scientific (d : Digits) : String :=
  let digits := Nat.toDigits 10 d.digits
  let mantissa := match digits with
    | [] => "0"
    | [c] => c.toString
    | c :: rest => c.toString ++ "." ++ String.ofList rest
  let x := d.leading
  mantissa ++ "e" ++ (if x < 0 then "-" else "+") ++ Nat.repr x.natAbs

end PushDelivery.Decimal.Shortest
