import PushDelivery.Decimal.Binary64

/-!
# Binary64 values as people write them

A value may be given as a decimal with an optional sign, point and exponent, as `inf`, `infinity` or
`nan` in any case. Digits may stand on one side of the point only. The value is the nearest to the
decimal.

## Main definitions

* `Binary64.ofLiteral?`: the value of a text.
-/

namespace PushDelivery.Decimal.Binary64

/-- Whether a word is another one in upper or lower case. -/
def isWord (word cs : List Char) : Bool := cs.map Char.toLower == word

/-- The exponent that a text ends with: none, or `e` with an optional sign and digits. -/
def literalExponent? : List Char → Option Int
  | [] => some 0
  | c :: rest =>
    if c = 'e' ∨ c = 'E' then
      let (negative, digits) := match rest with
        | '-' :: r => (true, r)
        | '+' :: r => (false, r)
        | r => (false, r)
      (natural? digits).map fun e => if negative then -(e : Int) else e
    else none

/-- The value of a decimal without a sign. -/
def decimal? (negative : Bool) (cs : List Char) : Option Binary64 := do
  let whole := cs.takeWhile Char.isDigit
  let rest := cs.dropWhile Char.isDigit
  let (fraction, rest) := match rest with
    | '.' :: r => (r.takeWhile Char.isDigit, r.dropWhile Char.isDigit)
    | r => ([], r)
  let exponent ← literalExponent? rest
  if whole = [] ∧ fraction = [] then none
  else
    some (ofDecimal negative (Nat.ofDigitChars 10 (whole ++ fraction) 0)
      (exponent - fraction.length))

/-- The value of characters without a sign. -/
def unsigned? (negative : Bool) (cs : List Char) : Option Binary64 :=
  if isWord ['i', 'n', 'f'] cs ∨ isWord ['i', 'n', 'f', 'i', 'n', 'i', 't', 'y'] cs then
    some (.infinite negative)
  else if isWord ['n', 'a', 'n'] cs then some .nan
  else decimal? negative cs

/-- The value of characters. -/
def ofLiteral? : List Char → Option Binary64
  | '-' :: cs => unsigned? true cs
  | '+' :: cs => unsigned? false cs
  | cs => unsigned? false cs

end PushDelivery.Decimal.Binary64
