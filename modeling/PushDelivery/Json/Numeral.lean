import PushDelivery.Json.Basic

/-!
# Numbers as they are written in JSON

A numeral is the text of a number, checked against the grammar. It may be out of range and then has
no value, which matters only to who reads the field it stands in.

## Evaluation

An integer that fits 64 bits is kept as it is. Any other numeral becomes a binary64 value in two
roundings: its leading digits as far as they fit 64 bits are rounded to binary64, and the power of
ten that is left scales that once. Digits beyond that point only move the power. A value that
overflows has no evaluation; one that underflows is a zero.

## Main definitions

* `Numeral.ofWord?`: the grammar.
* `Numeral.number?`: the evaluation.
-/

namespace PushDelivery

open Decimal (Binary64)

/-- The text of a number: sign, digits before the point, digits after it, and exponent. -/
structure Numeral where
  negative : Bool
  whole : List Char
  fraction : Option (List Char)
  exponent : Option (Bool × List Char)
  deriving DecidableEq, Repr

namespace Numeral

/-- Zero alone, or digits that do not begin with zero. -/
def isWhole : List Char → Bool
  | [] => false
  | ['0'] => true
  | '0' :: _ => false
  | _ => true

/-- The exponent part: nothing, or `e` with an optional sign and digits. `none` is no such part. -/
def exponentPart? : List Char → Option (Option (Bool × List Char))
  | [] => some none
  | c :: rest =>
    if c = 'e' ∨ c = 'E' then
      let (negative, digits) := match rest with
        | '-' :: r => (true, r)
        | '+' :: r => (false, r)
        | r => (false, r)
      if digits ≠ [] ∧ digits.all Char.isDigit then some (some (negative, digits)) else none
    else none

/-- The fraction part: nothing, or a point and digits; and what follows it. -/
def fractionPart? : List Char → Option (Option (List Char) × List Char)
  | '.' :: rest =>
    let digits := rest.takeWhile Char.isDigit
    if digits = [] then none else some (some digits, rest.dropWhile Char.isDigit)
  | rest => some (none, rest)

/-- The numeral that a word spells, if it spells one. -/
def ofWord? (word : List Char) : Option Numeral :=
  let (negative, unsigned) := match word with
    | '-' :: rest => (true, rest)
    | rest => (false, rest)
  let whole := unsigned.takeWhile Char.isDigit
  if isWhole whole then do
    let (fraction, rest) ← fractionPart? (unsigned.dropWhile Char.isDigit)
    let exponent ← exponentPart? rest
    pure { negative, whole, fraction, exponent }
  else none

/-- Takes digits into a significand as long as it fits 64 bits, and counts the digits taken. -/
def fill (significand taken : Nat) : List Char → Nat × Nat
  | [] => (significand, taken)
  | c :: rest =>
    let next := significand * 10 + (c.toNat - 48)
    if next < Decimal.wordSize 64 then fill next (taken + 1) rest else (significand, taken)

/-- `10 ^ k` as a binary64 value. -/
def power (k : Nat) : Binary64 := .ofNat (Nat.pow 10 k)

/-- A value scaled by a power of ten in one rounding; powers under `10 ^ -308` go in steps of that
size. An overflow has no value. -/
def scale (x : Binary64) (exponent : Int) : Option Binary64 :=
  if -308 ≤ exponent ∧ exponent < 0 then some (x.div (power (-exponent).toNat))
  else if 0 ≤ exponent ∧ exponent ≤ 308 then
    let y := x.mul (power exponent.toNat)
    if y.isFinite then some y else none
  else if x.isZero then some x
  else if 0 ≤ exponent then none
  else scale (x.div (power 308)) (exponent + 308)
termination_by (-exponent).toNat
decreasing_by omega

/-- The greatest exponent that is evaluated; a greater one is an overflow or an underflow. -/
def exponentBound : Nat := Decimal.wordSize 31

/-- The value of a numeral that is no 64-bit integer. -/
def float? (n : Numeral) : Option Binary64 := do
  let (lead, taken) := fill 0 0 n.whole
  let dropped := n.whole.length - taken
  let (significand, places) := fill lead 0 (n.fraction.getD [])
  let size ← match n.exponent with
    | none => scale (.ofNat significand) ((dropped : Int) - places)
    | some (negative, digits) =>
      let e := Nat.ofDigitChars 10 digits 0
      if e < exponentBound then
        scale (.ofNat significand) ((dropped : Int) - places + (if negative then -(e : Int) else e))
      else if significand = 0 ∨ negative then some (.zero false)
      else none
  pure (if n.negative then size.neg else size)

/-- The value of a numeral. -/
def number? (n : Numeral) : Option Number :=
  let value := Nat.ofDigitChars 10 n.whole 0
  if n.fraction = none ∧ n.exponent = none ∧
      (if n.negative then 0 < value ∧ value ≤ Decimal.wordSize 63
        else value < Decimal.wordSize 64) then
    some (.int (if n.negative then -(value : Int) else value))
  else (n.float?).map .float

end Numeral

end PushDelivery
