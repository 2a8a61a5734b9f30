/-!
# Integers as texts and in words

Counts, ports and numbers from outside are integers that fit a word of some bits. An integer is
written in decimal digits, after a minus sign if it is negative, and is read with a sign of either
kind or none.

## Main definitions

* `wordSize`: how many natural numbers a word of some bits holds.
* `isSigned64`: the integers of a signed word of 64 bits.
* `natural?`, `integer?`: reading.
* `writeInteger`: writing.
-/

namespace PushDelivery.Decimal

/-- How many natural numbers a word of some bits holds. -/
def wordSize (bits : Nat) : Nat := Nat.pow 2 bits

/-- The integers of a signed word of 64 bits. -/
def isSigned64 (i : Int) : Bool := -(wordSize 63 : Int) ≤ i && i < (wordSize 63 : Int)

/-- The natural number that digits spell. -/
def natural? (cs : List Char) : Option Nat :=
  if cs ≠ [] ∧ cs.all Char.isDigit then some (Nat.ofDigitChars 10 cs 0) else none

/-- The integer that digits spell after an optional sign. -/
def integer? : List Char → Option Int
  | '-' :: rest => (natural? rest).map fun n => -(n : Int)
  | '+' :: rest => (natural? rest).map fun n => (n : Int)
  | rest => (natural? rest).map fun n => (n : Int)

/-- The characters of an integer. -/
def writeInteger : Int → List Char
  | .ofNat n => Nat.toDigits 10 n
  | .negSucc n => '-' :: Nat.toDigits 10 (n + 1)

/-- The text of an integer. -/
def integerText (i : Int) : String := String.ofList (writeInteger i)

end PushDelivery.Decimal
