import PushDelivery.Text.Utf8

/-!
# Percent signs in addresses

In an address an octet may be written as a percent sign and two hexadecimal digits.

## Main definitions

* `percentOctets`: the octets that characters of an address stand for.
-/

namespace PushDelivery.Text

/-- The value of a hexadecimal digit. -/
def hexDigit? (c : Char) : Option Nat :=
  if c.isDigit then some (c.toNat - 48)
  else if 'a' ≤ c ∧ c ≤ 'f' then some (c.toNat - 87)
  else if 'A' ≤ c ∧ c ≤ 'F' then some (c.toNat - 55)
  else none

/-- The octets that characters stand for. A percent sign without two digits stands for itself. -/
def percentOctets : List Char → List UInt8
  | [] => []
  | '%' :: high :: low :: rest =>
    match hexDigit? high, hexDigit? low with
    | some h, some l => UInt8.ofNat (16 * h + l) :: percentOctets rest
    | _, _ => 0x25 :: percentOctets (high :: low :: rest)
  | c :: rest => Utf8.octets (String.singleton c) ++ percentOctets rest

end PushDelivery.Text
