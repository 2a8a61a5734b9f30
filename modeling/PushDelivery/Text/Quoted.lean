import PushDelivery.Text.Hidden

/-!
# Quoted texts in messages

A text that is quoted in a message to people shows what it holds: quotes and backslashes are marked,
and characters that would not be seen are written by their number.

## Main definitions

* `quoteChar`: a character in such a text.
* `quoted`: a text between quotes.
-/

namespace PushDelivery.Text

/-- A character in a quoted text. -/
def quoteChar (c : Char) : List Char :=
  if c = '"' then ['\\', '"']
  else if c = '\\' then ['\\', '\\']
  else if c = '\n' then ['\\', 'n']
  else if c = '\r' then ['\\', 'r']
  else if c = '\t' then ['\\', 't']
  else if c.toNat = 0 then ['\\', '0']
  else if isHidden c then ['\\', 'u', '{'] ++ Nat.toDigits 16 c.toNat ++ ['}']
  else [c]

/-- A text between quotes. -/
def quoted (s : String) : String :=
  String.ofList ('"' :: s.toList.flatMap quoteChar ++ ['"'])

end PushDelivery.Text
