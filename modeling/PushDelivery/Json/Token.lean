import PushDelivery.Json.Numeral
import PushDelivery.Text.Utf8

/-!
# JSON tokens

Reading a document begins by cutting it into tokens, one cell at a time: `step` takes the mode that
the cells before left behind and the next cell, and gives the tokens completed by it.

A string whose octets are no UTF-8, or that names half of a surrogate pair, is still a token: only
whoever needs its text has to refuse it.

## Main definitions

* `Token`: the tokens.
* `Token.step`, `Token.finish`: one cell, and the end of the document.
* `Token.join?`: the text of a string from its parts.
-/

namespace PushDelivery

open Text (Cell)

/-- A token; a string holds its text if it has one. -/
inductive Token
  | openArray | closeArray | openObject | closeObject | comma | colon
  | null
  | bool (value : Bool)
  | num (numeral : Numeral)
  | str (text : Option String)
  deriving DecidableEq, Repr

namespace Token

/-- A part of a string: a character, a code unit that was written by its number, or octets that
are no UTF-8. -/
inductive Part
  | char (c : Char)
  | unit (value : Nat)
  | broken
  deriving DecidableEq, Repr

/-- Code units that begin a surrogate pair. -/
def isHighSurrogate (n : Nat) : Bool := 0xD800 ≤ n && n ≤ 0xDBFF

/-- Code units that end a surrogate pair. -/
def isLowSurrogate (n : Nat) : Bool := 0xDC00 ≤ n && n ≤ 0xDFFF

/-- The characters of a string, if every part of it stands for some: a high surrogate needs the low
one right after it. -/
def join? : List Part → Option (List Char)
  | [] => some []
  | .char c :: rest => (join? rest).map (c :: ·)
  | .broken :: _ => none
  | .unit high :: .unit low :: rest =>
    if isHighSurrogate high then
      if isLowSurrogate low then
        (join? rest).map
          (Char.ofNat (0x10000 + (high - 0xD800) * 0x400 + (low - 0xDC00)) :: ·)
      else none
    else if isLowSurrogate high then none
    else (join? (.unit low :: rest)).map (Char.ofNat high :: ·)
  | .unit value :: rest =>
    if isHighSurrogate value || isLowSurrogate value then none
    else (join? rest).map (Char.ofNat value :: ·)

/-- What the cells read so far leave unfinished. Parts and letters are held last first. -/
inductive Mode
  | between
  | word (letters : List Char)
  | numeral (letters : List Char)
  | text (parts : List Part)
  | escape (parts : List Part)
  | unit (parts : List Part) (value left : Nat)
  deriving DecidableEq, Repr

/-- The characters that numerals consist of. -/
def isNumeralChar (c : Char) : Bool :=
  c.isDigit || c == '-' || c == '+' || c == '.' || c == 'e' || c == 'E'

/-- The value of a hexadecimal digit. -/
def hexValue? (c : Char) : Option Nat :=
  if c.isDigit then some (c.toNat - 48)
  else if 'a' ≤ c ∧ c ≤ 'f' then some (c.toNat - 87)
  else if 'A' ≤ c ∧ c ≤ 'F' then some (c.toNat - 55)
  else none

/-- The literal that a word spells. -/
def literal? (letters : List Char) : Option Token :=
  if letters = ['n', 'u', 'l', 'l'] then some .null
  else if letters = ['t', 'r', 'u', 'e'] then some (.bool true)
  else if letters = ['f', 'a', 'l', 's', 'e'] then some (.bool false)
  else none

/-- The blanks that may stand between tokens. -/
def isGap (c : Char) : Bool :=
  c == ' ' || c == '\t' || c == '\n' || c == '\r'

/-- A cell that stands where a token begins. -/
def start : Cell → Option (List Token × Mode)
  | none => none
  | some c =>
    if isGap c then some ([], .between)
    else if c = '[' then some ([.openArray], .between)
    else if c = ']' then some ([.closeArray], .between)
    else if c = '{' then some ([.openObject], .between)
    else if c = '}' then some ([.closeObject], .between)
    else if c = ',' then some ([.comma], .between)
    else if c = ':' then some ([.colon], .between)
    else if c = '"' then some ([], .text [])
    else if c = '-' ∨ c.isDigit then some ([], .numeral [c])
    else if 'a' ≤ c ∧ c ≤ 'z' then some ([], .word [c])
    else none

/-- The character that a one-letter escape stands for. -/
def escaped? (c : Char) : Option Char :=
  if c = '"' ∨ c = '\\' ∨ c = '/' then some c
  else if c = 'n' then some '\n'
  else if c = 'r' then some '\r'
  else if c = 't' then some '\t'
  else if c = 'b' then some (Char.ofNat 8)
  else if c = 'f' then some (Char.ofNat 12)
  else none

/-- The tokens that the end of a token completes. -/
def finish : Mode → Option (List Token)
  | .between => some []
  | .word letters => (literal? letters.reverse).map ([·])
  | .numeral letters => (Numeral.ofWord? letters.reverse).map ([.num ·])
  | .text _ | .escape _ | .unit .. => none

/-- One cell. -/
def step : Mode → Cell → Option (List Token × Mode)
  | .between, cell => start cell
  | .word letters, cell =>
    match cell with
    | some c =>
      if 'a' ≤ c ∧ c ≤ 'z' then some ([], .word (c :: letters))
      else do
        let done ← finish (.word letters)
        let (tokens, mode) ← start cell
        pure (done ++ tokens, mode)
    | none => none
  | .numeral letters, cell =>
    match cell with
    | some c =>
      if isNumeralChar c then some ([], .numeral (c :: letters))
      else do
        let done ← finish (.numeral letters)
        let (tokens, mode) ← start cell
        pure (done ++ tokens, mode)
    | none => none
  | .text parts, none => some ([], .text (.broken :: parts))
  | .text parts, some c =>
    if c = '"' then some ([.str ((join? parts.reverse).map String.ofList)], .between)
    else if c = '\\' then some ([], .escape parts)
    else if c.toNat < 32 then none
    else some ([], .text (.char c :: parts))
  | .escape _, none => none
  | .escape parts, some c =>
    if c = 'u' then some ([], .unit parts 0 4)
    else (escaped? c).map fun e => ([], .text (.char e :: parts))
  | .unit _ _ _, none => none
  | .unit parts value left, some c => do
    let digit ← hexValue? c
    let value := value * 16 + digit
    if left ≤ 1 then pure ([], .text (.unit value :: parts))
    else pure ([], .unit parts value (left - 1))

end Token

end PushDelivery
