import PushDelivery.Text.Alphanumeric
import PushDelivery.Text.Blank

/-!
# Environment files

An environment file holds a variable per line. A value may be quoted, may go on over several lines
inside quotes, and may name other variables. A variable that is set already keeps its value. Reading
stops at the first line that cannot be read; the variables before it stay.

## Main definitions

* `Environment`: the variables that are set.
* `Dotenv.logicalLines`: the lines of a file, with quoted parts held together.
* `Dotenv.assignment?`: the variable that a line sets.
* `Dotenv.load`: the variables after reading a file.
-/

namespace PushDelivery.Settings

/-- The variables that are set. -/
abbrev Environment := List (String × String)

namespace Dotenv

open Text (isBlank)

/-! ### Lines -/

/-- Where reading stands between two characters of a line, to find out whether the next line belongs
to it, and where a comment begins: after a blank, after a backslash, in neither, or in one of the
two kinds of quotes. -/
inductive Scan
  | plain
  | blank
  | escape
  | strong
  | strongEscape
  | weak
  | weakEscape
  deriving DecidableEq, Repr

/-- After a character that is neither quoted nor escaped. -/
def Scan.open (c : Char) (otherwise : Scan) : Scan :=
  if c = '\\' then .escape
  else if c = '"' then .weak
  else if c = '\'' then .strong
  else otherwise

/-- The next state after a character that begins no comment. -/
def Scan.next (s : Scan) (c : Char) : Scan :=
  match s with
  | .plain =>
    if isBlank c ∧ c ≠ '\n' ∧ c ≠ '\r' then .blank else Scan.open c .plain
  | .blank => Scan.open c .plain
  | .escape => .plain
  | .weak => if c = '\\' then .weakEscape else if c = '"' then .plain else .weak
  | .weakEscape => .weak
  | .strong => if c = '\\' then .strongEscape else if c = '\'' then .plain else .strong
  | .strongEscape => .strong

/-- The state after characters, or the number of characters before a comment. -/
def Scan.through (s : Scan) (position : Nat) : List Char → Scan ⊕ Nat
  | [] => .inl s
  | c :: rest =>
    if s = .blank ∧ c = '#' then .inr position else Scan.through (s.next c) (position + 1) rest

/-- The lines of a text, each with the line feed that ends it. -/
def physicalLines : List Char → List (List Char)
  | [] => []
  | c :: rest =>
    if c = '\n' then [c] :: physicalLines rest
    else
      match physicalLines rest with
      | [] => [[c]]
      | line :: more => (c :: line) :: more

/-- A line without the line feed at its end. -/
def chomp (line : List Char) : List Char :=
  match line.reverse with
  | '\n' :: '\r' :: rest => rest.reverse
  | '\n' :: rest => rest.reverse
  | _ => line

/-- Whether nothing but a comment stands in characters. -/
def isComment (cs : List Char) : Bool := (cs.dropWhile isBlank).head? == some '#'

/-- Lines with their continuations, up to one that is not complete at the end. `before` is what a
line holds so far. A comment is cut off. -/
def logicalLines (before : List Char) (s : Scan) : List (List Char) → List (List Char)
  | [] => []
  | line :: rest =>
    let whole := before ++ line
    if isComment whole then [] :: logicalLines [] .plain rest
    else
      match s.through 0 line with
      | .inr position => (before ++ line.take position) :: logicalLines [] .plain rest
      | .inl .plain => chomp whole :: logicalLines [] .plain rest
      | .inl s => logicalLines whole s rest

/-! ### Values -/

/-- How a value is read on: plainly, after a backslash, inside quotes, in the name of a variable
without and with braces, or with nothing but blanks and a comment allowed. -/
inductive Mode
  | plain
  | escape
  | strong
  | name (soFar : List Char)
  | braced (soFar : List Char)
  | ending
  deriving DecidableEq, Repr

/-- The reading of a value: the mode, whether it stands in weak quotes, and the characters so far,
the last first. -/
structure Reading where
  mode : Mode := .plain
  weak : Bool := false
  output : List Char := []
  deriving Repr

/-- The value of a variable: as it is set, or as an earlier line gave it. -/
def valueOf (env : Environment) (earlier : Environment) (name : List Char) : List Char :=
  let name := String.ofList name
  ((env.lookup name).or (earlier.lookup name)).getD "" |>.toList

/-- Puts the value of a variable after what was read. -/
def Reading.insert (r : Reading) (value : List Char) : Reading :=
  { r with output := value.reverse ++ r.output }

/-- Puts a character after what was read. -/
def Reading.push (r : Reading) (c : Char) : Reading := { r with output := c :: r.output }

/-- One character of a value; `none` if it cannot stand there. -/
def Reading.step (look : List Char → List Char) (r : Reading) (c : Char) : Option Reading :=
  match r.mode with
  | .ending => if c = ' ' ∨ c = '\t' then some r else none
  | .escape =>
    let r := { r with mode := .plain }
    if c = '\\' ∨ c = '\'' ∨ c = '"' ∨ c = '$' ∨ c = ' ' then some (r.push c)
    else if c = 'n' then some (r.push '\n')
    else none
  | .strong => some (if c = '\'' then { r with mode := .plain } else r.push c)
  | .name soFar =>
    if Text.isAlphanumeric c then some { r with mode := .name (c :: soFar) }
    else if c = '{' ∧ soFar = [] then some { r with mode := .braced [] }
    else
      let r := r.insert (look soFar.reverse)
      some (if c = '$' then { r with mode := .name [] } else { r with mode := .plain }.push c)
  | .braced soFar =>
    some (if c = '}' then { r.insert (look soFar.reverse) with mode := .plain }
      else { r with mode := .braced (c :: soFar) })
  | .plain =>
    some (if c = '$' then { r with mode := .name [] }
      else if r.weak then
        if c = '"' then { r with weak := false }
        else if c = '\\' then { r with mode := .escape }
        else r.push c
      else if c = '\'' then { r with mode := .strong }
      else if c = '"' then { r with weak := true }
      else if c = '\\' then { r with mode := .escape }
      else if c = ' ' ∨ c = '\t' then { r with mode := .ending }
      else r.push c)

/-- The value that characters spell. -/
def Reading.run (look : List Char → List Char) (r : Reading) : List Char → Option (List Char)
  | [] =>
    if r.weak then none
    else
      match r.mode with
      | .strong | .braced _ => none
      | .name soFar => some (r.insert (look soFar.reverse)).output.reverse
      | _ => some r.output.reverse
  | c :: rest =>
    if r.mode = .ending ∧ c = '#' then
      if r.weak then none else some r.output.reverse
    else
      match r.step look c with
      | none => none
      | some r => Reading.run look r rest

/-! ### Assignments -/

/-- The name at the beginning of characters, and what follows it. -/
def name? (cs : List Char) : Option (List Char × List Char) :=
  match cs with
  | [] => none
  | c :: _ =>
    if c.isAlpha ∨ c = '_' then
      some (cs.takeWhile fun c => c.isAlphanum || c == '_' || c == '.',
        (cs.dropWhile fun c => c.isAlphanum || c == '_' || c == '.').dropWhile isBlank)
    else none

/-- What follows an equals sign. -/
def afterEquals? : List Char → Option (List Char)
  | '=' :: rest => some (rest.dropWhile isBlank)
  | _ => none

/-- The name that a line sets, after the word `export` if that is no name itself, and the characters
of the value. -/
def target? (cs : List Char) : Option (List Char × List Char) := do
  let (name, rest) ← name? cs
  match afterEquals? rest with
  | some value => some (name, value)
  | none =>
    if name = "export".toList then
      let (name, rest) ← name? rest
      let value ← afterEquals? rest
      some (name, value)
    else none

/-- The variable that a line sets, if it sets one; an outer `none` is a line that cannot be read. -/
def assignment? (look : List Char → List Char) (line : List Char) :
    Option (Option (String × String)) :=
  let cs := (Text.trimEnd line).dropWhile isBlank
  if cs = [] ∨ cs.head? = some '#' then some none
  else do
    let (name, value) ← target? cs
    if value = [] ∨ value.head? = some '#' then some (some (String.ofList name, ""))
    else
      let value ← Reading.run look {} value
      some (some (String.ofList name, String.ofList value))

/-- The variables after lines, with what earlier lines gave. -/
def loadLines (env earlier : Environment) : List (List Char) → Environment
  | [] => env
  | line :: rest =>
    match assignment? (valueOf env earlier) line with
    | none => env
    | some none => loadLines env earlier rest
    | some (some (name, value)) =>
      let env := if (env.lookup name).isSome then env else env ++ [(name, value)]
      loadLines env ((name, value) :: earlier) rest

/-- The variables after reading a file. -/
def load (env : Environment) (text : String) : Environment :=
  let cs := match text.toList with
    | '\uFEFF' :: rest => rest
    | cs => cs
  loadLines env [] (logicalLines [] .plain (physicalLines cs))

end Dotenv

end PushDelivery.Settings
