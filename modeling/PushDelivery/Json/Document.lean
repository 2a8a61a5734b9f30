import PushDelivery.Json.Token

/-!
# JSON documents

A document is the tree that a text spells, before anyone decides what its parts mean: a number may
have no value, a string may have no text, and a key may occur twice. `read?` accepts exactly the
grammar, to any depth. What a reader of a message refuses beyond that is a matter of the parts it
decodes.

The tree is built by a machine with a stack of unfinished arrays and objects, one token at a time.

## Main definitions

* `Document`: the trees.
* `Document.Reader`: the machine, `Reader.step` one token of it.
* `Document.read?`: the document of a text.
* `Document.json?`: a document as a value, within a bound on the nesting.
* `Document.ofJson`: a value as a document.
-/

namespace PushDelivery

open Text (Cell)

/-- A document. -/
inductive Document
  | null
  | bool (value : Bool)
  | num (value : Option Number)
  | str (text : Option String)
  | arr (items : List Document)
  | obj (fields : List (Option String × Document))
  deriving Repr, Inhabited

namespace Document

/-- An unfinished array or object; what it holds so far is held last first. A `field` waits for the
value of its key. -/
inductive Frame
  | array (before : List Document)
  | object (before : List (Option String × Document))
  | field (before : List (Option String × Document)) (key : Option String)
  deriving Repr

/-- What may come next. -/
inductive Phase
  | value
  | valueOrClose
  | key
  | keyOrClose
  | colon
  | next
  | done (document : Document)
  deriving Repr

/-- The machine: unfinished arrays and objects, innermost first, and what may come next. -/
structure Reader where
  stack : List Frame
  phase : Phase
  deriving Repr

namespace Reader

/-- Before the first token. -/
def initial : Reader := ⟨[], .value⟩

/-- A finished part goes into the innermost unfinished one, or is the document. -/
def complete (document : Document) : List Frame → Option Reader
  | [] => some ⟨[], .done document⟩
  | .array before :: stack => some ⟨.array (document :: before) :: stack, .next⟩
  | .field before key :: stack => some ⟨.object ((key, document) :: before) :: stack, .next⟩
  | .object _ :: _ => none

/-- A token that stands where a value begins. -/
def value (stack : List Frame) : Token → Option Reader
  | .null => complete .null stack
  | .bool b => complete (.bool b) stack
  | .num n => complete (.num n.number?) stack
  | .str s => complete (.str s) stack
  | .openArray => some ⟨.array [] :: stack, .valueOrClose⟩
  | .openObject => some ⟨.object [] :: stack, .keyOrClose⟩
  | .closeArray | .closeObject | .comma | .colon => none

/-- The end of the innermost array or object. -/
def close (stack : List Frame) (token : Token) : Option Reader :=
  match stack, token with
  | .array before :: stack, .closeArray => complete (.arr before.reverse) stack
  | .object before :: stack, .closeObject => complete (.obj before.reverse) stack
  | _, _ => none

/-- A token that stands where a key begins. -/
def key (stack : List Frame) (token : Token) : Option Reader :=
  match stack, token with
  | .object before :: stack, .str k => some ⟨.field before k :: stack, .colon⟩
  | _, _ => none

/-- One token. -/
def step (r : Reader) (token : Token) : Option Reader :=
  match r.phase with
  | .value => value r.stack token
  | .valueOrClose => if token = .closeArray then close r.stack token else value r.stack token
  | .key => key r.stack token
  | .keyOrClose => if token = .closeObject then close r.stack token else key r.stack token
  | .colon => if token = .colon then some ⟨r.stack, .value⟩ else none
  | .next =>
    if token = .comma then
      match r.stack with
      | .array _ :: _ => some ⟨r.stack, .value⟩
      | .object _ :: _ => some ⟨r.stack, .key⟩
      | _ => none
    else close r.stack token
  | .done _ => none

/-- Tokens one after the other. -/
def run : Reader → List Token → Option Reader
  | r, [] => some r
  | r, token :: rest => (step r token).bind (run · rest)

/-- The document, if the machine has finished one. -/
def document? (r : Reader) : Option Document :=
  match r.phase with
  | .done document => some document
  | _ => none

end Reader

/-- The document that the cells from here on complete. -/
def scan? : Token.Mode → Reader → List Cell → Option Document
  | mode, r, [] =>
    match Token.finish mode with
    | none => none
    | some tokens => (r.run tokens).bind Reader.document?
  | mode, r, cell :: rest =>
    match Token.step mode cell with
    | none => none
    | some (tokens, mode) =>
      match r.run tokens with
      | none => none
      | some r => scan? mode r rest

/-- The document that cells spell. -/
def read? (cells : List Cell) : Option Document :=
  scan? .between .initial cells

/-- The document that a text spells. -/
def ofText? (s : String) : Option Document :=
  read? (s.toList.map some)

/-- The greatest number of arrays and objects around a value that is decoded, its own counted. -/
def nesting : Nat := 127

mutual

/-- The value of a document with at most `room` arrays and objects inside one another. Of a repeated
key the last one counts. -/
def json? (room : Nat) : Document → Option Json
  | .null => some .null
  | .bool b => some (.bool b)
  | .num n => n.map .num
  | .str s => s.map .str
  | .arr items => if room = 0 then none else (items? (room - 1) items).map .arr
  | .obj fields =>
    if room = 0 then none else (fields? (room - 1) fields).map fun f => .obj (DataMap.ofFields f)

/-- The values of array items. -/
def items? (room : Nat) : List Document → Option (List Json)
  | [] => some []
  | d :: rest => do
    let v ← json? room d
    let more ← items? room rest
    pure (v :: more)

/-- The values of object fields. -/
def fields? (room : Nat) : List (Option String × Document) → Option (List (String × Json))
  | [] => some []
  | (k, d) :: rest => do
    let key ← k
    let v ← json? room d
    let more ← fields? room rest
    pure ((key, v) :: more)

end

mutual

/-- The document of a value. A number keeps its value, which it may lose when it is written and read
again. -/
def ofJson : Json → Document
  | .null => .null
  | .bool b => .bool b
  | .num n => .num (some n)
  | .str s => .str (some s)
  | .arr items => .arr (ofItems items)
  | .obj fields => .obj (ofFields fields)

/-- The documents of array items. -/
def ofItems : List Json → List Document
  | [] => []
  | v :: rest => ofJson v :: ofItems rest

/-- The documents of object fields. -/
def ofFields : List (String × Json) → List (Option String × Document)
  | [] => []
  | (k, v) :: rest => (some k, ofJson v) :: ofFields rest

end

end Document

/-- The value that a text spells. -/
def Json.ofText? (s : String) : Option Json :=
  (Document.ofText? s).bind (Document.json? Document.nesting)

end PushDelivery
