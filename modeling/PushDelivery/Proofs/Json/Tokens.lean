import Mathlib.Data.List.TakeWhile
import PushDelivery.Json.Printer
import PushDelivery.Proofs.Decimal.Digits
import PushDelivery.Proofs.Json.Values

/-!
# The Tokens of What Was Written

`Document.read?` takes one cell after the other and hands each finished token to the reader at once.
This module separates the two: `Token.lex?` gives all tokens of a sequence of cells, and reading is
lexing followed by a run of the reader. It then finds the tokens of a text that `Json.write` has
written.

A number or a word has no end of its own. It ends with the first character that cannot belong to it,
so what is said of the tokens of a value is said of the value in front of a delimiter.

## Main definitions

* `Token.lex?`: the tokens of cells.
* `Json.Exact`: values whose numbers are all written exactly, which are the integers of 64 bits.
* `Json.tokens`: the tokens of a value.

## Main results

* `Document.read?_eq`: reading is lexing, then running the reader.
* `Numeral.ofWord?_writeInteger`, `Numeral.number?_ofInt`: an integer of 64 bits keeps its value.
* `Json.lex?_write`: a value that was written has the tokens of the value.
-/

namespace PushDelivery

open Text (Cell)

namespace Token

/-- The tokens of the cells from here on. -/
def lex? : Mode → List Cell → Option (List Token)
  | mode, [] => finish mode
  | mode, cell :: rest =>
    (step mode cell).bind fun next => (lex? next.2 rest).map (next.1 ++ ·)

end Token

namespace Document

/-! ### Reading is lexing, then running -/

/-- A run over tokens in a row is one run after the other. -/
theorem Reader.run_append (r : Reader) (before after : List Token) :
    r.run (before ++ after) = (r.run before).bind (·.run after) := by
  induction before generalizing r with
  | nil => rfl
  | cons token rest ih =>
      rw [List.cons_append, run, run]
      cases r.step token with
      | none => rfl
      | some r' => exact ih r'

/-- Cells are read by running the reader over their tokens. -/
theorem scan?_eq (mode : Token.Mode) (r : Reader) (cells : List Cell) :
    scan? mode r cells =
      (Token.lex? mode cells).bind fun tokens => (r.run tokens).bind Reader.document? := by
  induction cells generalizing mode r with
  | nil =>
      rw [scan?, Token.lex?]
      cases Token.finish mode <;> rfl
  | cons cell rest ih =>
      rw [scan?, Token.lex?]
      cases Token.step mode cell with
      | none => rfl
      | some next =>
          obtain ⟨tokens, mode'⟩ := next
          dsimp only [Option.bind_some]
          rw [Option.bind_map]
          cases hrun : r.run tokens with
          | none =>
              simp only [Function.comp_def, Reader.run_append, hrun, Option.bind_none,
                Option.bind_fun_none]
          | some r' => simp only [ih, Function.comp_def, Reader.run_append, hrun, Option.bind_some]

/-- A document is read from its tokens. -/
theorem read?_eq (cells : List Cell) :
    read? cells =
      (Token.lex? .between cells).bind fun tokens =>
        (Reader.initial.run tokens).bind Reader.document? :=
  scan?_eq .between .initial cells

end Document

namespace Token

variable {rest : List Cell}

/-! ### Numbers and words end at a delimiter -/

/-- What may follow a value: nothing, a comma, or the end of an array or object. -/
def Delimited : List Cell → Prop
  | [] => True
  | some c :: _ => c = ',' ∨ c = ']' ∨ c = '}'
  | none :: _ => False

/-- A number or a word is finished in front of a delimiter. -/
theorem lex?_delimited (delimited : Delimited rest) {mode : Mode} {letters : List Char}
    (h : mode = .numeral letters ∨ mode = .word letters) :
    lex? mode rest = (finish mode).bind fun done => (lex? .between rest).map (done ++ ·) := by
  match rest, delimited with
  | [], _ => simp [lex?, finish]
  | some c :: rest, delimited =>
      have numeral : isNumeralChar c = false := by
        rcases delimited with rfl | rfl | rfl <;> decide
      have letter : ¬('a' ≤ c ∧ c ≤ 'z') := by
        rcases delimited with rfl | rfl | rfl <;> decide
      have hstep : step mode (some c) = (finish mode).bind fun done =>
          (start (some c)).map fun next => (done ++ next.1, next.2) := by
        rcases h with rfl | rfl
        · simp only [step, numeral, Bool.false_eq_true, if_false, Option.pure_def,
            Option.bind_eq_bind, Option.map_eq_bind, Function.comp_def]
        · simp only [step, letter, if_false, Option.pure_def, Option.bind_eq_bind,
            Option.map_eq_bind, Function.comp_def]
      rw [lex?, lex?, step, hstep]
      cases finish mode with
      | none => rfl
      | some done =>
          cases start (some c) with
          | none => rfl
          | some next => simp [Function.comp_def]

/-- A number ends in front of a delimiter. -/
theorem lex?_numeral (delimited : Delimited rest) {word : List Char}
    (chars : ∀ c ∈ word, isNumeralChar c = true) (letters : List Char) :
    lex? (.numeral letters) (word.map some ++ rest) =
      (Numeral.ofWord? (letters.reverse ++ word)).bind fun n =>
        (lex? .between rest).map (.num n :: ·) := by
  induction word generalizing letters with
  | nil =>
      rw [List.map_nil, List.nil_append, List.append_nil, lex?_delimited delimited (.inl rfl)]
      simp only [finish, Option.bind_map, Function.comp_def, List.cons_append, List.nil_append]
  | cons c word ih =>
      obtain ⟨hc, hword⟩ := List.forall_mem_cons.mp chars
      rw [List.map_cons, List.cons_append, lex?, step, if_pos hc, Option.bind_some, ih hword]
      simp

/-- A word ends in front of a delimiter. -/
theorem lex?_word (delimited : Delimited rest) {word : List Char}
    (chars : ∀ c ∈ word, 'a' ≤ c ∧ c ≤ 'z') (letters : List Char) :
    lex? (.word letters) (word.map some ++ rest) =
      (literal? (letters.reverse ++ word)).bind fun token =>
        (lex? .between rest).map (token :: ·) := by
  induction word generalizing letters with
  | nil =>
      rw [List.map_nil, List.nil_append, List.append_nil, lex?_delimited delimited (.inr rfl)]
      simp only [finish, Option.bind_map, Function.comp_def, List.cons_append, List.nil_append]
  | cons c word ih =>
      obtain ⟨hc, hword⟩ := List.forall_mem_cons.mp chars
      rw [List.map_cons, List.cons_append, lex?, step, if_pos hc, Option.bind_some, ih hword]
      simp

/-! ### Strings -/

/-- The three ways in which a character is written inside a string: by a letter of its own, by its
number, or as it is; with the part that it is then read as. -/
inductive Part.Writes (c : Char) : List Char → Part → Prop
  | letter {e : Char} (own : e ≠ 'u') (stands : escaped? e = some c) : Writes c ['\\', e] (.char c)
  | number (control : c.toNat < 32) :
      Writes c ['\\', 'u', '0', '0', Json.hexDigit (c.toNat / 16), Json.hexDigit (c.toNat % 16)]
        (.unit c.toNat)
  | plain (quote : c ≠ '"') (backslash : c ≠ '\\') (visible : ¬c.toNat < 32) :
      Writes c [c] (.char c)

/-- Every character is written in one of these ways. -/
theorem Part.exists_writes (c : Char) : ∃ part, Writes c (Json.escapeChar c) part := by
  unfold Json.escapeChar
  split
  · subst_vars
    exact ⟨_, .letter (by decide) rfl⟩
  split
  · subst_vars
    exact ⟨_, .letter (by decide) rfl⟩
  split
  · subst_vars
    exact ⟨_, .letter (by decide) rfl⟩
  split
  · subst_vars
    exact ⟨_, .letter (by decide) rfl⟩
  split
  · subst_vars
    exact ⟨_, .letter (by decide) rfl⟩
  split
  · rename_i backspace
    obtain rfl : Char.ofNat 8 = c := backspace ▸ Char.ofNat_toNat c
    exact ⟨_, .letter (by decide) rfl⟩
  split
  · rename_i formFeed
    obtain rfl : Char.ofNat 12 = c := formFeed ▸ Char.ofNat_toNat c
    exact ⟨_, .letter (by decide) rfl⟩
  split
  · rename_i control
    exact ⟨_, .number control⟩
  · rename_i quote backslash _ _ _ _ _ visible
    exact ⟨_, .plain quote backslash visible⟩

/-- A hexadecimal digit keeps its value. -/
theorem hexValue?_hexDigit {n : Nat} (h : n < 16) : hexValue? (Json.hexDigit n) = some n := by
  revert n
  decide

/-- A cell that completes no token. -/
theorem lex?_silent {mode mode' : Mode} {cell : Cell} (h : step mode cell = some ([], mode')) :
    lex? mode (cell :: rest) = lex? mode' rest := by
  rw [lex?, h, Option.bind_some]
  cases lex? mode' rest <;> rfl

/-- A character that was written is read as its part. -/
theorem Part.Writes.lex? {c : Char} {written : List Char} {part : Part}
    (h : Writes c written part) (parts : List Part) :
    lex? (.text parts) (written.map some ++ rest) = Token.lex? (.text (part :: parts)) rest := by
  have escapes : step (.text parts) (some '\\') = some ([], .escape parts) := rfl
  cases h with
  | @letter e own stands =>
      have ends : step (.escape parts) (some e) = some ([], .text (.char c :: parts)) := by
        rw [step, if_neg own, stands, Option.map_some]
      exact (lex?_silent escapes).trans (lex?_silent ends)
  | number control =>
      have high : hexValue? (Json.hexDigit (c.toNat / 16)) = some (c.toNat / 16) :=
        hexValue?_hexDigit (by omega)
      have low : hexValue? (Json.hexDigit (c.toNat % 16)) = some (c.toNat % 16) :=
        hexValue?_hexDigit (by omega)
      have value : (0 * 16 + c.toNat / 16) * 16 + c.toNat % 16 = c.toNat := by omega
      have begins : step (.escape parts) (some 'u') = some ([], .unit parts 0 4) := rfl
      have first : step (.unit parts 0 4) (some '0') = some ([], .unit parts 0 3) := rfl
      have second : step (.unit parts 0 3) (some '0') = some ([], .unit parts 0 2) := rfl
      have third : step (.unit parts 0 2) (some (Json.hexDigit (c.toNat / 16))) =
          some ([], .unit parts (0 * 16 + c.toNat / 16) 1) := by
        rw [step, high]
        rfl
      have fourth : step (.unit parts (0 * 16 + c.toNat / 16) 1)
          (some (Json.hexDigit (c.toNat % 16))) = some ([], .text (.unit c.toNat :: parts)) := by
        rw [step, low]
        exact congrArg (fun n => some ([], Mode.text (.unit n :: parts))) value
      calc Token.lex? (.text parts) (_ ++ rest)
        _ = Token.lex? (.unit parts 0 4) (some '0' :: some '0' ::
              some (Json.hexDigit (c.toNat / 16)) :: some (Json.hexDigit (c.toNat % 16)) :: rest) :=
          (lex?_silent escapes).trans (lex?_silent begins)
        _ = Token.lex? (.unit parts 0 2) (some (Json.hexDigit (c.toNat / 16)) ::
              some (Json.hexDigit (c.toNat % 16)) :: rest) :=
          (lex?_silent first).trans (lex?_silent second)
        _ = Token.lex? (.text (.unit c.toNat :: parts)) rest :=
          (lex?_silent third).trans (lex?_silent fourth)
  | plain quote backslash visible =>
      have plain : step (.text parts) (some c) = some ([], .text (.char c :: parts)) := by
        rw [step, if_neg quote, if_neg backslash, if_neg visible]
      exact lex?_silent plain

/-- A part that a character was written as stands for that character. -/
theorem Part.Writes.join? {c : Char} {written : List Char} {part : Part}
    (h : Writes c written part) (parts : List Part) :
    join? (part :: parts) = (Token.join? parts).map (c :: ·) := by
  cases h with
  | letter | plain => rfl
  | number control =>
      have high : isHighSurrogate c.toNat = false := by simp [isHighSurrogate]; omega
      have low : isLowSurrogate c.toNat = false := by simp [isLowSurrogate]; omega
      cases parts with
      | nil => simp [Token.join?, high, low]
      | cons next parts => cases next <;> simp [Token.join?, high, low]

/-- Characters that were written are read as parts that stand for them. -/
theorem exists_parts (cs : List Char) : ∃ parts, join? parts = some cs ∧ ∀ before rest,
    lex? (.text before) ((cs.flatMap Json.escapeChar).map some ++ rest) =
      lex? (.text (parts.reverse ++ before)) rest := by
  induction cs with
  | nil => exact ⟨[], rfl, fun _ _ => rfl⟩
  | cons c cs ih =>
      obtain ⟨parts, joined, hparts⟩ := ih
      obtain ⟨part, writes⟩ := Part.exists_writes c
      refine ⟨part :: parts, by rw [writes.join?, joined, Option.map_some], fun before rest => ?_⟩
      rw [List.flatMap_cons, List.map_append, List.append_assoc, writes.lex?, hparts]
      simp

/-- A string that was written is one token, which holds its text. -/
theorem lex?_writeString (s : String) :
    lex? .between ((Json.writeString s).map some ++ rest) =
      (lex? .between rest).map (.str (some s) :: ·) := by
  obtain ⟨parts, joined, hparts⟩ := exists_parts s.toList
  have hstart : start (some '"') = some ([], .text []) := by decide
  have hend : step (.text parts.reverse) (some '"') = some ([.str (some s)], .between) := by
    rw [step, if_pos rfl, List.reverse_reverse, joined, Option.map_some, String.ofList_toList]
  rw [Json.writeString, List.map_append, List.append_assoc, List.map_cons, List.map_cons,
    List.map_nil, List.cons_append, lex?, step, hstart, Option.bind_some, List.singleton_append,
    hparts, List.append_nil, lex?, hend]
  simp [Function.comp_def]

end Token

/-! ### Integers -/

/-- The numbers that are written exactly: the integers of 64 bits, with or without a sign. -/
def Number.IsExact : Number → Prop
  | .int i => -(Decimal.wordSize 63 : Int) ≤ i ∧ i < (Decimal.wordSize 64 : Int)
  | .float _ => False

namespace Numeral

open Decimal (exists_toDigits_eq_cons head?_toDigits isDigit_of_mem_toDigits)

/-- The numeral that an integer is written as. -/
def ofInt (i : Int) : Numeral :=
  { negative := decide (i < 0), whole := Nat.toDigits 10 i.natAbs, fraction := none
    exponent := none }

/-- What is written for a natural number has no zero in front of other digits. -/
theorem isWhole_toDigits (n : Nat) : isWhole (Nat.toDigits 10 n) = true := by
  rcases Nat.eq_zero_or_pos n with rfl | hpos
  · rfl
  · have hhead := head?_toDigits hpos
    have hne : Nat.toDigits 10 n ≠ [] := Nat.toDigits_ne_nil
    generalize Nat.toDigits 10 n = digits at hhead hne
    unfold isWhole
    split <;> simp_all

/-- Digits are a numeral, with or without a minus sign in front. -/
theorem ofWord?_toDigits (n : Nat) :
    ofWord? (Nat.toDigits 10 n) = some ⟨false, Nat.toDigits 10 n, none, none⟩ ∧
      ofWord? ('-' :: Nat.toDigits 10 n) = some ⟨true, Nat.toDigits 10 n, none, none⟩ := by
  have htake : (Nat.toDigits 10 n).takeWhile Char.isDigit = Nat.toDigits 10 n :=
    List.takeWhile_eq_self_iff.mpr fun _ => isDigit_of_mem_toDigits
  have hdrop : (Nat.toDigits 10 n).dropWhile Char.isDigit = [] :=
    List.dropWhile_eq_nil_iff.mpr fun _ => isDigit_of_mem_toDigits
  have hwhole := isWhole_toDigits n
  have hsign : ∀ rest, Nat.toDigits 10 n ≠ '-' :: rest := by
    obtain ⟨c, cs, hcs, hc⟩ := exists_toDigits_eq_cons n
    rintro rest heq
    rw [hcs] at heq
    obtain ⟨rfl, -⟩ := List.cons.inj heq
    exact absurd hc (by decide)
  constructor
  · unfold ofWord?
    split
    rename_i heq
    split at heq
    · exact absurd ‹_› (hsign _)
    · cases heq
      simp [htake, hdrop, hwhole, fractionPart?, exponentPart?]
  · simp [ofWord?, htake, hdrop, hwhole, fractionPart?, exponentPart?]

/-- An integer that was written is read as its numeral. -/
theorem ofWord?_writeInteger (i : Int) : ofWord? (Decimal.writeInteger i) = some (ofInt i) := by
  cases i with
  | ofNat n => exact (ofWord?_toDigits n).1
  | negSucc n =>
      rw [ofInt, Int.natAbs_negSucc, decide_eq_true (Int.negSucc_lt_zero n)]
      exact (ofWord?_toDigits (n + 1)).2

/-- An integer of 64 bits keeps its value. -/
theorem number?_ofInt {i : Int} (h : Number.IsExact (.int i)) :
    (ofInt i).number? = some (.int i) := by
  obtain ⟨hlow, hhigh⟩ := h
  have hwhole : Nat.ofDigitChars 10 (ofInt i).whole 0 = i.natAbs := Nat.ofDigitChars_ten_toDigits
  rw [number?, hwhole]
  rcases lt_or_ge i 0 with hneg | hpos
  · have hsign : (ofInt i).negative = true := decide_eq_true hneg
    have fits : 0 < i.natAbs ∧ i.natAbs ≤ Decimal.wordSize 63 := by omega
    have value : -(i.natAbs : Int) = i := by omega
    simp only [hsign, if_true]
    rw [if_pos ⟨rfl, rfl, fits⟩, value]
  · have hsign : (ofInt i).negative = false := decide_eq_false (Int.not_lt.mpr hpos)
    have fits : i.natAbs < Decimal.wordSize 64 := by omega
    have value : (i.natAbs : Int) = i := by omega
    simp only [hsign, Bool.false_eq_true, if_false]
    rw [if_pos ⟨rfl, rfl, fits⟩, value]

end Numeral

/-! ### Values -/

namespace Json

/-- A value without floating-point numbers, whose integers fit 64 bits. -/
def Exact (v : Json) : Prop := ∀ n, .num n ∈ v.parts → n.IsExact

theorem exact_arr {items : List Json} : (Json.arr items).Exact ↔ ∀ v ∈ items, v.Exact := by
  simp only [Exact, mem_parts_arr, reduceCtorEq, false_or]
  constructor
  · intro h v hv n hn
    exact h n ⟨v, hv, hn⟩
  · rintro h n ⟨v, hv, hn⟩
    exact h v hv n hn

theorem exact_obj {fields : List (String × Json)} :
    (Json.obj fields).Exact ↔ ∀ f ∈ fields, f.2.Exact := by
  simp only [Exact, mem_parts_obj, reduceCtorEq, false_or]
  constructor
  · intro h f hf n hn
    exact h n ⟨f, hf, hn⟩
  · rintro h n ⟨f, hf, hn⟩
    exact h f hf n hn

/-- The token of an exact number; no other number has one here. -/
def tokensOfNumber : Number → List Token
  | .int i => [.num (.ofInt i)]
  | .float _ => []

mutual

/-- The tokens of a value. -/
def tokens : Json → List Token
  | .null => [.null]
  | .bool b => [.bool b]
  | .num n => tokensOfNumber n
  | .str s => [.str (some s)]
  | .arr items => .openArray :: tokensOfItems items ++ [.closeArray]
  | .obj fields => .openObject :: tokensOfFields fields ++ [.closeObject]

/-- The tokens of items, with commas between them. -/
def tokensOfItems : List Json → List Token
  | [] => []
  | [v] => tokens v
  | v :: rest => tokens v ++ .comma :: tokensOfItems rest

/-- The tokens of fields, with commas between them. -/
def tokensOfFields : List (String × Json) → List Token
  | [] => []
  | [(k, v)] => .str (some k) :: .colon :: tokens v
  | (k, v) :: rest => .str (some k) :: .colon :: tokens v ++ .comma :: tokensOfFields rest

end

end Json

namespace Token

/-- The text of a value in front of other cells gives its tokens first. -/
def Writes (text : List Char) (tokens : List Token) : Prop :=
  ∀ rest, Delimited rest →
    lex? .between (text.map some ++ rest) = (lex? .between rest).map (tokens ++ ·)

/-- An integer is one token. -/
theorem writes_integer (i : Int) : Writes (Decimal.writeInteger i) [.num (.ofInt i)] := by
  intro rest delimited
  obtain ⟨c, cs, hcs, hc, hdigits⟩ := Decimal.exists_writeInteger_eq_cons i
  have hword : Numeral.ofWord? (c :: cs) = some (.ofInt i) := hcs ▸ Numeral.ofWord?_writeInteger i
  have hstart : start (some c) = some ([], .numeral [c]) := by
    rcases hc with rfl | hdigit
    · decide
    · have hne : ∀ d : Char, d.isDigit = false → c ≠ d := by
        rintro d hd rfl
        exact absurd hdigit (by simp [hd])
      simp [start, isGap, hdigit, hne]
  have hchars : ∀ d ∈ cs, isNumeralChar d = true := fun d hd => by
    simp [isNumeralChar, hdigits d hd]
  rw [hcs, List.map_cons, List.cons_append, lex?, step, hstart, Option.bind_some,
    lex?_numeral delimited hchars, List.reverse_singleton, List.singleton_append, hword]
  simp [Function.comp_def]

/-- A word that is a literal is one token. -/
theorem writes_literal {c : Char} {cs : List Char} {token : Token}
    (begins : start (some c) = some ([], .word [c])) (letters : ∀ d ∈ cs, 'a' ≤ d ∧ d ≤ 'z')
    (h : literal? (c :: cs) = some token) : Writes (c :: cs) [token] := by
  intro rest delimited
  rw [List.map_cons, List.cons_append, lex?, step, begins, Option.bind_some,
    lex?_word delimited letters, List.reverse_singleton, List.singleton_append, h]
  simp [Function.comp_def]

/-- A string is one token, whatever follows it. -/
theorem writes_string (s : String) : Writes (Json.writeString s) [.str (some s)] :=
  fun _ _ => lex?_writeString s

/-- The text of a value in front of a comma. -/
theorem Writes.comma {text : List Char} {tokens : List Token} (h : Writes text tokens)
    {rest : List Char} {more : List Token} (hrest : Writes rest more) :
    Writes (text ++ ',' :: rest) (tokens ++ .comma :: more) := by
  intro cells delimited
  have hcomma : start (some ',') = some ([.comma], .between) := by decide
  have ends : Delimited (some ',' :: (rest.map some ++ cells)) := .inl rfl
  rw [List.map_append, List.map_cons, List.append_assoc, List.cons_append, h _ ends, lex?,
    step, hcomma, Option.bind_some, hrest _ delimited]
  simp [Function.comp_def]

/-- A field: its key, a colon, and its value. -/
theorem Writes.field (key : String) {text : List Char} {tokens : List Token}
    (h : Writes text tokens) :
    Writes (Json.writeString key ++ ':' :: text) (.str (some key) :: .colon :: tokens) := by
  intro cells delimited
  have hcolon : start (some ':') = some ([.colon], .between) := by decide
  rw [List.map_append, List.map_cons, List.append_assoc, List.cons_append, lex?_writeString, lex?,
    step, hcolon, Option.bind_some, h _ delimited]
  simp [Function.comp_def]

/-- Brackets around items or fields, of which there may be none. -/
theorem Writes.enclosed {o c : Char} {text : List Char} {tokens : List Token} {first last : Token}
    (begins : start (some o) = some ([first], .between))
    (ends : start (some c) = some ([last], .between)) (delimits : c = ']' ∨ c = '}')
    (h : Writes text tokens) : Writes (o :: text ++ [c]) (first :: tokens ++ [last]) := by
  intro cells _
  have delimited : Delimited (some c :: cells) := .inr delimits
  rw [List.cons_append, List.map_cons, List.map_append, List.cons_append, List.append_assoc, lex?,
    step, begins, Option.bind_some, List.map_singleton, List.singleton_append]
  simp [h _ delimited, lex?, step, ends, Function.comp_def]

/-- Nothing is written as no tokens. -/
theorem writes_nil : Writes [] [] := by
  intro cells _
  simp

end Token

namespace Json

open Token (Writes)

/-- Items that are written one by one. -/
theorem writes_items {items : List Json} (h : ∀ v ∈ items, Writes v.write v.tokens) :
    Writes (writeItems items) (tokensOfItems items) := by
  induction items with
  | nil => exact Token.writes_nil
  | cons v rest ih =>
      obtain ⟨hv, hrest⟩ := List.forall_mem_cons.mp h
      cases rest with
      | nil => exact hv
      | cons w rest => exact hv.comma (ih hrest)

/-- Fields that are written one by one. -/
theorem writes_fields {fields : List (String × Json)}
    (h : ∀ f ∈ fields, Writes f.2.write f.2.tokens) :
    Writes (writeFields fields) (tokensOfFields fields) := by
  induction fields with
  | nil => exact Token.writes_nil
  | cons f rest ih =>
      obtain ⟨k, v⟩ := f
      obtain ⟨hv, hrest⟩ := List.forall_mem_cons.mp h
      cases rest with
      | nil => exact hv.field k
      | cons g rest =>
          have hmore := (hv.field k).comma (ih hrest)
          simpa [writeFields, tokensOfFields] using hmore

/-- An exact value is written as its tokens. -/
theorem writes_tokens {v : Json} (exact : v.Exact) : Writes v.write v.tokens := by
  have hnull : Writes ['n', 'u', 'l', 'l'] [.null] :=
    Token.writes_literal (by decide) (by simp) (by decide)
  have hfalse : Writes ['f', 'a', 'l', 's', 'e'] [.bool false] :=
    Token.writes_literal (by decide) (by simp) (by decide)
  have htrue : Writes ['t', 'r', 'u', 'e'] [.bool true] :=
    Token.writes_literal (by decide) (by simp) (by decide)
  induction v using Json.induction with
  | null => exact hnull
  | bool b =>
      cases b with
      | false => exact hfalse
      | true => exact htrue
  | num n =>
      cases n with
      | int i => exact Token.writes_integer i
      | float x => exact (exact (.float x) (by simp [parts])).elim
  | str s => exact Token.writes_string s
  | arr items ih =>
      exact Writes.enclosed (by decide) (by decide) (.inl rfl)
        (writes_items fun v hv => ih v hv (exact_arr.mp exact v hv))
  | obj fields ih =>
      exact Writes.enclosed (by decide) (by decide) (.inr rfl)
        (writes_fields fun f hf => ih f hf (exact_obj.mp exact f hf))

/-- **A written value is lexed.** The text of an exact value has exactly the tokens of the value. -/
theorem lex?_write {v : Json} (exact : v.Exact) :
    Token.lex? .between (v.write.map some) = some v.tokens := by
  have h := writes_tokens exact [] trivial
  simpa [Token.lex?, Token.finish] using h

end Json

end PushDelivery
