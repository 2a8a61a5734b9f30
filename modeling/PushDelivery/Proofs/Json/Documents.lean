import PushDelivery.Proofs.Json.Tokens

/-!
# Documents That Were Written

The reader of documents keeps a stack of unfinished arrays and objects. Over the tokens of a value
it comes back to the stack on which it began, with the document of the value as one more finished
part, so an exact value that was written is read as its document. The converse direction is not
asked for here, as one document has many texts; what is said of documents that were read is that
each of their numbers is one that a numeral stands for, so that an integer among them fits 64 bits.

## Main definitions

* `Document.Reads`: tokens that the reader turns into one finished part.

## Main results

* `Document.read?_write`: an exact value that was written is read as its document.
* `Document.spelled_of_read?`: what is true of the numbers in every document that was read.
* `Document.exact_of_json?`: a value that was decoded from such a document is exact, unless it
  holds a floating-point number.
-/

namespace PushDelivery.Document

open Text (Cell)

/-! ### The reader over the tokens of a value -/

/-- The phases in which a value may begin. -/
def Reader.Begins (phase : Phase) : Prop := phase = .value ∨ phase = .valueOrClose

/-- The reader turns these tokens into one finished part. -/
def Reads (tokens : List Token) (d : Document) : Prop :=
  ∀ stack phase more, Reader.Begins phase →
    Reader.run ⟨stack, phase⟩ (tokens ++ more) = (Reader.complete d stack).bind (·.run more)

/-- A single token that stands for a part. -/
theorem reads_token {token : Token} {d : Document} (opens : token ≠ .closeArray)
    (value : ∀ stack, Reader.value stack token = Reader.complete d stack) : Reads [token] d := by
  rintro stack phase more (rfl | rfl)
  · simp [Reader.run, Reader.step, value]
  · simp [Reader.run, Reader.step, value, opens]

/-- The items of an array, up to its end. -/
theorem run_items {items : List Json} (h : ∀ v ∈ items, Reads v.tokens (ofJson v))
    (before : List Document) (stack : List Frame) (more : List Token) {phase : Phase}
    (begins : phase = .valueOrClose ∨ phase = .value ∧ items ≠ []) :
    Reader.run ⟨.array before :: stack, phase⟩ (Json.tokensOfItems items ++ .closeArray :: more) =
      (Reader.complete (.arr (before.reverse ++ ofItems items)) stack).bind (·.run more) := by
  induction items generalizing before phase with
  | nil =>
      obtain rfl : phase = .valueOrClose := begins.resolve_right fun h => h.2 rfl
      simp [Json.tokensOfItems, Reader.run, Reader.step, Reader.close, ofItems]
  | cons v rest ih =>
      obtain ⟨hv, hrest⟩ := List.forall_mem_cons.mp h
      have hbegins : Reader.Begins phase := begins.elim .inr fun h => .inl h.1
      cases rest with
      | nil =>
          rw [Json.tokensOfItems, hv _ _ _ hbegins]
          simp [Reader.complete, Reader.run, Reader.step, Reader.close, ofItems]
      | cons w rest =>
          have htokens : Json.tokensOfItems (v :: w :: rest) =
              v.tokens ++ .comma :: Json.tokensOfItems (w :: rest) := rfl
          rw [htokens, List.append_assoc, hv _ _ _ hbegins, List.cons_append, Reader.complete,
            Option.bind_some, Reader.run, Reader.step]
          simp only [if_true, Option.bind_some]
          rw [ih hrest _ (.inr ⟨rfl, by simp⟩)]
          simp [ofItems]

/-- The fields of an object, up to its end. -/
theorem run_fields {fields : List (String × Json)} (h : ∀ f ∈ fields, Reads f.2.tokens (ofJson f.2))
    (before : List (Option String × Document)) (stack : List Frame) (more : List Token)
    {phase : Phase} (begins : phase = .keyOrClose ∨ phase = .key ∧ fields ≠ []) :
    Reader.run ⟨.object before :: stack, phase⟩
        (Json.tokensOfFields fields ++ .closeObject :: more) =
      (Reader.complete (.obj (before.reverse ++ ofFields fields)) stack).bind (·.run more) := by
  induction fields generalizing before phase with
  | nil =>
      obtain rfl : phase = .keyOrClose := begins.resolve_right fun h => h.2 rfl
      simp [Json.tokensOfFields, Reader.run, Reader.step, Reader.close, ofFields]
  | cons f rest ih =>
      obtain ⟨k, v⟩ := f
      obtain ⟨hv, hrest⟩ := List.forall_mem_cons.mp h
      have hkey : ∀ more, Reader.run ⟨.object before :: stack, phase⟩
          (.str (some k) :: .colon :: more) =
            Reader.run ⟨.field before (some k) :: stack, .value⟩ more := by
        intro more
        rcases begins with rfl | ⟨rfl, -⟩ <;> simp [Reader.run, Reader.step, Reader.key]
      cases rest with
      | nil =>
          rw [Json.tokensOfFields, List.cons_append, List.cons_append, hkey, hv _ _ _ (.inl rfl)]
          simp [Reader.complete, Reader.run, Reader.step, Reader.close, ofFields]
      | cons g rest =>
          have htokens : Json.tokensOfFields ((k, v) :: g :: rest) =
              .str (some k) :: .colon :: v.tokens ++
                .comma :: Json.tokensOfFields (g :: rest) := rfl
          rw [htokens, List.append_assoc, List.cons_append, List.cons_append, hkey,
            hv _ _ _ (.inl rfl), List.cons_append, Reader.complete, Option.bind_some, Reader.run,
            Reader.step]
          simp only [if_true, Option.bind_some]
          rw [ih hrest _ (.inr ⟨rfl, by simp⟩)]
          simp [ofFields]

/-- The tokens of an exact value are read as its document. -/
theorem reads_tokens {v : Json} (exact : v.Exact) : Reads v.tokens (ofJson v) := by
  induction v using Json.induction with
  | null => exact reads_token (by simp) fun _ => rfl
  | bool b => exact reads_token (by simp) fun _ => rfl
  | num n =>
      have hn := exact n (by simp [Json.parts])
      cases n with
      | float x => exact hn.elim
      | int i =>
          refine reads_token (by simp) fun stack => ?_
          rw [Reader.value, Numeral.number?_ofInt hn, ofJson]
  | str s => exact reads_token (by simp) fun _ => rfl
  | arr items ih =>
      rintro stack phase more begins
      have hopen : Reader.run ⟨stack, phase⟩
          (.openArray :: (Json.tokensOfItems items ++ .closeArray :: more)) =
            Reader.run ⟨.array [] :: stack, .valueOrClose⟩
              (Json.tokensOfItems items ++ .closeArray :: more) := by
        rcases begins with rfl | rfl <;> simp [Reader.run, Reader.step, Reader.value]
      rw [Json.tokens, List.cons_append, List.cons_append, List.append_assoc,
        List.singleton_append, hopen,
        run_items (fun v hv => ih v hv (Json.exact_arr.mp exact v hv)) _ _ _ (.inl rfl), ofJson]
      rfl
  | obj fields ih =>
      rintro stack phase more begins
      have hopen : Reader.run ⟨stack, phase⟩
          (.openObject :: (Json.tokensOfFields fields ++ .closeObject :: more)) =
            Reader.run ⟨.object [] :: stack, .keyOrClose⟩
              (Json.tokensOfFields fields ++ .closeObject :: more) := by
        rcases begins with rfl | rfl <;> simp [Reader.run, Reader.step, Reader.value]
      rw [Json.tokens, List.cons_append, List.cons_append, List.append_assoc,
        List.singleton_append, hopen,
        run_fields (fun f hf => ih f hf (Json.exact_obj.mp exact f hf)) _ _ _ (.inl rfl), ofJson]
      rfl

/-- **A written value is read.** What is read from the text of an exact value is its document. -/
theorem read?_write {v : Json} (exact : v.Exact) : read? (v.write.map some) = some (ofJson v) := by
  have h := reads_tokens exact [] .value [] (.inl rfl)
  rw [List.append_nil] at h
  rw [read?_eq, Json.lex?_write exact, Option.bind_some, Reader.initial, h]
  rfl

/-! ### The numbers of a document that was read -/

/-- An unfinished array or object whose parts so far are spelled. -/
def Frame.Spelled : Frame → Prop
  | .array before => ∀ d ∈ before, d.Spelled
  | .object before => ∀ f ∈ before, f.2.Spelled
  | .field before _ => ∀ f ∈ before, f.2.Spelled

/-- A reader that holds spelled parts only. -/
structure Reader.Spelled (r : Reader) : Prop where
  stack : ∀ frame ∈ r.stack, frame.Spelled
  document : ∀ d, r.phase = .done d → d.Spelled

/-- A finished part goes where it belongs. -/
theorem Reader.Spelled.complete {d : Document} {stack : List Frame} {r : Reader}
    (hd : d.Spelled) (hstack : ∀ frame ∈ stack, frame.Spelled)
    (h : Reader.complete d stack = some r) : r.Spelled := by
  match stack, hstack with
  | [], _ =>
      obtain rfl := Option.some.inj h
      exact ⟨nofun, fun _ heq => Phase.done.inj heq ▸ hd⟩
  | .array before :: stack, hstack =>
      obtain rfl := Option.some.inj h
      obtain ⟨hbefore, hstack⟩ := List.forall_mem_cons.mp hstack
      exact ⟨List.forall_mem_cons.mpr ⟨List.forall_mem_cons.mpr ⟨hd, hbefore⟩, hstack⟩, nofun⟩
  | .field before key :: stack, hstack =>
      obtain rfl := Option.some.inj h
      obtain ⟨hbefore, hstack⟩ := List.forall_mem_cons.mp hstack
      exact ⟨List.forall_mem_cons.mpr ⟨List.forall_mem_cons.mpr ⟨hd, hbefore⟩, hstack⟩, nofun⟩
  | .object _ :: _, _ => cases h

/-- The reader that waits on spelled parts. -/
theorem Reader.Spelled.waits {stack : List Frame} (hstack : ∀ frame ∈ stack, frame.Spelled)
    {phase : Phase} (waits : ∀ d, phase ≠ .done d) : (Reader.mk stack phase).Spelled :=
  ⟨hstack, fun d heq => absurd heq (waits d)⟩

/-- An array or object of which nothing is finished yet. -/
theorem Frame.spelled_nil : (Frame.array []).Spelled ∧ (Frame.object []).Spelled := by
  simp [Frame.Spelled]

/-- A token that stands where a value begins. -/
theorem Reader.Spelled.value {stack : List Frame} (hstack : ∀ frame ∈ stack, frame.Spelled)
    {token : Token} {r : Reader} (h : Reader.value stack token = some r) : r.Spelled := by
  cases token with
  | null => exact .complete .null hstack h
  | bool b => exact .complete (.bool b) hstack h
  | num n => exact .complete (.num n) hstack h
  | str s => exact .complete (.str s) hstack h
  | openArray =>
      obtain rfl := Option.some.inj h
      exact .waits (List.forall_mem_cons.mpr ⟨Frame.spelled_nil.1, hstack⟩) nofun
  | openObject =>
      obtain rfl := Option.some.inj h
      exact .waits (List.forall_mem_cons.mpr ⟨Frame.spelled_nil.2, hstack⟩) nofun
  | closeArray | closeObject | comma | colon => cases h

/-- The end of an array or object. -/
theorem Reader.Spelled.close {stack : List Frame} (hstack : ∀ frame ∈ stack, frame.Spelled)
    {token : Token} {r : Reader} (h : Reader.close stack token = some r) : r.Spelled := by
  unfold Reader.close at h
  split at h
  · obtain ⟨hbefore, hstack⟩ := List.forall_mem_cons.mp hstack
    exact .complete (.arr fun d hd => hbefore d (List.mem_reverse.mp hd)) hstack h
  · obtain ⟨hbefore, hstack⟩ := List.forall_mem_cons.mp hstack
    exact .complete (.obj fun f hf => hbefore f (List.mem_reverse.mp hf)) hstack h
  · cases h

/-- A token that stands where a key begins. -/
theorem Reader.Spelled.key {stack : List Frame} (hstack : ∀ frame ∈ stack, frame.Spelled)
    {token : Token} {r : Reader} (h : Reader.key stack token = some r) : r.Spelled := by
  unfold Reader.key at h
  split at h
  · rename_i before stack key
    obtain rfl := Option.some.inj h
    obtain ⟨hbefore, hstack⟩ := List.forall_mem_cons.mp hstack
    have hframe : (Frame.field before key).Spelled := hbefore
    exact .waits (List.forall_mem_cons.mpr ⟨hframe, hstack⟩) nofun
  · cases h

/-- One token. -/
theorem Reader.Spelled.step {r r' : Reader} (hr : r.Spelled) {token : Token}
    (h : r.step token = some r') : r'.Spelled := by
  have hstack := hr.stack
  unfold Reader.step at h
  split at h
  · exact .value hstack h
  · split at h
    · exact .close hstack h
    · exact .value hstack h
  · exact .key hstack h
  · split at h
    · exact .close hstack h
    · exact .key hstack h
  · split at h
    · obtain rfl := Option.some.inj h
      exact .waits hstack nofun
    · cases h
  · split at h
    · split at h
      · obtain rfl := Option.some.inj h
        exact .waits hstack nofun
      · obtain rfl := Option.some.inj h
        exact .waits hstack nofun
      · cases h
    · exact .close hstack h
  · cases h

/-- Tokens one after the other. -/
theorem Reader.Spelled.run {r r' : Reader} (hr : r.Spelled) {tokens : List Token}
    (h : r.run tokens = some r') : r'.Spelled := by
  induction tokens generalizing r with
  | nil => exact Option.some.inj h ▸ hr
  | cons token rest ih =>
      obtain ⟨next, hstep, hrun⟩ := Option.bind_eq_some_iff.mp h
      exact ih (hr.step hstep) hrun

/-- The numbers of a document that was read are those that numerals stand for. -/
theorem spelled_of_read? {cells : List Cell} {d : Document} (h : read? cells = some d) :
    d.Spelled := by
  rw [read?_eq] at h
  obtain ⟨tokens, -, h⟩ := Option.bind_eq_some_iff.mp h
  obtain ⟨r, hrun, hd⟩ := Option.bind_eq_some_iff.mp h
  have hinitial : Reader.initial.Spelled := .waits (by simp) nofun
  have hr : r.Spelled := hinitial.run hrun
  unfold Reader.document? at hd
  split at hd
  · rename_i document hphase
    exact Option.some.inj hd ▸ hr.document document hphase
  · cases hd

end PushDelivery.Document

namespace PushDelivery

/-- An integer that a numeral stands for fits 64 bits. -/
theorem Numeral.isExact_of_number? {n : Numeral} {i : Int} (h : n.number? = some (.int i)) :
    Number.IsExact (.int i) := by
  have float : ∀ {x : Option Decimal.Binary64}, x.map Number.float ≠ some (.int i) := by
    intro x hx
    obtain ⟨y, -, hy⟩ := Option.map_eq_some_iff.mp hx
    cases hy
  rw [number?] at h
  cases hneg : n.negative <;> simp only [hneg, Bool.false_eq_true, if_true, if_false] at h
  · split at h
    · rename_i fits
      obtain rfl := Number.int.inj (Option.some.inj h)
      exact ⟨by omega, by omega⟩
    · exact absurd h float
  · split at h
    · rename_i fits
      obtain rfl := Number.int.inj (Option.some.inj h)
      exact ⟨by omega, by omega⟩
    · exact absurd h float

/-- A value that was decoded from a spelled document is exact unless it holds a floating-point
number. -/
theorem Document.exact_of_json? {room : Nat} {d : Document} {v : Json} (spelled : d.Spelled)
    (h : d.json? room = some v) (integral : ∀ x, .num (.float x) ∉ v.parts) : v.Exact := by
  intro n hn
  cases n with
  | float x => exact integral x hn
  | int i =>
      obtain ⟨numeral, hnumeral⟩ := num_of_json? spelled h hn
      exact Numeral.isExact_of_number? hnumeral

end PushDelivery
