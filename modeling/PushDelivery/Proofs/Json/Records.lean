import Mathlib.Data.List.Forall2
import PushDelivery.Json.Parts
import PushDelivery.Proofs.Json.Documents
import PushDelivery.Proofs.Time.Dates

/-!
# Records That Were Written

A written record holds those of its entries that are present, each under the name that stands at its
place in the list of names. Reading the record finds every entry under its name again, and finds no
value for an entry that was left out. This module proves that for every list of names and entries,
and then says what each way of reading a field makes of each way of writing it. A message is read
back by putting these together; nothing here depends on the number of its fields.

What was decoded as a free-form object is described beside it, since it is what a message passes on:
it is sorted, it fits, and it is exact unless it holds a floating-point number.

## Main definitions

* `Json.Named`: entries under the names that they are read by.
* `Fields.Holds`: a field has the value that was written, or none if nothing was.
* `DataMap.Decoded`: what is true of a free-form object that was decoded.

## Main results

* `Document.exists_record?`: a written record gives every entry under its name.
* `Fields.decoded_of_withDefault`: the free-form objects of a message that was read.
-/

namespace PushDelivery

/-! ### Entries and names -/

namespace Json

/-- An entry has this name, if it is present. -/
def Bears (name : String) (entry : Option (String × Json)) : Prop := ∀ f ∈ entry, f.1 = name

@[simp]
theorem bears_always (name : String) (value : Json) : Bears name (always name value) := by
  rintro f ⟨⟩
  rfl

@[simp]
theorem bears_ifSome {α : Type} (name : String) (value : Option α) (write : α → Json) :
    Bears name (ifSome name value write) := by
  intro f hf
  obtain ⟨v, -, rfl⟩ := Option.map_eq_some_iff.mp hf
  rfl

@[simp]
theorem bears_unlessEmpty (name : String) (value : DataMap) :
    Bears name (unlessEmpty name value) := by
  intro f hf
  unfold unlessEmpty at hf
  split at hf
  · cases hf
  · cases hf
    rfl

/-- Each entry has the name at its place. -/
def Named (names : List String) (entries : List (Option (String × Json))) : Prop :=
  List.Forall₂ Bears names entries

variable {names : List String} {entries : List (Option (String × Json))}

/-- The entries that are present have different names, in the order of the names. -/
theorem Named.sublist (h : Named names entries) :
    ((entries.filterMap id).map (·.1)).Sublist names := by
  induction h with
  | nil => exact .slnil
  | @cons name entry _ _ bears _ ih =>
      cases entry with
      | none => exact ih.cons name
      | some f =>
          obtain rfl := bears f rfl
          exact ih.cons_cons f.1

/-- An entry is found under its name. -/
theorem Named.lookup (h : Named names entries) (nodup : names.Nodup) {i : Nat} {name : String}
    {entry : Option (String × Json)} (hi : (names.zip entries)[i]? = some (name, entry)) :
    (entries.filterMap id).lookup name = entry.map (·.2) := by
  induction h generalizing i with
  | nil => cases hi
  | @cons first present rest entries bears named ih =>
      obtain ⟨hfirst, nodup⟩ := List.nodup_cons.mp nodup
      cases i with
      | zero =>
          cases hi
          cases entry with
          | none =>
              -- no later entry has the name
              refine List.lookup_eq_none_iff.mpr fun f hf => ?_
              have hmem : f.1 ∈ rest :=
                (Named.sublist named).subset (List.mem_map.mpr ⟨f, hf, rfl⟩)
              simpa using fun heq : name = f.1 => hfirst (heq ▸ hmem)
          | some f =>
              obtain ⟨key, value⟩ := f
              obtain rfl : key = name := bears _ rfl
              simp
      | succ i =>
          have hrest := ih nodup hi
          cases present with
          | none => exact hrest
          | some f =>
              obtain ⟨key, value⟩ := f
              obtain rfl : key = first := bears _ rfl
              have hi' : (rest.zip entries)[i]? = some (name, entry) := hi
              have hmem : name ∈ rest := (List.of_mem_zip (List.mem_of_getElem? hi')).1
              have hne : (name == key) = false := by
                simpa using fun heq : name = key => hfirst (heq ▸ hmem)
              have hcons : (some (key, value) :: entries).filterMap id =
                  (key, value) :: entries.filterMap id := rfl
              rw [hcons, List.lookup_cons, hne]
              exact hrest

/-- What holds no numbers is exact. -/
@[simp]
theorem exact_str (s : String) : (Json.str s).Exact := by
  intro n hn
  simp [parts] at hn

/-- A count of 64 bits is exact. -/
theorem exact_ofNat {n : Nat} (h : n < Decimal.wordSize 64) : (Json.ofNat n).Exact := by
  intro number hn
  obtain rfl : number = .int n := by simpa [ofNat, parts] using hn
  exact ⟨by omega, by omega⟩

/-- An entry has an exact value, if it is present. -/
def ExactEntry (entry : Option (String × Json)) : Prop := ∀ f ∈ entry, f.2.Exact

@[simp]
theorem exactEntry_always {name : String} {value : Json} :
    ExactEntry (always name value) ↔ value.Exact := by
  simp [ExactEntry, always]

@[simp]
theorem exactEntry_ifSome {α : Type} {name : String} {value : Option α} {write : α → Json} :
    ExactEntry (ifSome name value write) ↔ ∀ v ∈ value, (write v).Exact := by
  cases value <;> simp [ExactEntry, ifSome]

@[simp]
theorem exactEntry_unlessEmpty {name : String} {value : DataMap} :
    ExactEntry (unlessEmpty name value) ↔ (Json.obj value).Exact := by
  unfold unlessEmpty
  split
  · rename_i empty
    simp [ExactEntry, empty, exact_obj]
  · simp [ExactEntry]

/-- A written record is exact if its entries are. -/
theorem exact_record {entries : List (Option (String × Json))} :
    (Json.record entries).Exact ↔ ∀ entry ∈ entries, ExactEntry entry := by
  simp only [record, exact_obj, List.mem_filterMap, id]
  constructor
  · exact fun h entry hentry f hf => h f ⟨entry, hentry, hf⟩
  · exact fun h f ⟨entry, hentry, hf⟩ => h entry hentry f hf

end Json

/-! ### The fields of a record -/

namespace Document

/-- All fields of an object whose names are known. -/
theorem known?_ofFields {names : List String} {fields : List (String × Json)}
    (h : ∀ f ∈ fields, f.1 ∈ names) :
    known? names (ofFields fields) = some (fields.map fun f => (f.1, ofJson f.2)) := by
  induction fields with
  | nil => rfl
  | cons f rest ih =>
      obtain ⟨key, value⟩ := f
      obtain ⟨hkey, hrest⟩ := List.forall_mem_cons.mp h
      have hcontains : names.contains key = true := by simpa using hkey
      rw [ofFields, known?, ih hrest]
      simp only [Option.bind_eq_bind, Option.bind_some, hcontains, if_true, List.map_cons]
      rfl

/-- A value among documents is the document of the value. -/
theorem lookup_map_ofJson (fields : List (String × Json)) (name : String) :
    (fields.map fun f => (f.1, ofJson f.2)).lookup name = (fields.lookup name).map ofJson := by
  induction fields with
  | nil => rfl
  | cons f rest ih =>
      rw [List.map_cons, List.lookup_cons, List.lookup_cons, ih]
      split <;> rfl

/-- The known fields of an object are among its fields. -/
theorem mem_of_known? {names : List String} {fields : List (Option String × Document)}
    {given : List (String × Document)} (h : known? names fields = some given)
    {f : String × Document} (hf : f ∈ given) : (some f.1, f.2) ∈ fields := by
  induction fields generalizing given with
  | nil => cases h; cases hf
  | cons first rest ih =>
      obtain ⟨key, document⟩ := first
      simp only [known?, Option.bind_eq_bind, Option.bind_eq_some_iff] at h
      obtain ⟨key, rfl, more, hmore, h⟩ := h
      cases h
      split at hf
      · rcases List.mem_cons.mp hf with rfl | hf
        · exact List.mem_cons_self
        · exact List.mem_cons_of_mem _ (ih hmore hf)
      · exact List.mem_cons_of_mem _ (ih hmore hf)

/-- The fields of a record are spelled if the record is, whether it is an object or an array. -/
theorem Spelled.of_record? {names : List String} {d : Document} {f : Fields} (spelled : d.Spelled)
    (h : d.record? names = some f) : ∀ p ∈ f.given, p.2.Spelled := by
  intro p hp
  cases spelled with
  | arr items_spelled =>
      simp only [record?] at h
      split at h
      · cases h
        exact items_spelled _ (List.of_mem_zip hp).2
      · cases h
  | obj fields_spelled =>
      simp only [record?, Option.bind_eq_bind, Option.bind_eq_some_iff] at h
      obtain ⟨given, hgiven, h⟩ := h
      split at h
      · cases h
        exact fields_spelled _ (mem_of_known? hgiven hp)
      · cases h
  | _ => cases h

end Document

namespace Fields

/-- The field has the value of this entry, or none if the entry is left out. -/
def Holds (f : Fields) (name : String) (entry : Option (String × Json)) : Prop :=
  f.given.lookup name = entry.map fun e => Document.ofJson e.2

end Fields

/-- **A written record is read.** It gives every entry under its name, and nothing for those that
were left out. -/
theorem Document.exists_record? (names : List String) {v : Json}
    {entries : List (Option (String × Json))} (record : v = .record entries)
    (named : Json.Named names entries) (nodup : names.Nodup) :
    ∃ f, (ofJson v).record? names = some f ∧ f.positional = false ∧
      ∀ (i : Nat) name entry, (names.zip entries)[i]? = some (name, entry) →
        f.Holds name entry := by
  have hmem : ∀ f ∈ entries.filterMap id, f.1 ∈ names := fun f hf =>
    named.sublist.subset (List.mem_map.mpr ⟨f, hf, rfl⟩)
  refine ⟨⟨false, (entries.filterMap id).map fun f => (f.1, ofJson f.2)⟩, ?_, rfl, ?_⟩
  · have hkeys : (((entries.filterMap id).map fun f => (f.1, ofJson f.2)).map (·.1)).Nodup := by
      rw [List.map_map]
      exact named.sublist.nodup nodup
    rw [record, Json.record, ofJson, record?, known?_ofFields hmem]
    exact if_pos hkeys
  · intro i name entry hi
    rw [Fields.Holds, lookup_map_ofJson, named.lookup nodup hi, Option.map_map]
    rfl

/-! ### Reading what was written -/

namespace Fields.Holds

variable {α : Type} {f : Fields} {name : String} {read : Document → Option α}

/-- A value that is always written is there to be read. -/
theorem required {value : Json} (h : f.Holds name (Json.always name value)) :
    f.required name read = read (Document.ofJson value) := by
  rw [Fields.required, h]
  rfl

/-- A value that is always written needs no default. -/
theorem withDefault {value : Json} (h : f.Holds name (Json.always name value)) (default : α) :
    f.withDefault name default read = read (Document.ofJson value) := by
  rw [Fields.withDefault, h]
  rfl

/-- A value that is left out if there is none comes back if it can be told from null. -/
theorem optional {value : Option α} {write : α → Json}
    (h : f.Holds name (Json.ifSome name value write)) (null : read .null = none)
    (reads : ∀ v ∈ value, read (Document.ofJson (write v)) = some v) :
    f.optional name read = some value := by
  rw [Fields.optional, h]
  cases value with
  | none => rfl
  | some v =>
      have hread := reads v rfl
      simp only [Json.ifSome, Option.map_some]
      split
      · rename_i heq
        cases heq
      · rename_i heq
        rw [Option.some.inj heq, null] at hread
        cases hread
      · rename_i d _ heq
        rw [← Option.some.inj heq, hread]
        rfl

/-- A text that is left out if there is none comes back. -/
theorem text {value : Option String} (h : f.Holds name (Json.ifSome name value .str)) :
    f.optional name Document.text? = some value :=
  h.optional rfl fun _ _ => rfl

end Fields.Holds

@[simp]
theorem Document.text?_str (s : String) : text? (ofJson (.str s)) = some s := rfl

@[simp]
theorem Document.list?_arr {α : Type} {read : Document → Option α} {write : α → Json}
    {vs : List α} (h : ∀ v ∈ vs, read (ofJson (write v)) = some v) :
    list? read (ofJson (.arr (vs.map write))) = some vs := by
  rw [ofJson, list?]
  induction vs with
  | nil => rfl
  | cons v rest ih =>
      obtain ⟨hv, hrest⟩ := List.forall_mem_cons.mp h
      simp [ofItems, List.mapM_cons, hv, ih hrest]

@[simp]
theorem Document.below?_ofNat {bound n : Nat} (h : n < bound) :
    below? bound (ofJson (.ofNat n)) = some n := by
  simp [ofJson, Json.ofNat, below?, h]

@[simp]
theorem Document.moment?_json {m : Moment} (h : m.Valid) : moment? (ofJson m.json) = some m := by
  rw [moment?, Moment.json, text?_str, Option.bind_some, Moment.ofText?_text h]

/-- A free-form object comes back if it fits, and else nothing does. -/
theorem Document.map?_obj {m : DataMap} (sorted : (Json.obj m).Sorted) (depth : Nat) :
    map? depth (ofJson (.obj m)) =
      if (Json.obj m).depth ≤ nesting - depth then some m else none := by
  have hjson := json?_ofJson sorted (nesting - depth)
  rw [ofJson] at hjson ⊢
  rw [map?, hjson]
  by_cases h : (Json.obj m).depth ≤ nesting - depth
  · rw [if_pos h, if_pos h]
  · rw [if_neg h, if_neg h]

/-- An empty object fits wherever an object may stand. -/
theorem Json.depth_empty_le {depth : Nat} (inside : depth < Document.nesting) :
    (Json.obj []).depth ≤ Document.nesting - depth :=
  Nat.le_sub_of_add_le (by rw [Json.depth, Json.depthOfFields]; omega)

/-- A free-form object that is left out if it is empty comes back if it fits, and else nothing
does. -/
theorem Fields.Holds.map {f : Fields} {name : String} {m : DataMap} {depth : Nat}
    (h : f.Holds name (Json.unlessEmpty name m)) (sorted : (Json.obj m).Sorted)
    (inside : depth < Document.nesting) :
    f.withDefault name [] (Document.map? depth) =
      if (Json.obj m).depth ≤ Document.nesting - depth then some m else none := by
  rw [Fields.withDefault, h, Json.unlessEmpty]
  by_cases empty : m = []
  · subst empty
    rw [if_pos (Json.depth_empty_le inside)]
    rfl
  · rw [if_neg empty]
    exact Document.map?_obj sorted depth

/-! ### What is true of a field that was read -/

namespace Fields

variable {α : Type} {f : Fields} {name : String} {read : Document → Option α} {P : α → Prop}

/-- A field that was read has what is true of the default and of all that can be read. -/
theorem of_withDefault {default value : α} (hdefault : P default)
    (hread : ∀ d v, read d = some v → P v) (h : f.withDefault name default read = some value) :
    P value := by
  unfold withDefault at h
  split at h
  · cases h
    exact hdefault
  · exact hread _ _ h

/-- A field that was read, if it was given, has what is true of all that can be read. -/
theorem of_optional {value : Option α} (hread : ∀ d v, read d = some v → P v)
    (h : f.optional name read = some value) : ∀ v ∈ value, P v := by
  unfold optional at h
  split at h
  · cases h
    nofun
  · cases h
    nofun
  · rename_i d _ _
    obtain ⟨v, hv, rfl⟩ := Option.map_eq_some_iff.mp h
    rintro w ⟨⟩
    exact hread d v hv

end Fields

/-- A count that was read is below the bound. -/
theorem Document.lt_of_below? {bound n : Nat} {d : Document} (h : d.below? bound = some n) :
    n < bound := by
  unfold below? at h
  split at h
  · split at h
    · cases h
      omega
    · cases h
  · cases h

/-- A date that was read is a date. -/
theorem Document.valid_of_moment? {d : Document} {m : Moment} (h : d.moment? = some m) :
    m.Valid := by
  obtain ⟨s, -, h⟩ := Option.bind_eq_some_iff.mp h
  exact Moment.valid_of_read? h

/-! ### Free-form objects that were decoded -/

/-- What is true of a free-form object that was decoded inside `depth` other arrays and objects. -/
structure DataMap.Decoded (depth : Nat) (m : DataMap) : Prop where
  /-- Every object inside is sorted by key. -/
  sorted : (Json.obj m).Sorted
  /-- It nests no deeper than is allowed. -/
  fits : (Json.obj m).depth ≤ Document.nesting - depth
  /-- Its integers fit 64 bits. -/
  exact : (∀ x, .num (.float x) ∉ (Json.obj m).parts) → (Json.obj m).Exact

/-- A free-form object that was read. -/
theorem DataMap.Decoded.of_map? {depth : Nat} {d : Document} {m : DataMap} (spelled : d.Spelled)
    (h : d.map? depth = some m) : Decoded depth m := by
  unfold Document.map? at h
  split at h
  · split at h
    · rename_i hjson
      cases h
      exact ⟨Document.sorted_of_json? hjson, Document.depth_le_of_json? hjson,
        Document.exact_of_json? spelled hjson⟩
    · cases h
  · cases h

/-- No object is the same as an empty one. -/
theorem DataMap.Decoded.empty {depth : Nat} (inside : depth < Document.nesting) :
    Decoded depth [] :=
  ⟨Json.sorted_obj.mpr ⟨.nil, nofun⟩, Json.depth_empty_le inside, fun _ => Json.exact_obj.mpr nofun⟩

/-- The free-form objects of a record that was read are decoded, given or not. -/
theorem Fields.decoded_of_withDefault {f : Fields} (spelled : ∀ p ∈ f.given, p.2.Spelled)
    {name : String} {depth : Nat} (inside : depth < Document.nesting) {m : DataMap}
    (h : f.withDefault name [] (Document.map? depth) = some m) : m.Decoded depth := by
  unfold Fields.withDefault at h
  split at h
  · cases h
    exact .empty inside
  · rename_i d hd
    refine .of_map? ?_ h
    obtain ⟨before, after, hgiven, -⟩ := List.lookup_eq_some_iff.mp hd
    exact spelled (name, d) (hgiven ▸ List.mem_append_right _ List.mem_cons_self)

end PushDelivery
