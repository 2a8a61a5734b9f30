import Mathlib.Data.List.Basic
import PushDelivery.Text.Utf8

/-!
# The Octets of a Text

A text is written as UTF-8 and read by a machine that takes one octet at a time. Each character is
written in one to four octets, and over these the machine comes back to where a character begins,
having read this character and nothing else. So the octets of a text are read as its characters,
with no broken part among them.

## Main results

* `Utf8.cells_octets`: the octets of a text are read as its characters.
-/

namespace PushDelivery.Text.Utf8

/-! ### The machine over the octets of one character -/

/-- A first octet below 0x80 is a character. -/
theorem first_one {b : Nat} (h : b < 0x80) : first b = ([some (Char.ofNat b)], .between) :=
  if_pos (by omega)

/-- A first octet of two. -/
theorem first_two {b : Nat} (h : 0xC2 ≤ b ∧ b < 0xE0) :
    first b = ([], .inside 1 0x80 0xBF (b - 0xC0)) := by
  rw [first, if_neg (by omega), if_pos (by omega)]

/-- A first octet of three. What it admits next leaves out overlong forms and surrogates. -/
theorem first_three {b : Nat} (h : 0xE0 ≤ b ∧ b < 0xF0) :
    first b = ([], .inside 2 (if b = 0xE0 then 0xA0 else 0x80) (if b = 0xED then 0x9F else 0xBF)
      (b - 0xE0)) := by
  rw [first, if_neg (by omega), if_neg (by omega)]
  by_cases least : b = 0xE0
  · rw [if_pos least, if_pos least, if_neg (by omega), least]
  · rw [if_neg least, if_neg least]
    by_cases surrogate : b = 0xED
    · rw [if_neg (by omega), if_pos surrogate, if_pos surrogate, surrogate]
    · rw [if_neg surrogate, if_neg surrogate]
      by_cases low : 0xE1 ≤ b ∧ b ≤ 0xEC
      · rw [if_pos low]
      · rw [if_neg low, if_pos (by omega)]

/-- A first octet of four. What it admits next leaves out overlong forms and numbers that are too
great. -/
theorem first_four {b : Nat} (h : 0xF0 ≤ b ∧ b < 0xF5) :
    first b = ([], .inside 3 (if b = 0xF0 then 0x90 else 0x80) (if b = 0xF4 then 0x8F else 0xBF)
      (b - 0xF0)) := by
  rw [first, if_neg (by omega), if_neg (by omega), if_neg (by omega), if_neg (by omega),
    if_neg (by omega), if_neg (by omega)]
  by_cases least : b = 0xF0
  · rw [if_pos least, if_pos least, if_neg (by omega), least]
  · rw [if_neg least, if_neg least]
    by_cases greatest : b = 0xF4
    · rw [if_neg (by omega), if_pos greatest, if_pos greatest, greatest]
    · rw [if_pos (by omega), if_neg greatest]

variable {b low high bits : Nat} {rest : List UInt8}

/-- Reading from an octet on. -/
theorem cellsFrom_cons (state : State) (hb : b < 0x100) :
    cellsFrom state (.ofNat b :: rest) = (step state b).1 ++ cellsFrom (step state b).2 rest := by
  have hnat : (UInt8.ofNat b).toNat = b := by simpa using hb
  cases state <;> rw [cellsFrom, hnat]

/-- The last octet of a character. -/
theorem cellsFrom_last {value : Nat} (admitted : low ≤ b ∧ b ≤ high) (hb : b < 0x100)
    (hvalue : bits * 0x40 + (b - 0x80) = value) :
    cellsFrom (.inside 1 low high bits) (.ofNat b :: rest) =
      some (Char.ofNat value) :: cellsFrom .between rest := by
  rw [cellsFrom_cons _ hb, step, if_pos admitted, hvalue]
  rfl

/-- An octet inside a character that is not the last. -/
theorem cellsFrom_next (owed : Nat) (admitted : low ≤ b ∧ b ≤ high) (hb : b < 0x100) :
    cellsFrom (.inside (owed + 2) low high bits) (.ofNat b :: rest) =
      cellsFrom (.inside (owed + 1) 0x80 0xBF (bits * 0x40 + (b - 0x80))) rest := by
  rw [cellsFrom_cons _ hb, step, if_pos admitted]
  rfl

variable {v : Nat}

/-- A character in two octets. -/
theorem cellsFrom_two (h : 0x80 ≤ v ∧ v < 0x800) :
    cellsFrom .between (.ofNat (v / 64 % 0x20 + 0xC0) :: .ofNat (v % 64 + 0x80) :: rest) =
      some (Char.ofNat v) :: cellsFrom .between rest := by
  rw [cellsFrom_cons _ (by omega), step, first_two (by omega), List.nil_append,
    cellsFrom_last (by omega) (by omega)]
  omega

/-- A character in three octets, which is no surrogate. -/
theorem cellsFrom_three (h : 0x800 ≤ v ∧ v < 0x10000) (scalar : v < 0xD800 ∨ 0xDFFF < v) :
    cellsFrom .between (.ofNat (v / 4096 % 0x10 + 0xE0) :: .ofNat (v / 64 % 64 + 0x80) ::
        .ofNat (v % 64 + 0x80) :: rest) =
      some (Char.ofNat v) :: cellsFrom .between rest := by
  rw [cellsFrom_cons _ (by omega), step, first_three (by omega), List.nil_append,
    cellsFrom_next 0 (by split <;> split <;> omega) (by omega),
    cellsFrom_last (by omega) (by omega)]
  omega

/-- A character in four octets. -/
theorem cellsFrom_four (h : 0x10000 ≤ v ∧ v < 0x110000) :
    cellsFrom .between (.ofNat (v / 262144 % 8 + 0xF0) :: .ofNat (v / 4096 % 64 + 0x80) ::
        .ofNat (v / 64 % 64 + 0x80) :: .ofNat (v % 64 + 0x80) :: rest) =
      some (Char.ofNat v) :: cellsFrom .between rest := by
  rw [cellsFrom_cons _ (by omega), step, first_four (by omega), List.nil_append,
    cellsFrom_next 1 (by split <;> split <;> omega) (by omega),
    cellsFrom_next 0 (by omega) (by omega), cellsFrom_last (by omega) (by omega)]
  omega

/-- The octets of a character are read as this character. -/
theorem cellsFrom_utf8EncodeChar (c : Char) (rest : List UInt8) :
    cellsFrom .between (String.utf8EncodeChar c ++ rest) = some c :: cellsFrom .between rest := by
  obtain ⟨v, hv⟩ : ∃ v, v = c.val.toNat := ⟨_, rfl⟩
  have scalar : v < 0xD800 ∨ 0xDFFF < v ∧ v < 0x110000 := hv ▸ c.valid
  have hc : c = Char.ofNat v := by rw [hv]; exact (Char.ofNat_toNat c).symm
  unfold String.utf8EncodeChar
  rw [← hv, hc]
  dsimp only
  split
  · rw [List.singleton_append, cellsFrom_cons _ (by omega), step, first_one (by omega)]
    rfl
  · split
    · exact cellsFrom_two (by omega)
    · split
      · exact cellsFrom_three (by omega) (by omega)
      · exact cellsFrom_four (by omega)

/-! ### Texts -/

/-- An array of octets as a list, from some octet on. -/
theorem toList_loop (octets : ByteArray) (i : Nat) (before : List UInt8) :
    ByteArray.toList.loop octets i before = before.reverse ++ octets.data.toList.drop i := by
  fun_induction ByteArray.toList.loop octets i before with
  | case1 i before inside ih =>
      have hi : i < octets.data.toList.length := by simpa using inside
      rw [ih, List.drop_eq_getElem_cons hi, List.reverse_cons, List.append_assoc]
      simp [ByteArray.get!, inside]
  | case2 i before past =>
      rw [List.drop_eq_nil_of_le (by simpa using Nat.le_of_not_lt past), List.append_nil]

/-- The octets of a text are those of its characters. -/
theorem octets_eq (s : String) : octets s = s.toList.flatMap String.utf8EncodeChar := by
  have hbytes : s.toUTF8 = s.toList.utf8Encode := by
    rw [String.toUTF8_eq_toByteArray, String.utf8Encode_toList]
  rw [octets, hbytes, ByteArray.toList, toList_loop, List.utf8Encode, List.toList_data_toByteArray]
  rfl

/-- **The octets of a text are read as its characters.** -/
theorem cells_octets (s : String) : cells (octets s) = s.toList.map some := by
  rw [octets_eq, cells]
  induction s.toList with
  | nil => rfl
  | cons c cs ih => rw [List.flatMap_cons, cellsFrom_utf8EncodeChar, ih, List.map_cons]

end PushDelivery.Text.Utf8
