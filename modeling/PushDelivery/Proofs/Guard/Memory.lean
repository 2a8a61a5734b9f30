import Mathlib.Data.List.Basic
import PushDelivery.Guard.Store

/-!
# What a Store Remembers

A store forgets an entry when its time is over, and at no other moment: lookups remove entries that
are not live, sweeps remove all of them, and a count keeps the end of its window. This module states
that as a property of one operation. What a run of operations keeps follows by induction on the run.

## Main definitions

* `Store.LiveUntil`: a key has an entry that does not expire before an instant.
* `Store.ExpiresBy`: no entry of a key is live from an instant on.

## Main results

* `Store.LiveUntil.perform`: no operation shortens the life of an entry, unless it writes a shorter
  one.
* `Store.ExpiresBy.perform`: no operation prolongs it, unless it counts or writes at the key.
* `Store.liveUntil_of_write`: a text that is written is live until its time is over.
* `Store.lookup_of_liveUntil`, `Store.lookup_of_expiresBy`: a lookup finds what is live, and nothing
  else.
-/

namespace PushDelivery.Store

variable {s : Store} {key : String} {now till : Instant}

/-- The key has an entry that does not expire before an instant. -/
def LiveUntil (s : Store) (key : String) (till : Instant) : Prop :=
  ∃ e, s.entry? key = some e ∧ till ≤ e.expiresAt

/-! ### Entries -/

/-- A filter that lets the first entry of a key pass keeps it the first one. -/
theorem lookup_filter {entries : List (String × Entry)} {e : Entry} {p : String × Entry → Bool}
    (h : entries.lookup key = some e) (hp : p (key, e) = true) :
    (entries.filter p).lookup key = some e := by
  induction entries with
  | nil => cases h
  | cons entry rest ih =>
      obtain ⟨k, e'⟩ := entry
      rw [List.lookup_cons] at h
      by_cases hk : key = k
      · subst hk
        obtain rfl : e' = e := by simpa using h
        rw [List.filter_cons_of_pos hp, List.lookup_cons, beq_self_eq_true]
      · have hbeq : (key == k) = false := beq_eq_false_iff_ne.mpr hk
        rw [hbeq] at h
        rw [List.filter_cons]
        split
        · rw [List.lookup_cons, hbeq]
          exact ih h
        · exact ih h

/-- The entry at a key is the first one with it. -/
theorem entry?_eq_lookup (s : Store) (key : String) : s.entry? key = s.entries.lookup key := rfl

/-- What is put at a key is found there. -/
theorem entry?_put_self (s : Store) (key : String) (e : Entry) :
    entry? (s.put key e) key = some e := by
  rw [entry?_eq_lookup, put, List.lookup_cons, beq_self_eq_true]

/-- What is put at another key only removes what was there. -/
theorem entry?_put_of_ne {k : String} (h : key ≠ k) (s : Store) (e : Entry) :
    entry? (s.put k e) key = entry? (s.remove k) key := by
  rw [entry?_eq_lookup, entry?_eq_lookup, put, List.lookup_cons, beq_eq_false_iff_ne.mpr h]

/-- A count goes on at an entry that is live. -/
theorem counterEntry?_of_live {e : Entry}
    (live : (s.entry? key).filter (·.isLive now) = some e) (window : Duration) :
    s.counterEntry? key window now = some e := by
  unfold counterEntry?
  rw [live]

/-- A count begins where nothing is live. -/
theorem counterEntry?_of_dead (dead : (s.entry? key).filter (·.isLive now) = none)
    (window : Duration) : s.counterEntry? key window now =
      (now.after? window).map fun expiry => ⟨.counter 0, window, expiry⟩ := by
  unfold counterEntry?
  rw [dead]

/-- A key keeps its entry when another one is removed. -/
theorem LiveUntil.remove (h : s.LiveUntil key till) {k : String} (hk : key ≠ k) :
    (s.remove k).LiveUntil key till := by
  obtain ⟨e, he, hlive⟩ := h
  exact ⟨e, lookup_filter he (decide_eq_true hk), hlive⟩

/-- A key keeps its entry when something is put at another one. -/
theorem LiveUntil.put (h : s.LiveUntil key till) {k : String} (hk : key ≠ k) (e : Entry) :
    (s.put k e).LiveUntil key till := by
  obtain ⟨e', he, hlive⟩ := h.remove hk
  refine ⟨e', ?_, hlive⟩
  rw [entry?_put_of_ne hk]
  exact he

/-- A sweep keeps what is live. -/
theorem LiveUntil.sweep (h : s.LiveUntil key till) (hnow : now < till) :
    (s.sweep now).LiveUntil key till := by
  obtain ⟨e, he, hlive⟩ := h
  exact ⟨e, lookup_filter he (decide_eq_true (Nat.lt_of_lt_of_le hnow hlive)), hlive⟩

/-- Counting a write keeps what is live, with or without a sweep. -/
theorem LiveUntil.recordWrite (h : s.LiveUntil key till) (hnow : now < till) :
    (s.recordWrite now).LiveUntil key till := by
  have hcounted : ({ s with writes := s.writes + 1 } : Store).LiveUntil key till := h
  unfold Store.recordWrite
  dsimp only
  split
  · exact hcounted.sweep hnow
  · exact hcounted

/-! ### Operations -/

/-- A lookup keeps what is live. -/
theorem LiveUntil.lookup (h : s.LiveUntil key till) (hnow : now < till) (k : String) :
    (s.lookup k now).2.LiveUntil key till := by
  unfold Store.lookup
  split
  · exact h
  · split
    · exact h
    · rename_i e he
      split
      · exact h
      · rename_i hdead
        refine h.remove ?_
        rintro rfl
        obtain ⟨e', he', hlive⟩ := h
        obtain rfl : e = e' := Option.some.inj (he.symm.trans he')
        exact hdead (decide_eq_true (Nat.lt_of_lt_of_le hnow hlive))

/-- A write keeps what is live, unless it writes a text of a shorter life at the key. -/
theorem LiveUntil.write (h : s.LiveUntil key till) (hnow : now < till) {k : String}
    {ttl : Duration} (hk : key = k → till ≤ now + ttl) (value : String) :
    (s.write k value ttl now).2.LiveUntil key till := by
  unfold Store.write
  split
  · exact h
  · have hswept := h.recordWrite hnow
    split
    · exact hswept
    · rename_i expiry hexpiry
      by_cases hkey : key = k
      · subst hkey
        rw [Instant.after?, Option.ite_none_right_eq_some] at hexpiry
        obtain ⟨-, hexpiry⟩ := hexpiry
        obtain rfl := Option.some.inj hexpiry
        exact ⟨_, entry?_put_self _ _ _, hk rfl⟩
      · exact hswept.put hkey _

/-- Counting keeps what is live: a count that goes on keeps the end of its window. -/
theorem LiveUntil.increment (h : s.LiveUntil key till) (hnow : now < till) (k : String)
    (window : Duration) : (s.increment k window now).2.LiveUntil key till := by
  unfold Store.increment
  split
  · exact h
  · have hswept := h.recordWrite hnow
    dsimp only
    split
    · exact hswept
    · rename_i e he
      split
      · rename_i count _
        by_cases hkey : key = k
        · subst hkey
          obtain ⟨e', he', hlive⟩ := hswept
          have hfound : (Store.entry? (s.recordWrite now) key).filter (·.isLive now) = some e' := by
            rw [he']
            exact Option.filter_some_pos (decide_eq_true (Nat.lt_of_lt_of_le hnow hlive))
          rw [counterEntry?_of_live hfound] at he
          obtain rfl := Option.some.inj he
          exact ⟨_, entry?_put_self _ _ _, hlive⟩
        · exact hswept.put hkey _
      · exact hswept

/-- **What a store remembers.** No operation shortens the life of an entry, unless it writes a text
of a shorter life at its key. -/
theorem LiveUntil.perform (h : s.LiveUntil key till) (hnow : now < till) (r : Guard.Request)
    (hwrite : ∀ value ttl, r = .write key value ttl → till ≤ now + ttl) :
    (s.perform now r).2.LiveUntil key till := by
  cases r with
  | increment k window => exact h.increment hnow k window
  | lookup k => exact h.lookup hnow k
  | write k value ttl => exact h.write hnow (fun hk => hwrite value ttl (hk ▸ rfl)) value
  | letPass operation => exact h

/-- A text that is written is live until its time is over. -/
theorem liveUntil_of_write {value : String} {ttl : Duration}
    (h : (s.write key value ttl now).1 = some (.ok ())) :
    (s.write key value ttl now).2.LiveUntil key (now + ttl) := by
  unfold Store.write at h ⊢
  split
  · rename_i hoff
    rw [if_pos hoff] at h
    cases h
  · rename_i hon
    rw [if_neg hon] at h
    split
    · rename_i hnone
      simp [hnone] at h
    · rename_i expiry hexpiry
      rw [Instant.after?, Option.ite_none_right_eq_some] at hexpiry
      exact ⟨_, entry?_put_self _ _ _, Nat.le_of_eq (Option.some.inj hexpiry.2)⟩

/-- A lookup finds what is live. -/
theorem lookup_of_liveUntil (h : s.LiveUntil key till) (hnow : now < till)
    (online : s.offline = false) : (s.lookup key now).1 = .ok true := by
  obtain ⟨e, he, hlive⟩ := h
  have hisLive : e.isLive now = true := decide_eq_true (Nat.lt_of_lt_of_le hnow hlive)
  rw [lookup, if_neg (by simp [online])]
  simp only [he, hisLive, if_true]

/-! ### Expiry -/

/-- No entry of the key is live from an instant on. -/
def ExpiresBy (s : Store) (key : String) (till : Instant) : Prop :=
  ∀ e, (key, e) ∈ s.entries → e.expiresAt ≤ till

/-- The entry at a key is one of those with the key. -/
theorem mem_entries {e : Entry} (h : s.entry? key = some e) : (key, e) ∈ s.entries := by
  obtain ⟨before, after, hentries, -⟩ := List.lookup_eq_some_iff.mp h
  rw [hentries]
  exact List.mem_append_right _ List.mem_cons_self

/-- A store with fewer entries has no more life. -/
theorem ExpiresBy.mono {s' : Store} (h : s.ExpiresBy key till)
    (fewer : ∀ entry ∈ s'.entries, entry ∈ s.entries) : s'.ExpiresBy key till :=
  fun e he => h e (fewer _ he)

/-- Removing a key prolongs nothing. -/
theorem ExpiresBy.remove (h : s.ExpiresBy key till) (k : String) :
    (s.remove k).ExpiresBy key till :=
  h.mono fun _ he => (List.mem_filter.mp he).1

/-- Counting a write prolongs nothing, with or without a sweep. -/
theorem ExpiresBy.recordWrite (h : s.ExpiresBy key till) (now : Instant) :
    (s.recordWrite now).ExpiresBy key till := by
  unfold Store.recordWrite
  dsimp only
  split
  · exact h.mono fun _ he => (List.mem_filter.mp he).1
  · exact h

/-- An entry that is put prolongs the life of its own key only, and not beyond its expiry. -/
theorem ExpiresBy.put (h : s.ExpiresBy key till) {k : String} {e : Entry}
    (hk : k = key → e.expiresAt ≤ till) : (s.put k e).ExpiresBy key till := by
  intro e' he'
  rcases List.mem_cons.mp he' with heq | he'
  · obtain ⟨rfl, rfl⟩ := Prod.mk.inj heq
    exact hk rfl
  · exact h.remove k e' he'

/-- A lookup prolongs nothing. -/
theorem ExpiresBy.lookup (h : s.ExpiresBy key till) (k : String) (now : Instant) :
    (s.lookup k now).2.ExpiresBy key till := by
  unfold Store.lookup
  split
  · exact h
  · split
    · exact h
    · split
      · exact h
      · exact h.remove k

/-- A write prolongs the life of its own key only, if it is accepted, and not beyond its time. -/
theorem ExpiresBy.write (h : s.ExpiresBy key till) {k value : String} {ttl : Duration}
    (hk : k = key → (s.write k value ttl now).1 = some (.ok ()) → now + ttl ≤ till) :
    (s.write k value ttl now).2.ExpiresBy key till := by
  unfold Store.write at hk ⊢
  split
  · exact h
  · rename_i hon
    rw [if_neg hon] at hk
    dsimp only at hk ⊢
    split
    · exact h.recordWrite now
    · rename_i expiry hexpiry
      refine (h.recordWrite now).put fun hkey => ?_
      rw [hexpiry] at hk
      rw [Instant.after?, Option.ite_none_right_eq_some] at hexpiry
      obtain rfl := Option.some.inj hexpiry.2
      exact hk hkey rfl

/-- Counting prolongs the life of its own key only. -/
theorem ExpiresBy.increment (h : s.ExpiresBy key till) {k : String} (hk : k ≠ key)
    (window : Duration) (now : Instant) : (s.increment k window now).2.ExpiresBy key till := by
  have hcounted := h.recordWrite now
  unfold Store.increment
  split
  · exact h
  · dsimp only
    split
    · exact hcounted
    · split
      · exact hcounted.put fun hkey => absurd hkey hk
      · exact hcounted

/-- **What a store forgets.** No operation prolongs the life of a key, unless it counts at it or
writes a text at it that is accepted and lives longer. -/
theorem ExpiresBy.perform (h : s.ExpiresBy key till) (time : Instant) {r : Guard.Request}
    (hcount : ∀ window, r ≠ .increment key window)
    (hwrite : ∀ value ttl, r = .write key value ttl →
      (s.write key value ttl time).1 = some (.ok ()) → time + ttl ≤ till) :
    (s.perform time r).2.ExpiresBy key till := by
  cases r with
  | increment k window => exact h.increment (fun hk => hcount window (hk ▸ rfl)) window time
  | lookup k => exact h.lookup k time
  | write k value ttl =>
      refine h.write fun hk => ?_
      subst hk
      exact hwrite value ttl rfl
  | letPass operation => exact h

/-- A lookup finds nothing that has expired. -/
theorem lookup_of_expiresBy (h : s.ExpiresBy key till) (hnow : till ≤ now)
    (online : s.offline = false) : (s.lookup key now).1 = .ok false := by
  rw [lookup, if_neg (by simp [online])]
  split
  · rfl
  · rename_i e he
    have hdead : e.isLive now = false :=
      decide_eq_false (Nat.not_lt_of_le (Nat.le_trans (h e (mem_entries he)) hnow))
    rw [hdead]
    rfl

/-! ### Availability -/

/-- Counting a write takes no store offline or back. -/
theorem offline_recordWrite (s : Store) (now : Instant) :
    (s.recordWrite now).offline = s.offline := by
  unfold recordWrite
  dsimp only
  split <;> rfl

/-- No operation takes a store offline or back. -/
theorem offline_perform (s : Store) (now : Instant) (r : Guard.Request) :
    (s.perform now r).2.offline = s.offline := by
  cases r with
  | increment k window =>
      change (s.increment k window now).2.offline = s.offline
      unfold increment
      dsimp only
      split
      · rfl
      · split
        · exact offline_recordWrite s now
        · split <;> exact offline_recordWrite s now
  | lookup k =>
      change (s.lookup k now).2.offline = s.offline
      unfold lookup
      split
      · rfl
      · split
        · rfl
        · split <;> rfl
  | write k value ttl =>
      change (s.write k value ttl now).2.offline = s.offline
      unfold write
      dsimp only
      split
      · rfl
      · split <;> exact offline_recordWrite s now
  | letPass operation => rfl

/-- A lookup in a store that is online is answered. -/
theorem exists_lookup (online : s.offline = false) (key : String) (now : Instant) :
    ∃ found, (s.lookup key now).1 = .ok found := by
  rw [lookup, if_neg (by simp [online])]
  split
  · exact ⟨false, rfl⟩
  · split
    · exact ⟨true, rfl⟩
    · exact ⟨false, rfl⟩

end PushDelivery.Store
