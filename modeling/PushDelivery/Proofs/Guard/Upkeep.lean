import PushDelivery.Proofs.Guard.Chronicle

/-!
# A Store Does Not Fill Up

A store keeps an entry whose time is over until something removes it, and a marker that nobody looks
up again is removed by nothing but a sweep. Sweeps come with every 256th write, before the write
puts its own entry, and whenever one is ordered; writes that fail count as well. This module keeps a
book beside a store, from the operations alone, and bounds by it what the store holds: what was live
at the latest sweep, and an entry for each write since.

The write that brings a sweep is the first one after it, as its entry comes when the sweep is over.
So there are up to 256 writes since a sweep, and not 255.

## Main definitions

* `Store.Upkeep`: a book of the writes and the sweeps. `Store.book` keeps it over operations.
* `Store.Begins`: an entry whose time starts now.
* `Store.Booked`: a store that holds no more than its book allows.

## Main results

* `Store.Booked.obey`: operations keep to the book.
* `Store.begins_of_due`: what has expired when a sweep comes is gone, unless it is written anew.
* `Store.Fresh.obey`, `Store.fresh_of_due`: what a sweep removes does not come back.
* `Store.stored_within_writes`: a store holds no more than what was live at the latest sweep and one
  entry for each of at most 256 writes, and nothing outlives its time by 256 writes.
-/

namespace PushDelivery.Store

/-! ### A book of writes and sweeps -/

/-- The key at which an operation writes. -/
def Operation.target? : Operation → Option String
  | .write key _ _ | .increment key _ => some key
  | _ => none

/-- What the operations so far say about a store: whether it is offline, how many writes it has
counted, how many keys were live at the latest sweep, and the writes since. -/
structure Upkeep where
  offline : Bool := false
  writes : Nat := 0
  live : Nat := 0
  since : Nat := 0
  deriving DecidableEq, Repr

namespace Upkeep

/-- An operation counts as a write if it tries to write, whether it succeeds or not, unless the
store is offline. -/
def Counts (u : Upkeep) (o : Operation) : Prop := u.offline = false ∧ o.target?.isSome

instance (u : Upkeep) (o : Operation) : Decidable (u.Counts o) :=
  inferInstanceAs (Decidable (_ ∧ _))

/-- A sweep comes with an operation if it is ordered, or if this is one write in `sweepEvery`. -/
def IsDue (u : Upkeep) (o : Operation) : Prop :=
  o = .cleanup ∨ (u.Counts o ∧ (u.writes + 1) % sweepEvery = 0)

instance (u : Upkeep) (o : Operation) : Decidable (u.IsDue o) :=
  inferInstanceAs (Decidable (_ ∨ _))

/-- The book after an operation. `live` is the number of keys that are live before it. -/
def next (u : Upkeep) (live : Nat) (o : Operation) : Upkeep where
  offline := match o with
    | .setOffline offline => offline
    | _ => u.offline
  writes := u.writes + if u.Counts o then 1 else 0
  live := if u.IsDue o then live else u.live
  since := (if u.IsDue o then 0 else u.since) + if u.Counts o then 1 else 0

end Upkeep

/-- The book of a store after operations one after the other, each at its instant. -/
def book : List (Instant × Operation) → Store → Upkeep → Upkeep
  | [], _, u => u
  | (now, o) :: rest, s, u => book rest (s.obey now o).2 (u.next (s.size now) o)

variable {s : Store} {u : Upkeep} {now t : Instant} {o : Operation} {key : String} {e : Entry}

/-- The book is kept on where it was left. -/
theorem book_append (before later : List (Instant × Operation)) (s : Store) (u : Upkeep) :
    book (before ++ later) s u = book later (after Store.obey before s) (book before s u) := by
  induction before generalizing s u with
  | nil => rfl
  | cons o rest ih => exact ih _ _

/-- Operations go on with the store that was left. -/
theorem after_append (before later : List (Instant × Operation)) (s : Store) :
    after Store.obey (before ++ later) s = after Store.obey later (after Store.obey before s) := by
  induction before generalizing s with
  | nil => rfl
  | cons o rest ih => exact ih _

/-! ### What an operation leaves -/

/-- The time of an entry starts now. -/
def Begins (now : Instant) (e : Entry) : Prop := now.after? e.ttl = some e.expiresAt

/-- What is left when a store has counted a write at a key: nothing more is done, or an entry is put
there, which starts now or keeps the expiry of the live one that it replaces. -/
inductive Recorded (s : Store) (now : Instant) (key : String) : Store → Prop
  | counted : Recorded s now key (s.recordWrite now)
  | started {e : Entry} (begins : Begins now e) : Recorded s now key ((s.recordWrite now).put key e)
  | continued {e e' : Entry} (found : Store.entry? (s.recordWrite now) key = some e')
      (live : e'.isLive now) (same : e.expiresAt = e'.expiresAt) :
      Recorded s now key ((s.recordWrite now).put key e)

/-- Every operation that writes at a key comes to it, as long as the store is online. -/
theorem recorded_of_target (online : s.offline = false) (target : o.target? = some key)
    (now : Instant) : Recorded s now key (s.obey now o).2 := by
  cases o with
  | write k value ttl =>
      obtain rfl := Option.some.inj target
      change Recorded s now k (s.write k value ttl now).2
      rw [write, if_neg (by simp [online])]
      dsimp only
      split
      · exact .counted
      · rename_i expiry hexpiry
        exact .started hexpiry
  | increment k window =>
      obtain rfl := Option.some.inj target
      change Recorded s now k (s.increment k window now).2
      rw [increment, if_neg (by simp [online])]
      dsimp only
      split
      · exact .counted
      · rename_i e he
        split
        · unfold counterEntry? at he
          split at he
          · rename_i e' hfound
            obtain rfl := Option.some.inj he
            obtain ⟨hfound, hlive⟩ := Option.filter_eq_some_iff.mp hfound
            exact .continued hfound hlive rfl
          · obtain ⟨expiry, hexpiry, rfl⟩ := Option.map_eq_some_iff.mp he
            exact .started hexpiry
        · exact .counted
  | lookup k => cases target
  | ttlOf k => cases target
  | size => cases target
  | setOffline offline => cases target
  | cleanup => cases target

/-- A store that is offline is left as it is by operations that write. -/
theorem obey_of_offline (offline : s.offline = true) (target : o.target?.isSome) :
    (s.obey now o).2 = s := by
  cases o with
  | write k value ttl =>
      change (s.write k value ttl now).2 = s
      rw [write, if_pos offline]
  | increment k window =>
      change (s.increment k window now).2 = s
      rw [increment, if_pos offline]
  | lookup k => cases target
  | ttlOf k => cases target
  | size => cases target
  | setOffline offline => cases target
  | cleanup => cases target

/-- The other operations add no entry and count no write. -/
theorem obey_of_no_target (target : o.target? = none) (s : Store) (now : Instant) :
    (s.obey now o).2.entries.Sublist s.entries ∧ (s.obey now o).2.writes = s.writes := by
  cases o with
  | write k value ttl => cases target
  | increment k window => cases target
  | lookup k =>
      change (s.lookup k now).2.entries.Sublist s.entries ∧ (s.lookup k now).2.writes = s.writes
      rw [lookup]
      split
      · exact ⟨.refl _, rfl⟩
      · split
        · exact ⟨.refl _, rfl⟩
        · split
          · exact ⟨.refl _, rfl⟩
          · exact ⟨List.filter_sublist, rfl⟩
  | ttlOf k => exact ⟨.refl _, rfl⟩
  | size => exact ⟨.refl _, rfl⟩
  | setOffline offline => exact ⟨.refl _, rfl⟩
  | cleanup => exact ⟨List.filter_sublist, rfl⟩

/-- Only an operation that says so takes a store offline or back. -/
theorem offline_obey (s : Store) (now : Instant) (o : Operation) :
    (s.obey now o).2.offline = match o with
      | .setOffline offline => offline
      | _ => s.offline := by
  cases o with
  | lookup key => exact offline_perform s now (.lookup key)
  | write key value ttl => exact offline_perform s now (.write key value ttl)
  | increment key window => exact offline_perform s now (.increment key window)
  | ttlOf key => rfl
  | size => rfl
  | setOffline offline => rfl
  | cleanup => rfl

/-- Where a write is one in `sweepEvery`, it is counted with a sweep. -/
theorem recordWrite_of_due (due : (s.writes + 1) % sweepEvery = 0) (now : Instant) :
    s.recordWrite now = { s.sweep now with writes := s.writes + 1 } := by
  rw [recordWrite]
  exact if_pos due

/-- Any other write is only counted. -/
theorem recordWrite_of_not_due (quiet : (s.writes + 1) % sweepEvery ≠ 0) (now : Instant) :
    s.recordWrite now = { s with writes := s.writes + 1 } := by
  rw [recordWrite]
  exact if_neg quiet

/-- A write takes room for one entry, and is counted. -/
theorem Recorded.stored {s' : Store} (h : Recorded s now key s') :
    s'.entries.length ≤ (s.recordWrite now).entries.length + 1 ∧ s'.writes = s.writes + 1 := by
  have hwrites : (s.recordWrite now).writes = s.writes + 1 := by
    unfold recordWrite
    dsimp only
    split <;> rfl
  have hput : ∀ e : Entry, ((s.recordWrite now).put key e).entries.length ≤
      (s.recordWrite now).entries.length + 1 := fun e =>
    Nat.succ_le_succ (List.length_filter_le _ _)
  cases h with
  | counted => exact ⟨Nat.le_succ _, hwrites⟩
  | started => exact ⟨hput _, hwrites⟩
  | continued => exact ⟨hput _, hwrites⟩

/-! ### Room -/

/-- A store that holds no more than its book allows. -/
structure Booked (s : Store) (u : Upkeep) : Prop where
  offline : s.offline = u.offline
  writes : s.writes = u.writes
  /-- There is an entry for each write since the latest sweep, beside those it has left. -/
  stored : s.entries.length ≤ u.live + u.since
  /-- Of the writes since then, all but one came after a multiple of `sweepEvery`. -/
  since : u.since ≤ u.writes % sweepEvery + 1

theorem booked_empty : Booked {} {} where
  offline := rfl
  writes := rfl
  stored := Nat.le_refl 0
  since := Nat.zero_le 1

/-- The book knows whether the store is offline. -/
theorem Booked.offline_next (h : Booked s u) (now : Instant) (o : Operation) (live : Nat) :
    (s.obey now o).2.offline = (u.next live o).offline := by
  rw [offline_obey]
  cases o with
  | setOffline offline => rfl
  | lookup key => exact h.offline
  | write key value ttl => exact h.offline
  | increment key window => exact h.offline
  | ttlOf key => exact h.offline
  | size => exact h.offline
  | cleanup => exact h.offline

/-- **A write keeps to the book**: its entry comes after the sweep that it brings. -/
theorem Booked.record (h : Booked s u) (counts : u.Counts o) (now : Instant) :
    Booked (s.obey now o).2 (u.next (s.size now) o) := by
  obtain ⟨online, target⟩ := counts
  obtain ⟨key, htarget⟩ := Option.isSome_iff_exists.mp target
  obtain ⟨hstored, hwrites⟩ := (recorded_of_target (h.offline.trans online) htarget now).stored
  have hcounts : u.Counts o := ⟨online, target⟩
  have hbound := h.since
  have hlength := h.stored
  by_cases due : (u.writes + 1) % sweepEvery = 0
  · have hdue : u.IsDue o := .inr ⟨hcounts, due⟩
    rw [recordWrite_of_due (h.writes ▸ due)] at hstored
    refine ⟨h.offline_next now o _, ?_, ?_, ?_⟩
    · simp only [Upkeep.next, if_pos hcounts, hwrites, h.writes]
    · simp only [Upkeep.next, if_pos hcounts, if_pos hdue, Nat.zero_add]
      exact hstored
    · simp only [Upkeep.next, if_pos hcounts, if_pos hdue]
      omega
  · have hquiet : ¬u.IsDue o := by
      rintro (rfl | ⟨-, h⟩)
      · cases htarget
      · exact due h
    rw [recordWrite_of_not_due (h.writes ▸ due)] at hstored
    dsimp only at hstored
    simp only [sweepEvery] at due hbound
    refine ⟨h.offline_next now o _, ?_, ?_, ?_⟩
    · simp only [Upkeep.next, if_pos hcounts, hwrites, h.writes]
    · simp only [Upkeep.next, if_pos hcounts, if_neg hquiet]
      omega
    · simp only [Upkeep.next, if_pos hcounts, if_neg hquiet, sweepEvery]
      omega

/-- What does not count as a write leaves the store as it is, or adds nothing to it. -/
theorem Booked.spare (h : Booked s u) (spared : ¬u.Counts o) (now : Instant) :
    (s.obey now o).2.entries.Sublist s.entries ∧ (s.obey now o).2.writes = s.writes := by
  cases htarget : o.target? with
  | none => exact obey_of_no_target htarget s now
  | some key =>
      have target : o.target?.isSome := by rw [htarget]; rfl
      have offline : s.offline = true := by
        rw [h.offline, ← Bool.not_eq_false]
        exact fun online => spared ⟨online, target⟩
      rw [obey_of_offline offline target]
      exact ⟨.refl _, rfl⟩

/-- **Operations keep to the book.** -/
theorem Booked.obey (h : Booked s u) (now : Instant) (o : Operation) :
    Booked (s.obey now o).2 (u.next (s.size now) o) := by
  by_cases counts : u.Counts o
  · exact h.record counts now
  · obtain ⟨hfewer, hwrites⟩ := h.spare counts now
    refine ⟨h.offline_next now o _, ?_, ?_, ?_⟩
    · simp only [Upkeep.next, if_neg counts, hwrites, h.writes, Nat.add_zero]
    · by_cases due : u.IsDue o
      · obtain rfl : o = .cleanup := due.resolve_right fun h => counts h.1
        simp only [Upkeep.next, if_neg counts, if_pos due]
        exact Nat.le_refl _
      · simp only [Upkeep.next, if_neg counts, if_neg due]
        exact Nat.le_trans hfewer.length_le h.stored
    · have hbound := h.since
      simp only [Upkeep.next, if_neg counts, Nat.add_zero]
      split
      · exact Nat.zero_le _
      · exact hbound

/-- So do operations one after the other. -/
theorem Booked.after (h : Booked s u) (operations : List (Instant × Operation)) :
    Booked (after Store.obey operations s) (book operations s u) := by
  induction operations generalizing s u with
  | nil => exact h
  | cons o rest ih => exact ih (h.obey o.1 o.2)

/-! ### What a sweep leaves -/

/-- The entry at a key after one was put at a key. -/
theorem entry?_put (h : s.Distinct) (key : String) (e : Entry) (other : String) :
    Store.entry? (s.put key e) other = if other = key then some e else s.entry? other := by
  split
  · rename_i heq
    rw [heq, entry?_put_self]
  · rename_i hne
    rw [entry?_put_of_ne hne, entry?_remove h, if_neg hne]

/-- No key has two entries after an operation. -/
theorem Distinct.obey (h : s.Distinct) (now : Instant) (o : Operation) :
    (s.obey now o).2.Distinct :=
  ((⟨rfl, h, fun _ => rfl⟩ : Shows now s { entries := s.entries, offline := s.offline }).obey
    o).2.distinct

/-- No key has two entries after operations one after the other. -/
theorem Distinct.after (h : s.Distinct) (operations : List (Instant × Operation)) :
    (after Store.obey operations s).Distinct := by
  induction operations generalizing s with
  | nil => exact h
  | cons o rest ih => exact ih (h.obey o.1 o.2)

/-- What has expired has no entry after a sweep. -/
theorem entry?_sweep (h : s.Distinct) (found : s.entry? key = some e)
    (dead : e.isLive now = false) : Store.entry? (s.sweep now) key = none := by
  rw [entry?_eq_lookup, sweep, lookup_filter_of_nodup h, ← entry?_eq_lookup, found]
  exact Option.filter_some_neg (by simp [dead])

/-- **A sweep removes what has expired**, and only the operation that brings it may write there
anew. -/
theorem begins_of_due (h : Booked s u) (distinct : s.Distinct) (due : u.IsDue o)
    (found : s.entry? key = some e) (dead : e.isLive now = false) {e' : Entry}
    (still : Store.entry? (s.obey now o).2 key = some e') :
    o.target? = some key ∧ Begins now e' := by
  rcases due with rfl | ⟨⟨online, target⟩, hdue⟩
  · have hgone := entry?_sweep distinct found dead
    exact absurd (hgone.symm.trans still) nofun
  · obtain ⟨k, htarget⟩ := Option.isSome_iff_exists.mp target
    have hgone : Store.entry? (s.recordWrite now) key = none := by
      rw [recordWrite_of_due (h.writes ▸ hdue)]
      exact entry?_sweep distinct found dead
    have hrecorded := recorded_of_target (h.offline.trans online) htarget now
    generalize (s.obey now o).2 = s' at still hrecorded
    cases hrecorded with
    | counted => exact absurd (hgone.symm.trans still) nofun
    | started begins =>
        rw [entry?_put (distinct.recordWrite now), hgone] at still
        split at still
        · rename_i hkey
          exact ⟨hkey ▸ htarget, Option.some.inj still ▸ begins⟩
        · cases still
    | continued hfound =>
        rw [entry?_put (distinct.recordWrite now), hgone] at still
        split at still
        · rename_i hkey
          rw [← hkey, hgone] at hfound
          cases hfound
        · cases still

/-! ### What does not come back -/

/-- Nothing that a store holds had expired before an instant. -/
def Fresh (t : Instant) (s : Store) : Prop := ∀ entry ∈ s.entries, t ≤ entry.2.expiresAt

/-- An entry that starts has not expired before. -/
theorem Begins.le (begins : Begins now e) : now ≤ e.expiresAt := by
  rw [Begins, Instant.after?, Option.ite_none_right_eq_some] at begins
  exact Option.some.inj begins.2 ▸ Nat.le_add_right now e.ttl

/-- A store stays fresh when an entry is put that does not expire before either. -/
theorem Fresh.put (h : Fresh t s) (late : t ≤ e.expiresAt) : Fresh t (s.put key e) := by
  intro entry hentry
  rcases List.mem_cons.mp hentry with rfl | hentry
  · exact late
  · exact h entry (List.mem_filter.mp hentry).1

/-- A live entry does not expire before the present. -/
theorem le_of_isLive (ht : t ≤ now) (live : e.isLive now) : t ≤ e.expiresAt :=
  Nat.le_trans ht (Nat.le_of_lt (of_decide_eq_true live))

/-- A sweep freshens a store. -/
theorem fresh_sweep (ht : t ≤ now) (s : Store) : Fresh t (s.sweep now) := fun _ hentry =>
  le_of_isLive ht (List.mem_filter.mp hentry).2

/-- So does counting a write, if a sweep comes with it. -/
theorem fresh_recordWrite (ht : t ≤ now) (h : Fresh t s ∨ (s.writes + 1) % sweepEvery = 0) :
    Fresh t (s.recordWrite now) := by
  by_cases due : (s.writes + 1) % sweepEvery = 0
  · rw [recordWrite_of_due due]
    exact fresh_sweep ht s
  · rw [recordWrite_of_not_due due]
    exact h.resolve_right due

/-- **What a sweep has removed does not come back**: a store is fresh after a sweep, and stays
so. -/
theorem Booked.freshens (h : Booked s u) (ht : t ≤ now) (start : Fresh t s ∨ u.IsDue o) :
    Fresh t (s.obey now o).2 := by
  by_cases counts : u.Counts o
  · obtain ⟨key, htarget⟩ := Option.isSome_iff_exists.mp counts.2
    have hcounted : Fresh t (s.recordWrite now) := by
      refine fresh_recordWrite ht (start.imp_right ?_)
      rintro (rfl | ⟨-, hdue⟩)
      · cases htarget
      · exact h.writes ▸ hdue
    have hrecorded := recorded_of_target (h.offline.trans counts.1) htarget now
    generalize (s.obey now o).2 = s' at hrecorded ⊢
    cases hrecorded with
    | counted => exact hcounted
    | started begins => exact hcounted.put (Nat.le_trans ht begins.le)
    | continued found live same => exact hcounted.put (same ▸ le_of_isLive ht live)
  · rcases start with fresh | rfl | ⟨hcounts, -⟩
    · exact fun entry hentry => fresh entry ((h.spare counts now).1.subset hentry)
    · exact fresh_sweep ht s
    · exact absurd hcounts counts

/-- Without a sweep, the writes pass no multiple of `sweepEvery`. -/
theorem Upkeep.div_next (quiet : ¬u.IsDue o) (live : Nat) :
    (u.next live o).writes / sweepEvery = u.writes / sweepEvery := by
  by_cases counts : u.Counts o
  · have hquiet : (u.writes + 1) % sweepEvery ≠ 0 := fun h => quiet (.inr ⟨counts, h⟩)
    simp only [next, if_pos counts, sweepEvery] at hquiet ⊢
    omega
  · simp only [next, if_neg counts, Nat.add_zero]

/-- After operations from an instant on, a store is fresh, or they have passed no multiple of
`sweepEvery`. -/
theorem Booked.fresh_or_unswept (h : Booked s u) {operations : List (Instant × Operation)}
    (late : ∀ o ∈ operations, t ≤ o.1) {q : Nat} (start : Fresh t s ∨ u.writes / sweepEvery = q) :
    Fresh t (Store.after Store.obey operations s) ∨
      (book operations s u).writes / sweepEvery = q := by
  induction operations generalizing s u with
  | nil => exact start
  | cons o rest ih =>
      obtain ⟨time, o⟩ := o
      obtain ⟨ht, hrest⟩ := List.forall_mem_cons.mp late
      refine ih (h.obey time o) hrest ?_
      rcases start with fresh | hq
      · exact .inl (h.freshens ht (.inl fresh))
      · by_cases due : u.IsDue o
        · exact .inl (h.freshens ht (.inr due))
        · exact .inr ((Upkeep.div_next due _).trans hq)

/-- **A store does not fill up.** After any operations, it holds no more entries than keys were live
at the latest sweep and writes came since, of which there are at most 256. Where the next operation
brings a sweep, what has expired is gone afterwards, but for an entry that the operation itself
writes in its place. And what had expired at some time is gone when 256 writes have come since. -/
theorem stored_within_writes (operations : List (Instant × Operation)) :
    ((after Store.obey operations {}).entries.length ≤
        (book operations {} {}).live + (book operations {} {}).since ∧
      (book operations {} {}).since ≤ 256) ∧
    (∀ now o, (book operations {} {}).IsDue o →
      ∀ key e, Store.entry? (after Store.obey operations {}) key = some e → e.isLive now = false →
        ∀ e', Store.entry? (Store.obey (after Store.obey operations {}) now o).2 key = some e' →
          o.target? = some key ∧ Begins now e') ∧
    ∀ later t, (∀ o ∈ later, t ≤ o.1) →
      (book operations {} {}).writes + 256 ≤ (book (operations ++ later) {} {}).writes →
      ∀ entry ∈ (after Store.obey (operations ++ later) {}).entries, t ≤ entry.2.expiresAt := by
  have hbooked := booked_empty.after operations
  have hdistinct := (Shows.initial 0).distinct.after operations
  refine ⟨⟨hbooked.stored, ?_⟩, ?_, ?_⟩
  · have hsince := hbooked.since
    have hmod := Nat.mod_lt (book operations {} {}).writes (show 0 < sweepEvery by decide)
    exact Nat.le_trans hsince hmod
  · intro now o due key e found dead e' still
    exact begins_of_due hbooked hdistinct due found dead still
  · intro later t late many
    rw [book_append] at many
    rw [after_append]
    refine (hbooked.fresh_or_unswept late (.inr rfl)).resolve_right fun same => ?_
    simp only [sweepEvery] at same
    omega

/-- A marker of a short life and one of a long life. -/
def twoMarkers : List (Instant × Operation) := [(0, .write "k" "v" 5), (1, .write "m" "v" 60)]

/-- A sweep when one of two markers has expired removes it, and 256 writes do. -/
theorem stored_within_writes_twoMarkers :
    (book twoMarkers {} {}).IsDue .cleanup ∧
      Store.entry? (Store.obey (after Store.obey twoMarkers {}) 10 .cleanup).2 "k" = none ∧
      ∀ entry ∈ (after Store.obey
        (twoMarkers ++ List.replicate 256 (10, .write "n" "v" 5)) {}).entries,
        10 ≤ entry.2.expiresAt := by
  have due : (book twoMarkers {} {}).IsDue .cleanup := .inl rfl
  refine ⟨due, ?_, ?_⟩
  · refine Option.eq_none_iff_forall_ne_some.mpr fun e' still => ?_
    have hwritten := (stored_within_writes twoMarkers).2.1 10 .cleanup due "k" ⟨.text "v", 5, 5⟩
      (by decide) (by decide) e' still
    exact absurd hwritten.1 nofun
  · refine (stored_within_writes twoMarkers).2.2 _ 10 (fun o ho => ?_) (by decide +kernel)
    exact (List.eq_of_mem_replicate ho) ▸ Nat.le_refl 10

end PushDelivery.Store
