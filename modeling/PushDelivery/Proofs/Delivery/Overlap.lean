import Mathlib.Logic.Function.Basic
import PushDelivery.Proofs.Delivery.Course
import PushDelivery.Proofs.Guard.Memory

/-!
# Deliveries Side by Side

Several deliveries share one guard store and interleave at their requests. A delivery looks for the
marker of its job once, before it is dispatched, and writes the marker at its end, so two deliveries
of one job that overlap may both be dispatched. This module shows that nothing else lets a job be
sent again: a delivery that makes a push has looked for the marker at a moment when every marker of
its job that any delivery had written was past its time.

## Main definitions

* `World`: the deliveries, the store and the clock; `Act`: an exchange of one of the deliveries.
* `Evolves`: any interleaving of the deliveries over the store.
* `weave`: deliveries that take turns.

## Main results

* `Evolves.reaches`: each delivery goes its own way in an interleaving.
* `Evolves.liveUntil`, `Evolves.expiresBy`: a marker stays until its time, and no longer.
* `Evolves.lookup_of_marked`, `Evolves.lookup_of_unmarked`: what a lookup finds, by the markers that
  were written before it.
* `push_after_markers`: a delivery that makes a push has looked for the marker when none was live.
-/

namespace PushDelivery.Delivery

open Run (Exchange Exchanges Reaches OnlyAsks)

variable {ι : Type} [DecidableEq ι]

/-! ### Interleavings -/

/-- Deliveries in progress, the store that they share, and the time. -/
structure World (ι : Type) where
  runs : ι → Run interface (Except DeliveryError Unit × Job)
  store : Store
  clock : Instant

/-- One of the deliveries has come to a run, the store was changed, and time has passed. -/
def World.turn (w : World ι) (i : ι) (run : Run interface (Except DeliveryError Unit × Job))
    (store : Store) (time : Instant) : World ι :=
  ⟨Function.update w.runs i run, store, time⟩

@[simp] theorem World.turn_runs_self (w : World ι) (i : ι)
    (run : Run interface (Except DeliveryError Unit × Job)) (store : Store) (time : Instant) :
    (w.turn i run store time).runs i = run := by
  simp [World.turn]

@[simp] theorem World.turn_runs_of_ne (w : World ι) {i j : ι} (h : j ≠ i)
    (run : Run interface (Except DeliveryError Unit × Job)) (store : Store) (time : Instant) :
    (w.turn i run store time).runs j = w.runs j := by
  simp [World.turn, h]

/-- An exchange of one of the deliveries, at some time. -/
structure Act (ι : Type) where
  run : ι
  time : Instant
  exchange : Exchange interface

/-- The exchange is answered by the store if it is one with the guard, and leaves the store alone if
it is not. -/
def Serves (s : Store) (time : Instant) : Exchange interface → Store → Prop
  | ⟨.guard r, answer⟩, s' => s.perform time r = (some answer, s')
  | _, s' => s' = s

/-- The deliveries make some acts, one after the other and each in its own order. A delivery whose
operation of the guard has no answer has crashed: it has left its trace in the store, and stays
where it is. -/
inductive Evolves : World ι → List (Act ι) → World ι → Prop
  | stop (w : World ι) : Evolves w [] w
  | act {w w' : World ι} {i : ι} {r : Request} {next : r.Answer → Run interface _}
      {time : Instant} {answer : r.Answer} {store : Store} {acts : List (Act ι)}
      (asks : w.runs i = .ask r next) (later : w.clock ≤ time)
      (served : Serves w.store time ⟨r, answer⟩ store)
      (more : Evolves (w.turn i (next answer) store time) acts w') :
      Evolves w (⟨i, time, ⟨r, answer⟩⟩ :: acts) w'
  | crash {w w' : World ι} {i : ι} {r : Guard.Request}
      {next : (Request.guard r).Answer → Run interface _} {time : Instant} {store : Store}
      {acts : List (Act ι)} (asks : w.runs i = .ask (.guard r) next) (later : w.clock ≤ time)
      (crashed : w.store.perform time r = (none, store))
      (more : Evolves ⟨w.runs, store, time⟩ acts w') : Evolves w acts w'

/-- The exchanges of one delivery. -/
def exchangesOf (i : ι) (acts : List (Act ι)) : List (Exchange interface) :=
  acts.filterMap fun a => if a.run = i then some a.exchange else none

/-- The act of a delivery is the first of its exchanges. -/
@[simp] theorem exchangesOf_cons_self (i : ι) (time : Instant) (e : Exchange interface)
    (acts : List (Act ι)) : exchangesOf i (⟨i, time, e⟩ :: acts) = e :: exchangesOf i acts := by
  simp [exchangesOf]

/-- The act of another delivery is none of them. -/
@[simp] theorem exchangesOf_cons_of_ne {i j : ι} (h : j ≠ i) (time : Instant)
    (e : Exchange interface) (acts : List (Act ι)) :
    exchangesOf i (⟨j, time, e⟩ :: acts) = exchangesOf i acts := by
  simp [exchangesOf, h]

/-- Deliveries woven together: they take turns, and each turn is the next exchange of one of them,
unless it has come to its end. -/
def weave : List ι → (ι → List (Exchange interface)) → List (Act ι)
  | [], _ => []
  | i :: turns, runs =>
    match runs i with
    | [] => weave turns runs
    | e :: rest => ⟨i, (0 : Nat), e⟩ :: weave turns (Function.update runs i rest)

/-- A delivery makes as many of its exchanges as it has turns. -/
theorem exchangesOf_weave (i : ι) (turns : List ι) (runs : ι → List (Exchange interface)) :
    exchangesOf i (weave turns runs) = (runs i).take (turns.count i) := by
  induction turns generalizing runs with
  | nil => rfl
  | cons j turns ih =>
      rw [weave]
      split
      next ended =>
        rw [ih]
        by_cases hj : j = i
        · rw [← hj, ended, List.take_nil, List.take_nil]
        · rw [List.count_cons_of_ne hj]
      next e rest more =>
        by_cases hj : j = i
        · subst hj
          rw [exchangesOf_cons_self, ih, Function.update_self, List.count_cons_self, more,
            List.take_succ_cons]
        · rw [exchangesOf_cons_of_ne hj, ih, Function.update_of_ne (Ne.symm hj),
            List.count_cons_of_ne hj]

/-- A delivery with enough turns makes all of them. -/
theorem exchangesOf_weave_of_le {i : ι} {turns : List ι} {runs : ι → List (Exchange interface)}
    (enough : (runs i).length ≤ turns.count i) : exchangesOf i (weave turns runs) = runs i := by
  rw [exchangesOf_weave, List.take_of_length_le enough]

/-- Each delivery goes its own way. -/
theorem Evolves.reaches {w w' : World ι} {acts : List (Act ι)} (h : Evolves w acts w') (i : ι) :
    Reaches (w.runs i) (exchangesOf i acts) (w'.runs i) := by
  induction h with
  | stop w => exact .here _
  | @act w w' j r next time answer store acts asks later served more ih =>
      by_cases hj : j = i
      · subst hj
        rw [World.turn_runs_self] at ih
        rw [asks, exchangesOf_cons_self]
        exact .ask ih
      · rw [World.turn_runs_of_ne w (Ne.symm hj)] at ih
        rw [exchangesOf_cons_of_ne hj]
        exact ih
  | crash _ _ _ _ ih => exact ih

/-- The time at the end is not before that at the beginning. -/
theorem Evolves.clock_mono {w w' : World ι} {acts : List (Act ι)} (h : Evolves w acts w') :
    w.clock ≤ w'.clock := by
  induction h with
  | stop => exact Nat.le_refl _
  | act _ later _ _ ih => exact Nat.le_trans later ih
  | crash _ later _ _ ih => exact Nat.le_trans later ih

/-- The time at the end is not before any of the acts. -/
theorem Evolves.le_clock {w w' : World ι} {acts : List (Act ι)} (h : Evolves w acts w') :
    ∀ a ∈ acts, a.time ≤ w'.clock := by
  induction h with
  | stop => simp
  | act _ _ _ more ih =>
      intro a ha
      rcases List.mem_cons.mp ha with rfl | ha
      · exact more.clock_mono
      · exact ih a ha
  | crash _ _ _ _ ih => exact ih

/-! ### What deliveries ask the guard for -/

/-- A dispatch asks only for what attempts consist of. -/
theorem onlyAsks_dispatch {P : Request → Prop} (h : ∀ r : Request, r.inDispatch = true → P r)
    (policy : RetryPolicy) (breaker : String) (content : Content) (tokens : List String)
    (correlationId : Option String) (spent : Nat) :
    OnlyAsks P (dispatch policy breaker content tokens correlationId spent) := by
  refine OnlyAsks.of_forall_exchanges nonempty_answer fun es a he e hm => h e.1 ?_
  obtain ⟨r, s⟩ := a
  exact (exchanges_dispatch_iff.mp he).inDispatch e hm

/-- Whether a request may change the value at a key of the guard's store. -/
def Request.isUpdate : Request → Bool
  | .guard (.increment ..) | .guard (.write ..) => true
  | _ => false

/-- Attempts update nothing. -/
theorem Request.not_isUpdate_of_inDispatch {r : Request} (h : r.inDispatch = true) :
    r.isUpdate = false := by
  cases r with
  | guard => cases h
  | _ => rfl

/-- A delivery updates nothing but the counter of its user and the marker of its job. -/
theorem onlyAsks_process {P : Request → Prop} (c : Courier) (job : Job)
    (hfree : ∀ r : Request, r.isUpdate = false → P r)
    (hcount : P (.guard (.increment (Guard.counterKey job.userId) c.guard.window)))
    (hmark : P (.guard (.write (Guard.markerKey job.id) Guard.markerText Guard.markerTtl))) :
    OnlyAsks P (c.process job) := by
  have ask : ∀ {r : Request}, r.isUpdate = false → OnlyAsks P (request r) := fun h =>
    ⟨hfree _ h, fun _ => trivial⟩
  have mark : OnlyAsks P (guarded (Guard.markProcessed job.id)) :=
    onlyAsks_markProcessed hmark (hfree _ rfl)
  have refuse := onlyAsks_refuse (hfree .now rfl) (fun e => hfree (.note e) rfl)
    (fun r => hfree (.publish r) rfl) mark
  have deliver : ∀ started content, OnlyAsks P (c.deliver job started content) := by
    intro started content
    refine (onlyAsks_dispatch (fun r hr => hfree r (Request.not_isUpdate_of_inDispatch hr))
      _ _ _ _ _ _).bind fun ⟨result, progress⟩ => (ask rfl).bind fun now => ?_
    exact (onlyAsks_finish (fun e => hfree (.note e) rfl) (fun r => hfree (.publish r) rfl)
      mark _ _).bind fun _ => trivial
  refine (ask rfl).bind fun started => (ask rfl).bind fun _ =>
    (onlyAsks_checkRate hcount (hfree _ rfl)).bind fun decision => ?_
  cases decision with
  | exceeded count limit => exact (ask rfl).bind fun _ => refuse _ _ _
  | allowed =>
      dsimp only
      split
      · exact refuse _ _ _
      · refine (onlyAsks_isDuplicate (hfree _ rfl) (hfree _ rfl)).bind fun duplicate => ?_
        split
        · exact (ask rfl).bind fun _ => trivial
        · refine (onlyAsks_prepare (fun code => hfree (.template code) rfl) job).bind ?_
          intro prepared
          cases prepared with
          | error e => exact refuse _ _ _
          | ok content => exact deliver started content

/-! ### Markers in an interleaving -/

/-- A store stays online. -/
theorem Serves.online {s s' : Store} {time : Instant} {e : Exchange interface}
    (h : Serves s time e s') (online : s.offline = false) : s'.offline = false := by
  obtain ⟨r, answer⟩ := e
  cases r with
  | guard r =>
      have hs : s.perform time r = (some answer, s') := h
      rw [← online, ← s.offline_perform time r, hs]
  | _ => exact (show s' = s from h) ▸ online

/-- An exchange keeps what is live, unless it writes a text of a shorter life at the key. -/
theorem Serves.liveUntil {s s' : Store} {time till : Instant} {e : Exchange interface}
    {key : String} (h : Serves s time e s') (hlive : s.LiveUntil key till) (htime : time < till)
    (hwrite : ∀ value ttl, e.1 = .guard (.write key value ttl) → till ≤ time + ttl) :
    s'.LiveUntil key till := by
  obtain ⟨r, answer⟩ := e
  cases r with
  | guard r =>
      have hs : s.perform time r = (some answer, s') := h
      have hkept := hlive.perform htime r fun value ttl hr => hwrite value ttl (hr ▸ rfl)
      rwa [hs] at hkept
  | _ => exact (show s' = s from h) ▸ hlive

/-- An exchange prolongs no life, unless it counts or writes at the key. -/
theorem Serves.expiresBy {s s' : Store} {time till : Instant} {e : Exchange interface}
    {key : String} (h : Serves s time e s') (hexpires : s.ExpiresBy key till)
    (hcount : ∀ window, e.1 ≠ .guard (.increment key window))
    (hwrite : ∀ value ttl, e = ⟨.guard (.write key value ttl), .ok ()⟩ → time + ttl ≤ till) :
    s'.ExpiresBy key till := by
  obtain ⟨r, answer⟩ := e
  cases r with
  | guard r =>
      have hs : s.perform time r = (some answer, s') := h
      have hkept : (s.perform time r).2.ExpiresBy key till := by
        refine hexpires.perform time (fun window hr => ?_) fun value ttl hr haccepted => ?_
        · exact hcount window (congrArg Request.guard hr)
        · subst hr
          obtain rfl : answer = .ok () :=
            Option.some.inj ((congrArg Prod.fst hs).symm.trans haccepted)
          exact hwrite value ttl rfl
      rwa [hs] at hkept
  | _ => exact (show s' = s from h) ▸ hexpires

/-- The request does not change a key of the guard's store. -/
def Request.Spares (key : String) (r : Request) : Prop :=
  (∀ window, r ≠ .guard (.increment key window)) ∧ ∀ value ttl, r ≠ .guard (.write key value ttl)

/-- The request changes a key of the guard's store only by writing a marker there. -/
def Request.MarksOnly (key : String) (r : Request) : Prop :=
  r.Spares key ∨ r = .guard (.write key Guard.markerText Guard.markerTtl)

/-- A request that updates nothing changes no key. -/
theorem Request.spares_of_not_isUpdate {r : Request} (h : r.isUpdate = false) (key : String) :
    r.Spares key := by
  constructor
  · rintro window rfl
    cases h
  · rintro value ttl rfl
    cases h

/-- No counter has the key of a marker. -/
theorem counterKey_ne_markerKey (userId jobId : String) :
    Guard.counterKey userId ≠ Guard.markerKey jobId := by
  intro h
  have hhead : ("ratelimit:user:" ++ userId).toList.head? =
      ("idempotency:notification:" ++ jobId).toList.head? := congrArg (·.toList.head?) h
  rw [String.toList_append, List.head?_append, String.toList_append, List.head?_append,
    show "ratelimit:user:".toList.head? = some 'r' from rfl,
    show "idempotency:notification:".toList.head? = some 'i' from rfl] at hhead
  exact absurd hhead (by simp)

/-- Different jobs have different markers. -/
theorem markerKey_injective : Function.Injective Guard.markerKey := by
  intro a b h
  have hlist : ("idempotency:notification:" ++ a).toList =
      ("idempotency:notification:" ++ b).toList := congrArg String.toList h
  rw [String.toList_append, String.toList_append] at hlist
  exact String.toList_injective (List.append_cancel_left hlist)

/-- Counting the requests of a user changes no marker. -/
theorem Request.spares_count (userId jobId : String) (window : Duration) :
    (Request.guard (.increment (Guard.counterKey userId) window)).Spares
      (Guard.markerKey jobId) := by
  refine ⟨fun window heq => ?_, nofun⟩
  injection heq with heq
  injection heq with hkey
  exact counterKey_ne_markerKey _ _ hkey

/-- Marking a job changes no other marker. -/
theorem Request.spares_mark {otherId jobId : String} (h : otherId ≠ jobId) :
    (Request.guard (.write (Guard.markerKey otherId) Guard.markerText Guard.markerTtl)).Spares
      (Guard.markerKey jobId) := by
  refine ⟨nofun, fun value ttl heq => ?_⟩
  injection heq with heq
  injection heq with hkey
  exact h (markerKey_injective hkey)

/-- A delivery changes the key of a marker only by writing markers. -/
theorem marksOnly_process (c : Courier) (job : Job) (jobId : String) :
    OnlyAsks (Request.MarksOnly (Guard.markerKey jobId)) (c.process job) := by
  refine onlyAsks_process c job (fun r hr => .inl (Request.spares_of_not_isUpdate hr _))
    (.inl (Request.spares_count _ _ _)) ?_
  by_cases hid : job.id = jobId
  · exact .inr (by rw [hid])
  · exact .inl (Request.spares_mark hid)

/-- A request that only writes markers at a key counts nothing there. -/
theorem Request.MarksOnly.not_count {key : String} {r : Request} (h : r.MarksOnly key)
    (window : Duration) : r ≠ .guard (.increment key window) := by
  rcases h with h | rfl
  · exact h.1 window
  · exact nofun

/-- A request that only writes markers at a key writes nothing else there. -/
theorem Request.MarksOnly.eq_of_write {key value : String} {ttl : Duration} {r : Request}
    (h : r.MarksOnly key) (hr : r = .guard (.write key value ttl)) :
    value = Guard.markerText ∧ ttl = Guard.markerTtl := by
  rcases h with h | rfl
  · exact absurd hr (h.2 value ttl)
  · injection hr with hr
    injection hr with _ hvalue httl
    exact ⟨hvalue.symm, httl.symm⟩

/-- The deliveries of a world change a key only by writing markers there, and its store is
online. -/
structure World.Marking (w : World ι) (key : String) : Prop where
  marks : ∀ i, OnlyAsks (Request.MarksOnly key) (w.runs i)
  online : w.store.offline = false

variable {key : String}

omit [DecidableEq ι] in
/-- Deliveries write markers. -/
theorem World.marking_of_process {w : World ι} {c : ι → Courier} {jobs : ι → Job}
    (fresh : w.runs = fun i => (c i).process (jobs i)) (online : w.store.offline = false)
    (jobId : String) : w.Marking (Guard.markerKey jobId) := by
  refine ⟨fun i => ?_, online⟩
  rw [fresh]
  exact marksOnly_process (c i) (jobs i) jobId

/-- An act leaves deliveries that write markers. -/
theorem World.Marking.turn {w : World ι} (h : w.Marking key) {i : ι} {r : Request}
    {next : r.Answer → Run interface (Except DeliveryError Unit × Job)}
    (asks : w.runs i = .ask r next) {time : Instant} {answer : r.Answer} {store : Store}
    (served : Serves w.store time ⟨r, answer⟩ store) :
    (w.turn i (next answer) store time).Marking key := by
  have hasks := h.marks i
  rw [asks] at hasks
  refine ⟨fun j => ?_, served.online h.online⟩
  by_cases hj : j = i
  · subst hj
    rw [World.turn_runs_self]
    exact hasks.2 answer
  · rw [World.turn_runs_of_ne w hj]
    exact h.marks j

omit [DecidableEq ι] in
/-- A crash leaves deliveries that write markers. -/
theorem World.Marking.crash {w : World ι} (h : w.Marking key) {r : Guard.Request} {time : Instant}
    {store : Store} (crashed : w.store.perform time r = (none, store)) :
    World.Marking ⟨w.runs, store, time⟩ key := by
  refine ⟨h.marks, ?_⟩
  have hoff := w.store.offline_perform time r
  rw [crashed] at hoff
  exact hoff.trans h.online

omit [DecidableEq ι] in
/-- What a delivery asks for is what it may. -/
theorem World.Marking.asked {w : World ι} (h : w.Marking key) {i : ι} {r : Request}
    {next : r.Answer → Run interface (Except DeliveryError Unit × Job)}
    (asks : w.runs i = .ask r next) : r.MarksOnly key := by
  have hasks := h.marks i
  rw [asks] at hasks
  exact hasks.1

/-- Deliveries that write markers go on to write markers. -/
theorem Evolves.marking {w w' : World ι} {acts : List (Act ι)} (h : Evolves w acts w')
    (hw : w.Marking key) : w'.Marking key := by
  induction h with
  | stop => exact hw
  | act asks _ served _ ih => exact ih (hw.turn asks served)
  | crash _ _ crashed _ ih => exact ih (hw.crash crashed)

/-- **A marker stays.** A key that is live stays live until its time is over, whatever the
deliveries do in the meantime. -/
theorem Evolves.liveUntil {w w' : World ι} {acts : List (Act ι)} (h : Evolves w acts w')
    (hw : w.Marking key) {till : Instant} (hlive : w.store.LiveUntil key till)
    (htill : till ≤ w.clock + Guard.markerTtl) (hbefore : w'.clock < till) :
    w'.store.LiveUntil key till := by
  induction h with
  | stop => exact hlive
  | @act w w' i r next time answer store acts asks later served more ih =>
      have hafter : till ≤ time + Guard.markerTtl :=
        Nat.le_trans htill (Nat.add_le_add_right later _)
      have htime : time < till := Nat.lt_of_le_of_lt more.clock_mono hbefore
      refine ih (hw.turn asks served) (served.liveUntil hlive htime ?_) hafter hbefore
      intro value ttl hr
      rw [((hw.asked asks).eq_of_write hr).2]
      exact hafter
  | @crash w w' i r next time store acts asks later crashed more ih =>
      have hafter : till ≤ time + Guard.markerTtl :=
        Nat.le_trans htill (Nat.add_le_add_right later _)
      have htime : time < till := Nat.lt_of_le_of_lt more.clock_mono hbefore
      have hkept := hlive.perform htime r fun value ttl hr => by
        rw [((hw.asked asks).eq_of_write (congrArg Request.guard hr)).2]
        exact hafter
      rw [crashed] at hkept
      exact ih (hw.crash crashed) hkept hafter hbefore

/-- The act writes a marker at a key, and the store accepts it. -/
def Act.Marks (a : Act ι) (key : String) : Prop :=
  a.exchange = ⟨.guard (.write key Guard.markerText Guard.markerTtl), .ok ()⟩

/-- **A marker goes.** If every marker that the deliveries write at a key is past its time at an
instant, and so is all that was there before, then nothing at the key is live from then on. -/
theorem Evolves.expiresBy {w w' : World ι} {acts : List (Act ι)} (h : Evolves w acts w')
    (hw : w.Marking key) {till : Instant} (hexpires : w.store.ExpiresBy key till)
    (hmarks : ∀ m ∈ acts, m.Marks key → m.time + Guard.markerTtl ≤ till) :
    w'.store.ExpiresBy key till := by
  induction h with
  | stop => exact hexpires
  | @act w w' i r next time answer store acts asks later served more ih =>
      have hasked := hw.asked asks
      refine ih (hw.turn asks served) (served.expiresBy hexpires hasked.not_count ?_)
        fun m hm => hmarks m (List.mem_cons_of_mem _ hm)
      intro value ttl heq
      obtain ⟨rfl, rfl⟩ := hasked.eq_of_write (congrArg Sigma.fst heq)
      exact hmarks _ List.mem_cons_self heq
  | @crash w w' i r next time store acts asks later crashed more ih =>
      have hkept : (w.store.perform time r).2.ExpiresBy key till := by
        refine hexpires.perform time (fun window hr => ?_) fun value ttl hr haccepted => ?_
        · exact (hw.asked asks).not_count window (congrArg Request.guard hr)
        · subst hr
          exact nomatch (congrArg Prod.fst crashed).symm.trans haccepted
      rw [crashed] at hkept
      exact ih (hw.crash crashed) hkept hmarks

/-! ### Looking for markers -/

/-- Two interleavings, one after the other. -/
theorem Evolves.trans {w mid w' : World ι} {acts rest : List (Act ι)} (h : Evolves w acts mid)
    (h' : Evolves mid rest w') : Evolves w (acts ++ rest) w' := by
  induction h with
  | stop => exact h'
  | act asks later served _ ih => exact .act asks later served (ih h')
  | crash asks later crashed _ ih => exact .crash asks later crashed (ih h')

/-- An interleaving, split between two of its acts. -/
theorem Evolves.split {w w' : World ι} {acts rest : List (Act ι)}
    (h : Evolves w (acts ++ rest) w') : ∃ mid, Evolves w acts mid ∧ Evolves mid rest w' := by
  generalize hall : acts ++ rest = all at h
  induction h generalizing acts with
  | stop w =>
      obtain ⟨rfl, rfl⟩ := List.append_eq_nil_iff.mp hall
      exact ⟨w, .stop w, .stop w⟩
  | @act w w' i r next time answer store all asks later served more ih =>
      cases acts with
      | nil =>
          obtain rfl := hall
          exact ⟨w, .stop w, .act asks later served more⟩
      | cons a acts =>
          obtain ⟨rfl, hacts⟩ := List.cons.inj hall
          obtain ⟨mid, hfirst, hrest⟩ := ih hacts
          exact ⟨mid, .act asks later served hfirst, hrest⟩
  | crash asks later crashed _ ih =>
      obtain ⟨mid, hfirst, hrest⟩ := ih hall
      exact ⟨mid, .crash asks later crashed hfirst, hrest⟩

/-- An interleaving at one of its acts, after whatever crashes come before it. -/
theorem Evolves.act_at {w w' : World ι} {before after : List (Act ι)} {i : ι} {time : Instant}
    {r : Request} {answer : r.Answer}
    (h : Evolves w (before ++ ⟨i, time, ⟨r, answer⟩⟩ :: after) w') :
    ∃ mid next store, Evolves w before mid ∧ mid.runs i = .ask r next ∧ mid.clock ≤ time ∧
      Serves mid.store time ⟨r, answer⟩ store ∧
      Evolves (mid.turn i (next answer) store time) after w' := by
  obtain ⟨mid, hfirst, hrest⟩ := h.split
  clear h
  generalize hall : (⟨i, time, ⟨r, answer⟩⟩ : Act ι) :: after = all at hrest
  induction hrest with
  | stop => cases hall
  | @act w₁ w' j r' next time' answer' store acts asks later served more =>
      obtain ⟨hact, rfl⟩ := List.cons.inj hall
      cases hact
      exact ⟨w₁, next, store, hfirst, asks, later, served, more⟩
  | @crash w₁ w' j r' next time' store acts asks later crashed more ih =>
      have hcrash : Evolves w₁ [] ⟨w₁.runs, store, time'⟩ := .crash asks later crashed (.stop _)
      have hcrashed := hfirst.trans hcrash
      rw [List.append_nil] at hcrashed
      exact ih hcrashed hall

/-- A lookup is answered by the store that the acts before it have left. -/
theorem Evolves.lookup_at {w w' : World ι} {before after : List (Act ι)} {i : ι} {time : Instant}
    {answer : Except GuardError Bool}
    (h : Evolves w (before ++ ⟨i, time, ⟨.guard (.lookup key), answer⟩⟩ :: after) w') :
    ∃ mid, Evolves w before mid ∧ mid.clock ≤ time ∧ (mid.store.lookup key time).1 = answer := by
  obtain ⟨mid, next, store, hfirst, -, hclock, served, -⟩ := h.act_at
  have hs : mid.store.perform time (.lookup key) = (some answer, store) := served
  exact ⟨mid, hfirst, hclock, Option.some.inj (congrArg Prod.fst hs)⟩

/-- A lookup is answered, as the store is online. -/
theorem Evolves.lookup_answered {w w' : World ι} {before after : List (Act ι)} {i : ι}
    {time : Instant} {answer : Except GuardError Bool}
    (h : Evolves w (before ++ ⟨i, time, ⟨.guard (.lookup key), answer⟩⟩ :: after) w')
    (hw : w.Marking key) : ∃ found, answer = .ok found := by
  obtain ⟨mid, hfirst, -, hanswer⟩ := h.lookup_at
  obtain ⟨found, hfound⟩ := Store.exists_lookup (hfirst.marking hw).online key time
  exact ⟨found, hanswer.symm.trans hfound⟩

/-- A marker that was written is live until its time is over, whoever has written it. -/
theorem Evolves.liveUntil_of_marked {w w' : World ι} {acts : List (Act ι)} (h : Evolves w acts w')
    (hw : w.Marking key) {m : Act ι} (hm : m ∈ acts) (marks : m.Marks key)
    (hbefore : w'.clock < m.time + Guard.markerTtl) :
    w'.store.LiveUntil key (m.time + Guard.markerTtl) := by
  obtain ⟨early, late, rfl⟩ := List.append_of_mem hm
  obtain ⟨j, marked, e⟩ := m
  obtain rfl : e = _ := marks
  obtain ⟨mid, next, store, hearly, asks, -, served, hlate⟩ := h.act_at
  have hs : mid.store.write key Guard.markerText Guard.markerTtl marked =
    (some (.ok ()), store) := served
  have haccepted : (mid.store.write key Guard.markerText Guard.markerTtl marked).1 =
    some (.ok ()) := by rw [hs]
  have hwritten := Store.liveUntil_of_write haccepted
  rw [hs] at hwritten
  exact hlate.liveUntil ((hearly.marking hw).turn asks served) hwritten
    (Nat.add_le_add_right (Nat.le_refl marked) _) hbefore

/-- A lookup finds a marker that is not yet past its time. -/
theorem Evolves.lookup_of_marked {w w' : World ι} {before after : List (Act ι)} {i : ι}
    {time : Instant} {answer : Except GuardError Bool}
    (h : Evolves w (before ++ ⟨i, time, ⟨.guard (.lookup key), answer⟩⟩ :: after) w')
    (hw : w.Marking key) {m : Act ι} (hm : m ∈ before) (marks : m.Marks key)
    (hlive : time < m.time + Guard.markerTtl) : answer = .ok true := by
  obtain ⟨mid, hfirst, hclock, hanswer⟩ := h.lookup_at
  have hkept := hfirst.liveUntil_of_marked hw hm marks (Nat.lt_of_le_of_lt hclock hlive)
  rw [← hanswer]
  exact Store.lookup_of_liveUntil hkept hlive (hfirst.marking hw).online

/-- A lookup finds nothing, if every marker that was written before it is past its time. -/
theorem Evolves.lookup_of_unmarked {w w' : World ι} {before after : List (Act ι)} {i : ι}
    {time : Instant} {answer : Except GuardError Bool}
    (h : Evolves w (before ++ ⟨i, time, ⟨.guard (.lookup key), answer⟩⟩ :: after) w')
    (hw : w.Marking key) (hstart : w.store.ExpiresBy key time)
    (hmarks : ∀ m ∈ before, m.Marks key → m.time + Guard.markerTtl ≤ time) :
    answer = .ok false := by
  obtain ⟨mid, hfirst, -, hanswer⟩ := h.lookup_at
  rw [← hanswer]
  exact Store.lookup_of_expiresBy (hfirst.expiresBy hw hstart hmarks) (Nat.le_refl _)
    (hfirst.marking hw).online

/-- The exchanges of a delivery are acts of it. -/
theorem mem_exchangesOf {i : ι} {acts : List (Act ι)} {e : Exchange interface}
    (h : e ∈ exchangesOf i acts) : ∃ time, (⟨i, time, e⟩ : Act ι) ∈ acts := by
  obtain ⟨⟨j, time, e'⟩, ha, he⟩ := List.mem_filterMap.mp h
  rw [Option.ite_none_right_eq_some] at he
  obtain ⟨rfl, he⟩ := he
  obtain rfl := Option.some.inj he
  exact ⟨time, ha⟩

/-! ### Pushes and markers -/

/-- A delivery that stands at a push has looked for the marker of its job when each one that had
been written until then was past its time. -/
theorem Evolves.looked_before_push {start w : World ι} {acts : List (Act ι)}
    (h : Evolves start acts w) {i : ι} {c : Courier} {job : Job}
    (fresh : start.runs i = c.process job) (hstart : start.Marking (Guard.markerKey job.id))
    {r : Request} {next : r.Answer → Run interface (Except DeliveryError Unit × Job)}
    (asks : w.runs i = .ask r next) (push : r.isPush = true) :
    ∃ before time after,
      acts = before ++ ⟨i, time, ⟨.guard (.lookup (Guard.markerKey job.id)), .ok false⟩⟩ :: after ∧
      ∀ m ∈ before, m.Marks (Guard.markerKey job.id) → m.time + Guard.markerTtl ≤ time := by
  have hreaches := h.reaches i
  rw [asks, fresh] at hreaches
  obtain ⟨answer, hmem, hne⟩ := Delivery.looked_before_push hreaches push
  obtain ⟨time, hact⟩ := mem_exchangesOf hmem
  obtain ⟨before, after, rfl⟩ := List.append_of_mem hact
  obtain ⟨found, rfl⟩ := h.lookup_answered hstart
  obtain rfl : found = false := by
    cases found with
    | false => rfl
    | true => exact absurd rfl hne
  refine ⟨before, time, after, rfl, fun m hm marks => Nat.le_of_not_lt fun hlive => ?_⟩
  cases h.lookup_of_marked hstart hm marks hlive

/-- **Only overlapping deliveries of one job can both push.** Let any deliveries of any jobs
interleave over one store that is online. A delivery that stands at a push has looked for the marker
of its job before, and has not found it, at a time when each marker of the job that any delivery had
written until then was past its 24 hours. So a delivery that looks after another one has marked
their job pushes nothing, and of two that push each has looked before the other one marked it. -/
theorem push_after_markers {c : ι → Courier} {jobs : ι → Job} {start w : World ι}
    {acts : List (Act ι)} (fresh : start.runs = fun i => (c i).process (jobs i))
    (online : start.store.offline = false) (evolves : Evolves start acts w) {i : ι} {r : Request}
    {next : r.Answer → Run interface (Except DeliveryError Unit × Job)}
    (asks : w.runs i = .ask r next) (push : r.isPush = true) :
    ∃ before time after,
      acts = before ++
        ⟨i, time, ⟨.guard (.lookup (Guard.markerKey (jobs i).id)), .ok false⟩⟩ :: after ∧
      ∀ m ∈ before,
        m.exchange = ⟨.guard (.write (Guard.markerKey (jobs i).id) Guard.markerText
          Guard.markerTtl), .ok ()⟩ → m.time + Guard.markerTtl ≤ time := by
  have hmarking := World.marking_of_process fresh online (jobs i).id
  exact evolves.looked_before_push (congrFun fresh i) hmarking asks push

/-- Two deliveries of one job before their first step, over an empty store. -/
def twoCopies : World Bool := ⟨fun _ => ({} : Courier).process (plainJob ["a"]), {}, (0 : Nat)⟩

/-- The first acts of a delivery of the job, up to its push, when its user is counted. -/
def untilPush (i : Bool) (count : Nat) : List (Act Bool) :=
  [⟨i, (0 : Nat), ⟨.now, (0 : Nat)⟩⟩, ⟨i, (0 : Nat), ⟨.note .received, ()⟩⟩,
    ⟨i, (0 : Nat), ⟨.guard (.increment (Guard.counterKey "u1") (Duration.ofSeconds 60)),
      .ok count⟩⟩,
    ⟨i, (0 : Nat), ⟨.guard (.lookup (Guard.markerKey "n1")), .ok false⟩⟩,
    ⟨i, (0 : Nat), ⟨.permit, true⟩⟩]

/-- Both stand at a push. -/
theorem twoCopies_evolves : ∃ w, Evolves twoCopies (untilPush false 1 ++ untilPush true 2) w ∧
    ∀ i, ∃ next, w.runs i = .ask (.send "a" (.ofJob (plainJob ["a"]))) next := by
  have at_once : ∀ t : Instant, t ≤ t := Nat.le_refl
  refine ⟨_, .act rfl (at_once _) rfl (.act rfl (at_once _) rfl (.act rfl (at_once _) rfl
    (.act rfl (at_once _) rfl (.act rfl (at_once _) rfl (.act rfl (at_once _) rfl
    (.act rfl (at_once _) rfl (.act rfl (at_once _) rfl (.act rfl (at_once _) rfl
    (.act rfl (at_once _) rfl (.stop _)))))))))), ?_⟩
  intro i
  cases i with
  | false => exact ⟨_, rfl⟩
  | true => exact ⟨_, rfl⟩

/-- Deliveries of one job over an empty store can both push. -/
theorem twoCopies_both_push : ∃ acts w, Evolves twoCopies acts w ∧
    twoCopies.store.entries = [] ∧ twoCopies.store.offline = false ∧
    ∀ i, ∃ r next, w.runs i = .ask r next ∧ r.isPush = true := by
  obtain ⟨w, evolves, stand⟩ := twoCopies_evolves
  refine ⟨_, w, evolves, rfl, rfl, fun i => ?_⟩
  obtain ⟨next, asks⟩ := stand i
  exact ⟨_, next, asks, rfl⟩

/-- The second one has looked for the marker before the first one wrote it. -/
theorem push_after_markers_copy : ∃ before time after,
    untilPush false 1 ++ untilPush true 2 = before ++
      ⟨true, time, ⟨.guard (.lookup (Guard.markerKey "n1")), .ok false⟩⟩ :: after ∧
    ∀ m ∈ before,
      m.exchange = ⟨.guard (.write (Guard.markerKey "n1") Guard.markerText Guard.markerTtl),
        .ok ()⟩ → m.time + Guard.markerTtl ≤ time := by
  obtain ⟨w, evolves, stand⟩ := twoCopies_evolves
  obtain ⟨next, asks⟩ := stand true
  have push : (Request.send "a" (.ofJob (plainJob ["a"]))).isPush = true := rfl
  exact @push_after_markers Bool _ (fun _ => {}) (fun _ => plainJob ["a"]) twoCopies w _ rfl rfl
    evolves true _ next asks push

end PushDelivery.Delivery
