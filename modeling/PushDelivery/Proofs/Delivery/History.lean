import PushDelivery.Proofs.Delivery.Statistics

/-!
# Duplicates in a History

A history consists of numbered deliveries of any jobs over one store that is empty at first, with
other traffic of the guard beside them. This module shows when a delivery of it is taken for a
duplicate: exactly if another delivery of a job with the same id was not, has marked the job before,
and its marker is not past its time.

## What other traffic may do

It may use every key but that of the marker in question, whatever it counts or writes there. All
decisions of the guard do so, unless they mark the same job (`spares_checkRate`,
`spares_isDuplicate`, `spares_markProcessed`).

## Main definitions

* `beside`: the deliveries of a history before their first step, with other traffic.
* `Passes`: a delivery is past the rate limit and validation.
* `Sequential`: the deliveries are executed one after the other.

## Main results

* `Passes.looks`: a delivery that passes looks for the marker of its job, and is suppressed if and
  only if it finds one.
* `suppressed_iff_marked`: when a delivery is suppressed, and when it can push.
-/

namespace PushDelivery.Delivery

open Run (Exchange Exchanges Reaches OnlyAsks exchanges_ask_iff)

/-! ### The duplicate check -/

/-- The delivery has passed the rate limit, and its job is valid. -/
def Passes (c : Courier) (job : Job) (es : List (Exchange interface)) : Prop :=
  job.problem? = none ∧ ∃ started rate rest,
    es = ⟨.now, started⟩ :: ⟨.note .received, ()⟩ :: (rate ++ rest) ∧
      Exchanges (guarded (c.guard.checkRate job.userId)) rate .allowed

/-- A delivery that goes on from the rate limit to the lookup of a marker writes nothing before. -/
theorem exists_look {c : Courier} {job : Job} {started : Instant} {found : Bool}
    {rate look : List (Exchange interface)}
    (allowed : Exchanges (guarded (c.guard.checkRate job.userId)) rate .allowed)
    (looked : Exchanges (guarded (Guard.isDuplicate job.id)) look found)
    (more : List (Exchange interface)) :
    ∃ (first : List (Exchange interface)) (answer : Except GuardError Bool)
      (rest : List (Exchange interface)),
      ⟨.now, started⟩ :: ⟨.note .received, ()⟩ :: (rate ++ (look ++ more)) =
        first ++ ⟨.guard (.lookup (Guard.markerKey job.id)), answer⟩ :: rest ∧
      writes first = [] ∧ (found = true ↔ answer = .ok true) := by
  obtain ⟨answer, rest, rfl, hfound⟩ := exchanges_isDuplicate looked
  have inquires : Inquires [] (⟨.now, started⟩ :: ⟨.note .received, ()⟩ :: (rate ++ [])) :=
    .intro started (isInquiry_of_checkRate allowed)
  exact ⟨_, answer, rest ++ more, by simp, inquires.writes_eq_nil, hfound⟩

/-- A delivery that is suppressed reports nothing. -/
theorem Suppressed.not_reportsOnce {c : Courier} {job : Job} {es : List (Exchange interface)}
    {report : Report} (h : Suppressed c job es) : ¬ ReportsOnce job report es := fun once =>
  nomatch (publications_of_inChecks h.inChecks).symm.trans once.publications_eq

/-- A delivery that passes the rate limit and validation looks for the marker of its job before it
writes anything, and is suppressed if and only if it finds one. -/
theorem Passes.looks {c : Courier} {job : Job} {es : List (Exchange interface)}
    {res : Except DeliveryError Unit × Job} (passes : Passes c job es)
    (run : Exchanges (c.process job) es res) :
    ∃ (first : List (Exchange interface)) (answer : Except GuardError Bool)
      (rest : List (Exchange interface)),
      es = first ++ ⟨.guard (.lookup (Guard.markerKey job.id)), answer⟩ :: rest ∧
        writes first = [] ∧ (Suppressed c job es ↔ answer = .ok true) := by
  obtain ⟨valid, started, rate, rest, heq, allowed⟩ := passes
  rcases exchanges_process_iff.mp run with
    ⟨hs, -⟩ | ⟨checks, closing, _, _, _, rfl, hr, go⟩ | ⟨checks, closing, _, _, rfl, hc, go⟩
  · have suppressed := hs
    cases hs with
    | intro allowed valid known =>
        obtain ⟨first, answer, rest, heq, hwrites, hfound⟩ := exists_look allowed known _
        exact ⟨first, answer, rest, heq, hwrites, iff_of_true suppressed (hfound.mp rfl)⟩
  · obtain ⟨-, report, once, -⟩ := hr.describes go
    have unsuppressed : ¬ Suppressed c job (checks ++ closing) := fun hs => hs.not_reportsOnce once
    cases hr with
    | limited exceeded =>
        -- The same exchanges cannot both allow and exceed the rate.
        simp only [List.cons_append, List.append_assoc, List.cons.injEq, true_and] at heq
        cases (allowed.unique exceeded heq.2.symm).2
    | invalid _ invalid => exact nomatch valid.symm.trans invalid
    | unprepared allowed _ fresh _ =>
        obtain ⟨first, answer, rest, heq, hwrites, hfound⟩ := exists_look allowed fresh _
        refine ⟨first, answer, rest ++ closing, by rw [heq]; simp, hwrites, ?_⟩
        exact iff_of_false unsuppressed fun h => nomatch hfound.mpr h
  · have unsuppressed : ¬ Suppressed c job (checks ++ closing) := fun hs => by
      rcases hc.describes go with ⟨-, report, once, -⟩ | ⟨-, report, once, -⟩
      · exact hs.not_reportsOnce once
      · exact hs.not_reportsOnce once
    cases hc with
    | intro allowed _ fresh _ =>
        obtain ⟨first, answer, rest, heq, hwrites, hfound⟩ := exists_look allowed fresh _
        refine ⟨first, answer, rest ++ closing, by rw [heq]; simp, hwrites, ?_⟩
        exact iff_of_false unsuppressed fun h => nomatch hfound.mpr h

/-- Before a push, a delivery has written nothing. -/
theorem writes_before_push {c : Courier} {job : Job} {es : List (Exchange interface)} {r : Request}
    {next : r.Answer → Run interface (Except DeliveryError Unit × Job)}
    (go : Reaches (c.process job) es (.ask r next)) (push : r.isPush = true) : writes es = [] := by
  obtain ⟨rest, res, hrest, hrun⟩ := exists_ending go
  obtain ⟨answer, rest, rfl, -⟩ := exchanges_ask_iff.mp hrest
  rcases exchanges_process_cases hrun with hquiet | ⟨checks, rest', started, content, heq, hc, hd⟩
  · have hnot := hquiet ⟨r, answer⟩ (by simp)
    rw [push] at hnot
    cases hnot
  · obtain ⟨tries, result, progress, now, accepted, marks, dispatched, rfl, hm, -⟩ :=
      exchanges_deliver_iff.mp hd
    have htries := writes_of_inDispatch (exchanges_dispatch_iff.mp dispatched).inDispatch
    have hbefore : writes (checks ++ tries) = [] := by
      rw [writes_append, hc.inquires.writes_eq_nil, htries, List.append_nil]
    rw [← List.append_assoc] at heq
    -- The push is none of the exchanges after the attempts, so it comes before them.
    rcases List.append_eq_append_iff.mp heq with ⟨more, hmore, -⟩ | ⟨more, -, hmore⟩
    · rw [hmore, writes_append, List.append_eq_nil_iff] at hbefore
      exact hbefore.1
    · have hlast : ⟨r, answer⟩ ∈
          closing (dispatchReport job result progress now) started now accepted marks := by
        rw [hmore]
        simp
      have hnot := hm.closing_not_push _ started now accepted _ hlast
      rw [push] at hnot
      cases hnot

/-! ### Other traffic -/

/-- The rate limit changes no marker. -/
theorem spares_checkRate (g : Guard) (userId jobId : String) :
    OnlyAsks (Request.Spares (Guard.markerKey jobId)) (guarded (g.checkRate userId)) :=
  onlyAsks_checkRate (Request.spares_count _ _ _) (Request.spares_of_not_isUpdate rfl _)

/-- Looking for a marker changes none. -/
theorem spares_isDuplicate (otherId jobId : String) :
    OnlyAsks (Request.Spares (Guard.markerKey jobId)) (guarded (Guard.isDuplicate otherId)) :=
  onlyAsks_isDuplicate (Request.spares_of_not_isUpdate rfl _) (Request.spares_of_not_isUpdate rfl _)

/-- Marking a job changes no other marker. -/
theorem spares_markProcessed {otherId jobId : String} (h : otherId ≠ jobId) :
    OnlyAsks (Request.Spares (Guard.markerKey jobId)) (guarded (Guard.markProcessed otherId)) :=
  onlyAsks_markProcessed (Request.spares_mark h) (Request.spares_of_not_isUpdate rfl _)

/-- A delivery changes no marker but that of its own job. -/
theorem spares_process (c : Courier) {job : Job} {jobId : String} (h : job.id ≠ jobId) :
    OnlyAsks (Request.Spares (Guard.markerKey jobId)) (c.process job) :=
  onlyAsks_process c job (fun _ hr => Request.spares_of_not_isUpdate hr _)
    (Request.spares_count _ _ _) (Request.spares_mark h)

/-- Other traffic of the guard, as a delivery without a job. -/
def traffic {α : Type} (run : Run Guard.interface α) :
    Run interface (Except DeliveryError Unit × Job) :=
  guarded run >>= fun _ => .done (.ok (), default)

/-! ### Histories -/

variable {τ : Type} [DecidableEq τ] {α : τ → Type}

/-- Numbered deliveries before their first step, with other traffic of the guard, over an empty
store that is online. -/
def beside (c : ℕ → Courier) (jobs : ℕ → Job) (others : (x : τ) → Run Guard.interface (α x))
    (clock : Instant) : World (ℕ ⊕ τ) where
  runs := Sum.elim (fun k => (c k).process (jobs k)) fun x => traffic (others x)
  store := {}
  clock

/-- The deliveries are executed one after the other, in the order of their numbers. -/
def Sequential (acts : List (Act (ℕ ⊕ τ))) : Prop :=
  (acts.filterMap (·.run.getLeft?)).Pairwise (· ≤ ·)

omit [DecidableEq τ] in
instance (acts : List (Act (ℕ ⊕ τ))) : Decidable (Sequential acts) :=
  inferInstanceAs (Decidable (List.Pairwise _ _))

variable {c : ℕ → Courier} {jobs : ℕ → Job} {others : (x : τ) → Run Guard.interface (α x)}
  {clock : Instant} {acts : List (Act (ℕ ⊕ τ))} {w : World (ℕ ⊕ τ)} {jobId : String}

omit [DecidableEq τ] in
/-- The deliveries of a history and the other traffic change a marker only by writing it. -/
theorem marking_beside
    (apart : ∀ x, OnlyAsks (Request.Spares (Guard.markerKey jobId)) (guarded (others x))) :
    (beside c jobs others clock).Marking (Guard.markerKey jobId) := by
  refine ⟨fun i => ?_, rfl⟩
  cases i with
  | inl k => exact marksOnly_process (c k) (jobs k) jobId
  | inr x => exact ((apart x).mono fun _ => Or.inl).bind fun _ => trivial

/-- What marks a job in a history is one of the deliveries of the job. -/
theorem Evolves.marker_of (h : Evolves (beside c jobs others clock) acts w)
    (apart : ∀ x, OnlyAsks (Request.Spares (Guard.markerKey jobId)) (guarded (others x)))
    {m : Act (ℕ ⊕ τ)} (hm : m ∈ acts) (marks : m.Marks (Guard.markerKey jobId)) :
    ∃ j, m.run = .inl j ∧ (jobs j).id = jobId ∧ m.exchange ∈ exchangesOf (.inl j) acts := by
  have hmem : m.exchange ∈ exchangesOf m.run acts :=
    List.mem_filterMap.mpr ⟨m, hm, if_pos rfl⟩
  have hreaches := h.reaches m.run
  have hwrite : m.exchange.1 = .guard (.write (Guard.markerKey jobId) Guard.markerText
    Guard.markerTtl) := congrArg Sigma.fst marks
  cases hrun : m.run with
  | inl j =>
      rw [hrun] at hmem hreaches
      refine ⟨j, rfl, ?_, hmem⟩
      by_contra hid
      exact ((spares_process (c j) hid).of_reaches hreaches _ hmem).2 _ _ hwrite
  | inr x =>
      rw [hrun] at hmem hreaches
      have spares : OnlyAsks (Request.Spares (Guard.markerKey jobId)) (traffic (others x)) :=
        (apart x).bind fun _ => trivial
      exact absurd hwrite ((spares.of_reaches hreaches _ hmem).2 _ _)

/-- An exchange of a delivery is an act of it, after those of the exchanges before. -/
theorem exists_act_of_exchangesOf {ι : Type} [DecidableEq ι] {i : ι} {acts : List (Act ι)}
    {first rest : List (Exchange interface)} {e : Exchange interface}
    (h : exchangesOf i acts = first ++ e :: rest) :
    ∃ before time after, acts = before ++ ⟨i, time, e⟩ :: after ∧ exchangesOf i before = first := by
  obtain ⟨earlier, later, rfl, hfirst, hlater⟩ := List.filterMap_eq_append_iff.mp h
  obtain ⟨between, ⟨j, time, e'⟩, after, rfl, hbetween, he, -⟩ :=
    List.filterMap_eq_cons_iff.mp hlater
  rw [Option.ite_none_right_eq_some] at he
  obtain ⟨rfl, he⟩ := he
  obtain rfl := Option.some.inj he
  refine ⟨earlier ++ between, time, after, by rw [List.append_assoc], ?_⟩
  rw [exchangesOf, List.filterMap_append, List.filterMap_eq_nil_iff.mpr hbetween, List.append_nil]
  exact hfirst

/-- A write among the exchanges of a delivery is one of its writes. -/
theorem writes_ne_nil {es : List (Exchange interface)} {e : Exchange interface} (he : e ∈ es)
    (hwrite : e.1.isWrite = true) : writes es ≠ [] :=
  List.ne_nil_of_mem (List.mem_filter.mpr ⟨List.mem_map_of_mem he, hwrite⟩)

omit [DecidableEq τ] in
/-- An act that marks a job is a write. -/
theorem Act.Marks.isWrite {m : Act (ℕ ⊕ τ)} {key : String} (h : m.Marks key) :
    m.exchange.1.isWrite = true := by
  rw [h]
  rfl

/-- A delivery of a history that passes the rate limit and validation is suppressed if and only if
another delivery of a job with its id, which was not, has marked the job before its duplicate check,
and the marker is not past its time. -/
theorem Evolves.suppressed_iff (h : Evolves (beside c jobs others clock) acts w)
    (apart : ∀ x, OnlyAsks (Request.Spares (Guard.markerKey jobId)) (guarded (others x)))
    {k : ℕ} {res : Except DeliveryError Unit × Job} (hid : (jobs k).id = jobId)
    (ends : Exchanges ((c k).process (jobs k)) (exchangesOf (.inl k) acts) res)
    (passes : Passes (c k) (jobs k) (exchangesOf (.inl k) acts)) :
    ∃ before time found after,
      acts = before ++ ⟨.inl k, time, ⟨.guard (.lookup (Guard.markerKey jobId)), .ok found⟩⟩ ::
        after ∧
      (Suppressed (c k) (jobs k) (exchangesOf (.inl k) acts) ↔
        ∃ j, ∃ m ∈ before, m.run = .inl j ∧ j ≠ k ∧ (jobs j).id = jobId ∧
          ¬ Suppressed (c j) (jobs j) (exchangesOf (.inl j) acts) ∧
          m.Marks (Guard.markerKey jobId) ∧ time < m.time + Guard.markerTtl) := by
  subst hid
  have hmarking : (beside c jobs others clock).Marking (Guard.markerKey (jobs k).id) :=
    marking_beside apart
  obtain ⟨first, answer, rest, heq, hwrites, hsuppressed⟩ := passes.looks ends
  obtain ⟨before, time, after, rfl, rfl⟩ := exists_act_of_exchangesOf heq
  obtain ⟨found, rfl⟩ := h.lookup_answered hmarking
  refine ⟨before, time, found, after, rfl, hsuppressed.trans ⟨fun hfound => ?_, ?_⟩⟩
  · by_contra hnone
    have hunmarked : ∀ m ∈ before, m.Marks (Guard.markerKey (jobs k).id) →
        m.time + Guard.markerTtl ≤ time := by
      intro m hm marks
      obtain ⟨j, hrun, hid, hmem⟩ := h.marker_of apart (List.mem_append_left _ hm) marks
      refine Nat.le_of_not_lt fun hlive => hnone ⟨j, m, hm, hrun, ?_, hid, ?_, marks, hlive⟩
      · rintro rfl
        have hmine : m.exchange ∈ exchangesOf (.inl j) before :=
          List.mem_filterMap.mpr ⟨m, hm, if_pos hrun⟩
        exact writes_ne_nil hmine marks.isWrite hwrites
      · exact fun hs => writes_ne_nil hmem marks.isWrite hs.inquires.writes_eq_nil
    have hnot := h.lookup_of_unmarked hmarking (fun e he => nomatch he) hunmarked
    exact nomatch hfound.symm.trans hnot
  · rintro ⟨j, m, hm, -, -, -, -, marks, hlive⟩
    exact h.lookup_of_marked hmarking hm marks hlive

/-- If the deliveries of a history are executed one after the other, then none of them pushes while
a marker of its job is live. -/
theorem Evolves.push_sequential (h : Evolves (beside c jobs others clock) acts w)
    (apart : ∀ x, OnlyAsks (Request.Spares (Guard.markerKey jobId)) (guarded (others x)))
    (sequential : Sequential acts) {before after : List (Act (ℕ ⊕ τ))} {x m : Act (ℕ ⊕ τ)} {k : ℕ}
    (hacts : acts = before ++ x :: after) (hrun : x.run = .inl k) (hid : (jobs k).id = jobId)
    (push : x.exchange.1.isPush = true) (hm : m ∈ before)
    (marks : m.Marks (Guard.markerKey jobId)) : m.time + Guard.markerTtl ≤ x.time := by
  subst hid hacts
  have hmarking : (beside c jobs others clock).Marking (Guard.markerKey (jobs k).id) :=
    marking_beside apart
  obtain ⟨i, time, r, answer⟩ := x
  obtain rfl : i = .inl k := hrun
  obtain ⟨mid, next, store, hfirst, asks, hclock, -, -⟩ := h.act_at
  obtain ⟨earlier, looked, between, rfl, hmarks⟩ :=
    hfirst.looked_before_push rfl hmarking asks push
  have hlooked : looked ≤ time := Nat.le_trans (hfirst.le_clock _
    (List.mem_append_right _ List.mem_cons_self)) hclock
  rcases List.mem_append.mp hm with hm' | hm'
  · exact Nat.le_trans (hmarks m hm' marks) hlooked
  · rcases List.mem_cons.mp hm' with rfl | hm'
    · cases marks
    · -- Between the lookup and the push no other delivery has acted, and this one has not written.
      obtain ⟨j, hrun, -, hmem⟩ := hfirst.marker_of apart hm marks
      have hleft : m.run.getLeft? = some j := by rw [hrun]; rfl
      obtain ⟨hpast, -, hnow⟩ := List.pairwise_append.mp (List.pairwise_filterMap.mp sequential)
      have hle : j ≤ k := hnow m hm _ List.mem_cons_self j hleft k rfl
      have hge : k ≤ j :=
        (List.pairwise_cons.mp (List.pairwise_append.mp hpast).2.1).1 m hm' k rfl j hleft
      obtain rfl : j = k := Nat.le_antisymm hle hge
      have hreaches := hfirst.reaches (.inl j)
      rw [asks] at hreaches
      exact absurd (writes_before_push hreaches push) (writes_ne_nil hmem marks.isWrite)

/-- **When a delivery is taken for a duplicate.** Let any deliveries of any jobs act over a store
that is empty at first, at any times, beside other traffic that leaves the marker of an id alone. A
delivery of a job with this id that passes the rate limit and validation is suppressed if and only
if another delivery with this id, which was not suppressed itself, has marked the job less than 24
hours before its duplicate check. If the deliveries are executed one after the other, none of them
pushes while such a marker is live. -/
theorem suppressed_iff_marked (evolves : Evolves (beside c jobs others clock) acts w)
    (apart : ∀ x, OnlyAsks (Request.Spares (Guard.markerKey jobId)) (guarded (others x))) :
    (∀ k res, (jobs k).id = jobId →
      Exchanges ((c k).process (jobs k)) (exchangesOf (.inl k) acts) res →
      Passes (c k) (jobs k) (exchangesOf (.inl k) acts) →
      ∃ before time found after,
        acts = before ++ ⟨.inl k, time, ⟨.guard (.lookup (Guard.markerKey jobId)), .ok found⟩⟩ ::
          after ∧
        (Suppressed (c k) (jobs k) (exchangesOf (.inl k) acts) ↔
          ∃ j, ∃ m ∈ before, m.run = .inl j ∧ j ≠ k ∧ (jobs j).id = jobId ∧
            ¬ Suppressed (c j) (jobs j) (exchangesOf (.inl j) acts) ∧
            m.Marks (Guard.markerKey jobId) ∧ time < m.time + Guard.markerTtl)) ∧
    (Sequential acts → ∀ before x after k, acts = before ++ x :: after → x.run = .inl k →
      (jobs k).id = jobId → x.exchange.1.isPush = true →
      ∀ m ∈ before, m.Marks (Guard.markerKey jobId) → m.time + Guard.markerTtl ≤ x.time) := by
  refine ⟨fun k res hid ends passes => evolves.suppressed_iff apart hid ends passes, ?_⟩
  intro sequential before x after k hacts hrun hid push m hm marks
  exact evolves.push_sequential apart sequential hacts hrun hid push hm marks

/-- A courier that lets no job of any user pass. -/
def noQuota : Courier := { guard := { limit := 0 } }

/-- The report on a job that it refuses. -/
def quotaReport : Report :=
  Courier.report (plainJob ["a"]) .failed "Rate limit exceeded" []
    (some (.rateLimited "u1" 0)) (.ofInstant (0 : Nat))

/-- The delivery of such a job. -/
def quotaActs : List (Act Unit) :=
  [⟨(), (0 : Nat), ⟨.now, (0 : Nat)⟩⟩, ⟨(), (0 : Nat), ⟨.note .received, ()⟩⟩,
    ⟨(), (0 : Nat), ⟨.guard (.increment (Guard.counterKey "u1") (Duration.ofSeconds 60)),
      .ok (1 : Nat)⟩⟩,
    ⟨(), (0 : Nat), ⟨.note .rateLimited, ()⟩⟩, ⟨(), (0 : Nat), ⟨.now, (0 : Nat)⟩⟩,
    ⟨(), (0 : Nat), ⟨.note (.finished .failed (0 : Nat)), ()⟩⟩,
    ⟨(), (0 : Nat), ⟨.publish quotaReport, true⟩⟩,
    ⟨(), (0 : Nat), ⟨.guard (.write (Guard.markerKey "n1") Guard.markerText Guard.markerTtl),
      .ok ()⟩⟩]

/-- Three deliveries of one job, the first of them by a courier that lets no job pass. -/
def threeCouriers (k : ℕ) : Courier := if k = 0 then noQuota else {}

/-- The rate of another user is limited beside them. -/
def otherUser (_ : Unit) : Run Guard.interface Guard.Decision := ({} : Guard).checkRate "u2"

/-- The deliveries before their first step. -/
def threeDeliveries : World (ℕ ⊕ Unit) :=
  beside threeCouriers (fun _ => plainJob ["a"]) otherUser (0 : Nat)

/-- The first delivery is refused and marks the job; then the other user is counted. -/
def firstDay : List (Act (ℕ ⊕ Unit)) :=
  quotaActs.map (fun a => ⟨.inl 0, a.time, a.exchange⟩) ++
    [⟨.inr (), (0 : Nat),
      ⟨.guard (.increment (Guard.counterKey "u2") (Duration.ofSeconds 60)), .ok (1 : Nat)⟩⟩]

/-- The second delivery, one hour later, finds the marker. -/
def afterOneHour : List (Act (ℕ ⊕ Unit)) :=
  [⟨.inl 1, Duration.ofSeconds 3600, ⟨.now, Duration.ofSeconds 3600⟩⟩,
    ⟨.inl 1, Duration.ofSeconds 3600, ⟨.note .received, ()⟩⟩,
    ⟨.inl 1, Duration.ofSeconds 3600,
      ⟨.guard (.increment (Guard.counterKey "u1") (Duration.ofSeconds 60)), .ok (1 : Nat)⟩⟩,
    ⟨.inl 1, Duration.ofSeconds 3600, ⟨.guard (.lookup (Guard.markerKey "n1")), .ok true⟩⟩,
    ⟨.inl 1, Duration.ofSeconds 3600, ⟨.note .duplicate, ()⟩⟩]

/-- The third delivery, on the next day, does not find it and pushes. -/
def nextDay : List (Act (ℕ ⊕ Unit)) :=
  [⟨.inl 2, Duration.ofSeconds 90000, ⟨.now, Duration.ofSeconds 90000⟩⟩,
    ⟨.inl 2, Duration.ofSeconds 90000, ⟨.note .received, ()⟩⟩,
    ⟨.inl 2, Duration.ofSeconds 90000,
      ⟨.guard (.increment (Guard.counterKey "u1") (Duration.ofSeconds 60)), .ok (1 : Nat)⟩⟩,
    ⟨.inl 2, Duration.ofSeconds 90000, ⟨.guard (.lookup (Guard.markerKey "n1")), .ok false⟩⟩,
    ⟨.inl 2, Duration.ofSeconds 90000, ⟨.permit, true⟩⟩,
    ⟨.inl 2, Duration.ofSeconds 90000, ⟨.send "a" (.ofJob (plainJob ["a"])), .error .timeout⟩⟩]

/-- These are acts of the deliveries over one store. -/
theorem threeDeliveries_evolves :
    ∃ w, Evolves threeDeliveries (firstDay ++ afterOneHour ++ nextDay) w := by
  have at_once : ∀ t : Instant, t ≤ t := Nat.le_refl
  have later : ∀ t : Instant, (0 : Nat) ≤ t := Nat.zero_le
  exact ⟨_, .act rfl (at_once _) rfl (.act rfl (at_once _) rfl (.act rfl (at_once _) rfl
    (.act rfl (at_once _) rfl (.act rfl (at_once _) rfl (.act rfl (at_once _) rfl
    (.act rfl (at_once _) rfl (.act rfl (at_once _) rfl (.act rfl (at_once _) rfl
    (.act rfl (later _) rfl (.act rfl (at_once _) rfl (.act rfl (at_once _) rfl
    (.act rfl (at_once _) rfl (.act rfl (at_once _) rfl
    (.act rfl (by decide) rfl (.act rfl (at_once _) rfl (.act rfl (at_once _) rfl
    (.act rfl (at_once _) rfl (.act rfl (at_once _) rfl (.act rfl (at_once _) rfl
    (.stop _))))))))))))))))))))⟩

/-- The second delivery is suppressed since the first one was not, and the third one pushes when its
marker is past its time. -/
theorem suppressed_iff_marked_threeDeliveries :
    ∃ w, Evolves threeDeliveries (firstDay ++ afterOneHour ++ nextDay) w ∧
      (∃ j, j ≠ 1 ∧ ¬ Suppressed (threeCouriers j) (plainJob ["a"])
        (exchangesOf (.inl j) (firstDay ++ afterOneHour ++ nextDay))) ∧
      ∀ m ∈ firstDay, m.Marks (Guard.markerKey "n1") →
        m.time + Guard.markerTtl ≤ Duration.ofSeconds 90000 := by
  obtain ⟨w, evolves⟩ := threeDeliveries_evolves
  have apart : ∀ x, OnlyAsks (Request.Spares (Guard.markerKey "n1")) (guarded (otherUser x)) :=
    fun _ => spares_checkRate {} "u2" "n1"
  have allowed : Exchanges (guarded (({} : Guard).checkRate "u1"))
      [⟨.guard (.increment (Guard.counterKey "u1") (Duration.ofSeconds 60)), .ok (1 : Nat)⟩]
      .allowed := .ask (.done _)
  have known : Exchanges (guarded (Guard.isDuplicate "n1"))
      [⟨.guard (.lookup (Guard.markerKey "n1")), .ok true⟩] true := .ask (.done _)
  have suppressed : Suppressed (threeCouriers 1) (plainJob ["a"])
      (exchangesOf (.inl 1) (firstDay ++ afterOneHour ++ nextDay)) :=
    @Suppressed.intro (threeCouriers 1) (plainJob ["a"]) _ _ _ allowed (by decide) known
  have ends := Run.reaches_done_iff.mp suppressed.reaches
  have passes : Passes (threeCouriers 1) (plainJob ["a"])
      (exchangesOf (.inl 1) (firstDay ++ afterOneHour ++ nextDay)) :=
    ⟨by decide, _, _, _, rfl, allowed⟩
  have sequential : Sequential (firstDay ++ afterOneHour ++ nextDay) := by decide
  obtain ⟨duplicates, pushes⟩ := suppressed_iff_marked evolves apart
  obtain ⟨_, _, _, _, -, found⟩ := duplicates 1 _ rfl ends passes
  obtain ⟨j, _, -, -, hne, -, hnot, -⟩ := found.mp suppressed
  refine ⟨w, evolves, ⟨j, hne, hnot⟩, fun m hm marks => ?_⟩
  exact pushes sequential (firstDay ++ afterOneHour ++ nextDay.take 5) _ [] 2 rfl rfl rfl rfl m
    (List.mem_append_left _ (List.mem_append_left _ hm)) marks

end PushDelivery.Delivery
