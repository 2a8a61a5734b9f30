import PushDelivery.Proofs.Transport.LostReports

/-!
# Messages That Come Again

A message that comes again finds the marker of its job, if the job was completed less than 24 hours
before. But a delivery looks for the marker only after the rate limit and validation. So the marker
silences every delivery that passes these two, and none that does not: a job that was reported as
delivered can be reported as failed when its message comes again, and dead-lettered.

## Main definitions

* `Redelivered`: what a delivery comes to that finds a marker, if it gets to look for one.
* `StartsMarked`: there is a live marker when a delivery begins.

## Main results

* `redelivered_of_found`: a delivery that finds a marker whenever it looks for one is `Redelivered`.
* `redelivered_of_startsMarked`: so is a delivery that begins with a live marker in any history, if
  the marker is live until its duplicate check.
* `redelivery_reported`: a history of deliveries that begin with a live marker and make a report.
-/

namespace PushDelivery

namespace Transport

/-- Whether a request publishes a message. -/
def Request.publishes : Request → Bool
  | .publishOver .. => true
  | _ => false

end Transport

namespace Delivery

open Run (Exchange Exchanges OnlyAsks Performs exchanges_ask_iff exchanges_done_iff
  exchanges_within_iff)

/-! ### Deliveries that find a marker -/

/-- Why a delivery is refused before it looks for a marker: the user has made more requests than
the limit, or the job is not valid. -/
def RefusedEarly (c : Courier) (job : Job) (es : List (Exchange interface))
    (error : DeliveryError) : Prop :=
  (∃ count : Nat,
    ⟨.guard (.increment (Guard.counterKey job.userId) c.guard.window), .ok count⟩ ∈ es ∧
    c.guard.limit < count ∧ error = .rateLimited job.userId c.guard.limit) ∨
  ∃ problem, job.problem? = some problem ∧ error = .validation problem

/-- What a delivery comes to that finds a marker, if it gets to look for one. -/
structure Redelivered (c : Courier) (job : Job) (es : List (Exchange interface))
    (res : Except DeliveryError Unit × Job) : Prop where
  /-- Nothing is pushed. -/
  unpushed : ∀ e ∈ es, e.1.isPush = false
  /-- Past the rate limit and validation it ends in silence, and without an error. -/
  silent : Passes c job es →
    res = (.ok (), job) ∧ publications es = [] ∧ writes es = []
  /-- Else it fails for that reason, with one report that says so. -/
  refused : ¬ Passes c job es → ∃ error report, RefusedEarly c job es error ∧
    res = (.error error, job) ∧ ReportsOnce job report es ∧ report.status = .failed ∧
    report.sentCount = 0
  /-- The message of a delivery that ends in silence is acknowledged, and nothing is published for
  it on any queue. -/
  acknowledged : Passes c job es → ∀ (t : Topology) (h : Handout) (now : Instant)
    (work rest : List (Exchange Transport.interface)),
    Transport.job? h.body (.ofInstant now) = some job → Performs (Transport.carryOut t) es work →
    Exchanges (Transport.settle t c.process h)
      (⟨.note .received, ()⟩ :: ⟨.delivery .now, now⟩ :: (work ++ rest)) () →
    (∃ answer, rest = [⟨.note .completed, ()⟩, ⟨.acknowledge h, answer⟩]) ∧
      ∀ e ∈ work ++ rest, e.1.publishes = false

/-- The rate of a user is exceeded by a count that is over the limit of the guard. -/
theorem exchanges_checkRate_exceeded {g : Guard} {userId : String}
    {es : List (Exchange interface)} {count limit : Nat}
    (h : Exchanges (guarded (g.checkRate userId)) es (.exceeded count limit)) :
    es = [⟨.guard (.increment (Guard.counterKey userId) g.window), .ok count⟩] ∧
      limit = g.limit ∧ g.limit < count := by
  obtain ⟨answer, rest, rfl, go⟩ := exchanges_ask_iff.mp h
  cases answer with
  | ok counted =>
      obtain ⟨rfl, hdecision⟩ := exchanges_done_iff.mp go
      by_cases hover : g.limit < counted
      · rw [if_pos hover] at hdecision
        cases hdecision
        exact ⟨rfl, rfl, hover⟩
      · rw [if_neg hover] at hdecision
        cases hdecision
  | error =>
      obtain ⟨_, _, -, go⟩ := exchanges_ask_iff.mp go
      cases (exchanges_done_iff.mp go).2

/-- A delivery that is suppressed has passed the rate limit and validation. -/
theorem Suppressed.passes {c : Courier} {job : Job} {es : List (Exchange interface)}
    (h : Suppressed c job es) : Passes c job es := by
  cases h with
  | intro allowed valid known => exact ⟨valid, _, _, _, rfl, allowed⟩

/-- A delivery that is refused without having looked for a marker has not passed the rate limit and
validation. One that looked has not found it. -/
theorem Refused.early_or_looked {c : Courier} {job : Job} {checks : List (Exchange interface)}
    {started : Instant} {message : String} {error : DeliveryError}
    (h : Refused c job checks started message error) :
    (∀ rest, RefusedEarly c job (checks ++ rest) error ∧ ¬ Passes c job (checks ++ rest)) ∨
      ∃ answer, ⟨.guard (.lookup (Guard.markerKey job.id)), answer⟩ ∈ checks ∧
        answer ≠ .ok true := by
  cases h with
  | limited exceeded =>
      obtain ⟨rfl, rfl, hover⟩ := exchanges_checkRate_exceeded exceeded
      refine .inl fun rest => ⟨.inl ⟨_, by simp, hover, rfl⟩, ?_⟩
      rintro ⟨-, started', rate', rest', heq, allowed⟩
      -- The same exchanges cannot both allow and exceed the rate.
      simp only [List.cons_append, List.append_assoc, List.cons.injEq, true_and] at heq
      cases (exceeded.unique allowed heq.2).2
  | @invalid _ _ problem _ invalid =>
      refine .inl fun rest => ⟨.inr ⟨problem, invalid, rfl⟩, ?_⟩
      rintro ⟨valid, -⟩
      exact nomatch invalid.symm.trans valid
  | unprepared _ _ fresh _ =>
      obtain ⟨answer, more, rfl, hfound⟩ := exchanges_isDuplicate fresh
      exact .inr ⟨answer, by simp, fun known => nomatch hfound.mpr known⟩

/-- A delivery that finds a marker whenever it looks for one is suppressed or refused early. -/
theorem suppressed_or_refused {c : Courier} {job : Job} {es : List (Exchange interface)}
    {res : Except DeliveryError Unit × Job} (run : Exchanges (c.process job) es res)
    (found : ∀ answer, (⟨.guard (.lookup (Guard.markerKey job.id)), answer⟩ :
      Exchange interface) ∈ es → answer = .ok true) :
    (Suppressed c job es ∧ res = (.ok (), job)) ∨
      ¬ Passes c job es ∧ ∃ error report, RefusedEarly c job es error ∧ res = (.error error, job) ∧
        ReportsOnce job report es ∧ report.status = .failed ∧ report.sentCount = 0 := by
  rcases exchanges_process_iff.mp run with
    hs | ⟨checks, rest, started, message, error, rfl, hr, go⟩ |
      ⟨checks, rest, started, content, rfl, hc, -⟩
  · exact .inl hs
  · rcases hr.early_or_looked with early | ⟨answer, looked, hne⟩
    · obtain ⟨-, report, once, hstatus, hsent⟩ := hr.describes go
      obtain ⟨_, _, _, -, -, rfl⟩ := exchanges_refuse_iff.mp go
      obtain ⟨hearly, notPasses⟩ := early rest
      exact .inr ⟨notPasses, error, report, hearly, rfl, once, hstatus, hsent⟩
    · exact absurd (found answer (List.mem_append_left _ looked)) hne
  · obtain ⟨answer, looked, hne⟩ := hc.looked
    exact absurd (found answer (List.mem_append_left _ looked)) hne

end Delivery

namespace Transport

open Run (Exchange Exchanges Performs exchanges_within_iff)

/-- Exchanges without a report are carried out without a publication. -/
theorem not_publishes_of_performs {t : Topology} {outer : List (Exchange Delivery.interface)}
    {es : List (Exchange interface)} (performs : Performs (carryOut t) outer es)
    (silent : Delivery.publications outer = []) : ∀ e ∈ es, e.1.publishes = false := by
  intro e he
  obtain ⟨⟨r, answer⟩, hmem, stretch, hstretch, he⟩ := performs.exists_stretch he
  have hne : ∀ report, r ≠ .publish report := by
    rintro report rfl
    exact Delivery.publications_ne_nil hmem silent
  obtain rfl := (exchanges_carryOut_iff hne).mp hstretch
  obtain rfl := List.mem_singleton.mp he
  rfl

/-- What is left of settling a message whose handler was content. -/
theorem exchanges_settle_ok {t : Topology} {handler : Handler} {h : Handout} {now : Instant}
    {job handled : Job} {work rest : List (Exchange interface)}
    (spells : job? h.body (.ofInstant now) = some job)
    (handles : Exchanges (carry t (handler job)) work (.ok (), handled))
    (settled : Exchanges (settle t handler h)
      (⟨.note .received, ()⟩ :: ⟨.delivery .now, now⟩ :: (work ++ rest)) ()) :
    ∃ answer, rest = [⟨.note .completed, ()⟩, ⟨.acknowledge h, answer⟩] := by
  generalize hes : (⟨.note .received, ()⟩ :: ⟨.delivery .now, now⟩ :: (work ++ rest) :
    List (Exchange interface)) = es at settled
  cases exchanges_settle_iff_settled.mp settled with
  | malformed spells' =>
      obtain ⟨hnow, -⟩ := List.cons.inj (List.cons.inj hes).2
      cases hnow
      exact nomatch spells.symm.trans spells'
  | @completed now' job' handled' work' answer spells' handles' =>
      obtain ⟨hnow, hwork⟩ := List.cons.inj (List.cons.inj hes).2
      cases hnow
      obtain rfl := Option.some.inj (spells.symm.trans spells')
      obtain ⟨rfl, -⟩ := handles.unique handles' hwork
      exact ⟨answer, List.append_cancel_left hwork⟩
  | failed spells' fails' _ =>
      obtain ⟨hnow, hwork⟩ := List.cons.inj (List.cons.inj hes).2
      cases hnow
      obtain rfl := Option.some.inj (spells.symm.trans spells')
      exact nomatch (handles.unique fails' hwork).2

end Transport

namespace Delivery

open Run (Exchange Exchanges Reaches OnlyAsks Performs exchanges_within_iff)

/-- A delivery that finds a marker whenever it looks for one ends as `Redelivered` says. -/
theorem redelivered_of_found {c : Courier} {job : Job} {es : List (Exchange interface)}
    {res : Except DeliveryError Unit × Job} (run : Exchanges (c.process job) es res)
    (found : ∀ answer, (⟨.guard (.lookup (Guard.markerKey job.id)), answer⟩ :
      Exchange interface) ∈ es → answer = .ok true) : Redelivered c job es res := by
  have unpushed : ∀ e ∈ es, e.1.isPush = false := by
    rcases exchanges_process_cases run with hquiet | ⟨checks, rest, _, _, rfl, hc, -⟩
    · exact hquiet
    · obtain ⟨answer, looked, hne⟩ := hc.looked
      exact absurd (found answer (List.mem_append_left _ looked)) hne
  rcases suppressed_or_refused run found with ⟨hs, rfl⟩ | ⟨notPasses, hrefused⟩
  · have hsilent := publications_of_inChecks hs.inChecks
    refine ⟨unpushed, fun _ => ⟨rfl, hsilent, hs.inquires.writes_eq_nil⟩,
      fun notPasses => absurd hs.passes notPasses, ?_⟩
    intro _ t h now work rest spells performs settled
    have handles : Exchanges (Transport.carry t (c.process job)) work (.ok (), job) :=
      exchanges_within_iff.mpr ⟨es, run, performs⟩
    obtain ⟨answer, rfl⟩ := Transport.exchanges_settle_ok spells handles settled
    refine ⟨⟨answer, rfl⟩, fun e he => ?_⟩
    rcases List.mem_append.mp he with he | he
    · exact Transport.not_publishes_of_performs performs hsilent e he
    · rcases List.mem_cons.mp he with rfl | he
      · rfl
      · obtain rfl := List.mem_singleton.mp he
        rfl
  · exact ⟨unpushed, fun passes => absurd passes notPasses, fun _ => hrefused,
      fun passes => absurd passes notPasses⟩

/-! ### Live markers in a history -/

variable {τ : Type} [DecidableEq τ] {α : τ → Type} {c : ℕ → Courier} {jobs : ℕ → Job}
  {others : (x : τ) → Run Guard.interface (α x)} {clock : Instant} {store : Store}
  {acts : List (Act (ℕ ⊕ τ))} {w : World (ℕ ⊕ τ)} {jobId : String}

/-- When a delivery begins, a key is live until an instant at most 24 hours ahead. -/
def StartsMarked (start : World (ℕ ⊕ τ)) (acts : List (Act (ℕ ⊕ τ))) (k : ℕ) (key : String)
    (till : Instant) : Prop :=
  ∃ before x after mid w, acts = before ++ x :: after ∧ x.run = .inl k ∧
    exchangesOf (.inl k) before = [] ∧ Evolves start before mid ∧ Evolves mid (x :: after) w ∧
    mid.store.LiveUntil key till ∧ x.time < till ∧ till ≤ mid.clock + Guard.markerTtl

/-- A delivery looks for a key only before an instant. -/
def LooksBefore (acts : List (Act (ℕ ⊕ τ))) (k : ℕ) (key : String) (till : Instant) : Prop :=
  ∀ x ∈ acts, x.run = .inl k → x.exchange.1 = .guard (.lookup key) → x.time < till

/-- A delivery that begins after another one has marked its job begins with a live marker, if that
is not past its time. -/
theorem Evolves.startsMarked {start : World (ℕ ⊕ τ)} {key : String} {k : ℕ}
    {before after : List (Act (ℕ ⊕ τ))} {x m : Act (ℕ ⊕ τ)} (h : Evolves start acts w)
    (hstart : start.Marking key) (hacts : acts = before ++ x :: after) (hx : x.run = .inl k)
    (fresh : exchangesOf (.inl k) before = []) (hm : m ∈ before) (marks : m.Marks key)
    (hlive : x.time < m.time + Guard.markerTtl) :
    StartsMarked start acts k key (m.time + Guard.markerTtl) := by
  subst hacts
  obtain ⟨i, time, ⟨r, answer⟩⟩ := x
  obtain ⟨mid, next, store, hfirst, asks, hclock, served, hrest⟩ := h.act_at
  exact ⟨before, _, after, mid, w, rfl, hx, fresh, hfirst, .act asks hclock served hrest,
    hfirst.liveUntil_of_marked hstart hm marks (Nat.lt_of_le_of_lt hclock hlive), hlive,
    Nat.add_le_add_right (hfirst.le_clock m hm) _⟩

/-- A delivery that finds a marker at its beginning and looks for it in time is redelivered. -/
theorem StartsMarked.redelivered {till : Instant} {k : ℕ} {res : Except DeliveryError Unit × Job}
    {start : World (ℕ ⊕ τ)}
    (h : StartsMarked start acts k (Guard.markerKey (jobs k).id) till)
    (hstart : start.Marking (Guard.markerKey (jobs k).id))
    (looks : LooksBefore acts k (Guard.markerKey (jobs k).id) till)
    (ends : Exchanges ((c k).process (jobs k)) (exchangesOf (.inl k) acts) res) :
    Redelivered (c k) (jobs k) (exchangesOf (.inl k) acts) res := by
  obtain ⟨before, x, after, mid, w, rfl, -, fresh, hfirst, hrest, hlive, -, htill⟩ := h
  refine redelivered_of_found ends fun answer hmem => ?_
  obtain ⟨time, hact⟩ := mem_exchangesOf hmem
  have hlater : ⟨.inl k, time, ⟨.guard (.lookup (Guard.markerKey (jobs k).id)), answer⟩⟩ ∈
      x :: after := by
    rcases List.mem_append.mp hact with hearlier | hlater
    · have hnone : (⟨.guard (.lookup (Guard.markerKey (jobs k).id)), answer⟩ :
          Exchange interface) ∈ exchangesOf (.inl k) before :=
        List.mem_filterMap.mpr ⟨_, hearlier, if_pos rfl⟩
      rw [fresh] at hnone
      cases hnone
    · exact hlater
  have hintime : time < till := looks _ hact rfl rfl
  obtain ⟨early, late, heq⟩ := List.append_of_mem hlater
  rw [heq] at hrest
  obtain ⟨mid', hearly, hclock, hanswer⟩ := hrest.lookup_at
  have hmarking := hfirst.marking hstart
  have hkept := hearly.liveUntil hmarking hlive htill (Nat.lt_of_le_of_lt hclock hintime)
  rw [← hanswer]
  exact Store.lookup_of_liveUntil hkept hintime (hearly.marking hmarking).online

omit [DecidableEq τ] in
/-- If deliveries are executed one after the other, what one of them does comes before what a later
one does. -/
theorem Sequential.mem_before {j k : ℕ} (h : Sequential acts) (hjk : j < k)
    {before after : List (Act (ℕ ⊕ τ))} {x m : Act (ℕ ⊕ τ)} (hacts : acts = before ++ x :: after)
    (hx : x.run = .inl k) (hm : m ∈ acts) (hrun : m.run = .inl j) : m ∈ before := by
  subst hacts
  have hx' : x.run.getLeft? = some k := by rw [hx]; rfl
  have hm' : m.run.getLeft? = some j := by rw [hrun]; rfl
  rcases List.mem_append.mp hm with hm | hm
  · exact hm
  · rcases List.mem_cons.mp hm with rfl | hm
    · have hsame : j = k := Option.some.inj (hm'.symm.trans hx')
      omega
    · have hpairs := (List.pairwise_append.mp (List.pairwise_filterMap.mp h)).2.1
      have hle : k ≤ j := (List.pairwise_cons.mp hpairs).1 m hm k hx' j hm'
      omega

/-- **What becomes of a message that comes again.** Let any deliveries of any jobs act over a store
that is online, beside other traffic that leaves the marker of an id alone. A delivery of a job with
this id that begins with a live marker, which is live still if it gets to its duplicate check, ends
in silence unless the rate limit or validation refuses it before. Then it makes one report of this
failure, and nothing else is sent. If the deliveries are executed one after the other, this is so
for every delivery after one that marked the job, as long as the marker is not past its 24 hours. -/
theorem redelivered_of_startsMarked (online : store.offline = false)
    (apart : ∀ x, OnlyAsks (Request.Spares (Guard.markerKey jobId)) (guarded (others x)))
    {k : ℕ} {res : Except DeliveryError Unit × Job} (hid : (jobs k).id = jobId)
    (ends : Exchanges ((c k).process (jobs k)) (exchangesOf (.inl k) acts) res) :
    (∀ till, StartsMarked { beside c jobs others clock with store } acts k
        (Guard.markerKey jobId) till → LooksBefore acts k (Guard.markerKey jobId) till →
      Redelivered (c k) (jobs k) (exchangesOf (.inl k) acts) res) ∧
    ∀ w, Evolves { beside c jobs others clock with store } acts w → Sequential acts →
      ∀ j < k, ∀ m ∈ acts, m.run = .inl j → m.Marks (Guard.markerKey jobId) →
        LooksBefore acts k (Guard.markerKey jobId) (m.time + Guard.markerTtl) →
        Redelivered (c k) (jobs k) (exchangesOf (.inl k) acts) res := by
  subst hid
  have hmarking : World.Marking { beside c jobs others clock with store }
      (Guard.markerKey (jobs k).id) :=
      ⟨(@marking_beside _ _ c jobs others clock _ apart).marks, online⟩
  constructor
  · intro till marked looks
    exact marked.redelivered hmarking looks ends
  · intro w evolves sequential j hjk m hm hrun marks looks
    refine redelivered_of_found ends fun answer hmem => ?_
    obtain ⟨time, hact⟩ := mem_exchangesOf hmem
    obtain ⟨before, after, rfl⟩ := List.append_of_mem hact
    have hbefore := sequential.mem_before hjk rfl rfl hm hrun
    exact evolves.lookup_of_marked hmarking hbefore marks (looks _ hact rfl rfl)

/-! ### Deliveries that are not silent -/

/-- A delivery makes some exchanges at one time, alone. -/
def solo {ι : Type} (i : ι) (time : Instant) (es : List (Exchange interface)) : List (Act ι) :=
  es.map fun e => ⟨i, time, e⟩

/-- Exchanges at one time are answered by a store, one after the other. -/
def ServesAll (time : Instant) : Store → List (Exchange interface) → Store → Prop
  | s, [], s' => s' = s
  | s, e :: es, s' => ∃ mid, Serves s time e mid ∧ ServesAll time mid es s'

/-- Deliveries have come from one world to another, and it is not later than some time. -/
def ComesTo {ι : Type} [DecidableEq ι] (start : World ι) (acts : List (Act ι))
    (runs : ι → Run interface (Except DeliveryError Unit × Job)) (s : Store) (time : Instant) :
    Prop :=
  ∃ clock, clock ≤ time ∧ Evolves start acts ⟨runs, s, clock⟩

/-- One of them goes on alone, if the store answers it. -/
theorem ComesTo.solo {ι : Type} [DecidableEq ι] {start : World ι} {acts : List (Act ι)}
    {runs : ι → Run interface (Except DeliveryError Unit × Job)} {s : Store} {past : Instant}
    (h : ComesTo start acts runs s past) (i : ι) (time : Instant) (s' : Store)
    {es : List (Exchange interface)}
    {left : Run interface (Except DeliveryError Unit × Job)} (reaches : Reaches (runs i) es left)
    (later : past ≤ time) (serves : ServesAll time s es s') :
    ComesTo start (acts ++ Delivery.solo i time es) (Function.update runs i left) s' time := by
  generalize hrun : runs i = run at reaches
  induction reaches generalizing acts runs s past with
  | here run =>
      obtain ⟨clock, hclock, evolves⟩ := h
      obtain rfl : s' = s := serves
      subst hrun
      rw [Function.update_eq_self, Delivery.solo, List.map_nil, List.append_nil]
      exact ⟨clock, Nat.le_trans hclock later, evolves⟩
  | @ask r next answer rest left go ih =>
      obtain ⟨clock, hclock, evolves⟩ := h
      obtain ⟨mid, hserves, hmore⟩ := serves
      have acted : Evolves ⟨runs, s, clock⟩ [⟨i, time, ⟨r, answer⟩⟩]
          ⟨Function.update runs i (next answer), mid, time⟩ :=
        .act hrun (Nat.le_trans hclock later) hserves (.stop _)
      have hnext : Function.update runs i (next answer) i = next answer := Function.update_self ..
      obtain ⟨clock', hclock', more⟩ := ih ⟨time, Nat.le_refl _, evolves.trans acted⟩
        (Nat.le_refl _) hmore hnext
      rw [Function.update_idem, List.append_assoc] at more
      exact ⟨clock', hclock', more⟩

/-- A courier that lets one job of a user pass in a minute. -/
def scantQuota : Courier := { guard := { limit := 1 } }

/-- A job that comes again and again, once without its devices. -/
def comingAgain (k : ℕ) : Job := if k = 2 then plainJob [] else plainJob ["a"]

/-- Its deliveries before their first step. -/
def redeliveries : World (ℕ ⊕ Unit) :=
  beside (fun _ => scantQuota) comingAgain otherUser (0 : Nat)

/-- A delivery begins, and its user is counted. -/
def counted (now : Instant) (count : Nat) : List (Exchange interface) :=
  [⟨.now, now⟩, ⟨.note .received, ()⟩,
    ⟨.guard (.increment (Guard.counterKey "u1") (Duration.ofSeconds 60)), .ok count⟩]

/-- The second delivery, ten seconds after the first one, is past the limit. -/
def limitedAgain : List (Exchange interface) :=
  let now := Duration.ofSeconds 10
  let report := Courier.report (plainJob ["a"]) .failed "Rate limit exceeded" []
    (some (.rateLimited "u1" 1)) (.ofInstant now)
  counted now 2 ++ ⟨.note .rateLimited, ()⟩ ::
    closing report now now true [⟨markerWrite (plainJob ["a"]), .ok ()⟩]

/-- The third delivery, one hour after the first one, is that of a job without devices. -/
def invalidAgain : List (Exchange interface) :=
  let now := Duration.ofSeconds 3600
  let report := Courier.report (plainJob []) .failed
    ("Validation failed: " ++ Job.Problem.noDeviceTokens.message) []
    (some (.validation .noDeviceTokens)) (.ofInstant now)
  counted now 1 ++ closing report now now true [⟨markerWrite (plainJob []), .ok ()⟩]

/-- The fourth delivery, two hours after the first one, finds the marker. -/
def silentAgain : List (Exchange interface) :=
  counted (Duration.ofSeconds 7200) 1 ++
    [⟨.guard (.lookup (Guard.markerKey "n1")), .ok true⟩, ⟨.note .duplicate, ()⟩]

/-- The fifth delivery begins one second before the marker of the third one is past its time, and
looks for it one second after that. -/
def lateAgain : List (Exchange interface) :=
  let now := Duration.ofSeconds 90001
  [⟨.guard (.lookup (Guard.markerKey "n1")), .ok false⟩, ⟨.permit, true⟩,
    ⟨.send "a" (.ofJob (plainJob ["a"])), .ok (.delivered "a" "m1" default)⟩,
    ⟨.note (.sent 1 0), ()⟩, ⟨.settle true, ()⟩] ++
  closing (reachedReport now) (Duration.ofSeconds 89999) now true
    [⟨markerWrite (plainJob ["a"]), .ok ()⟩]

/-- The deliveries, one after the other. -/
def redeliveryActs : List (Act (ℕ ⊕ Unit)) :=
  solo (.inl 0) (0 : Nat) (reachedOnce true) ++
    solo (.inl 1) (Duration.ofSeconds 10) limitedAgain ++
    solo (.inl 2) (Duration.ofSeconds 3600) invalidAgain ++
    solo (.inl 3) (Duration.ofSeconds 7200) silentAgain ++
    solo (.inl 4) (Duration.ofSeconds 89999) (counted (Duration.ofSeconds 89999) 1) ++
    solo (.inl 4) (Duration.ofSeconds 90001) lateAgain

/-- The marker of the job, written at some time. -/
def markerAt (time : Instant) : String × Entry :=
  (Guard.markerKey "n1", ⟨.text Guard.markerText, Guard.markerTtl, time + Guard.markerTtl⟩)

/-- The counter of its user, in the minute that begins at some time. -/
def counterAt (count : Nat) (time : Instant) : String × Entry :=
  (Guard.counterKey "u1",
    ⟨.counter count, Duration.ofSeconds 60, time + Duration.ofSeconds 60⟩)

/-- The delivery that is past the limit fails. -/
theorem limitedAgain_exchanges : Exchanges (scantQuota.process (plainJob ["a"])) limitedAgain
    (.error (.rateLimited "u1" 1), plainJob ["a"]) :=
  .ask (.ask (.ask (.ask (.ask (.ask (.ask (.ask (.done _))))))))

/-- The delivery of the job without devices fails. -/
theorem invalidAgain_exchanges : Exchanges (scantQuota.process (plainJob [])) invalidAgain
    (.error (.validation .noDeviceTokens), plainJob []) :=
  .ask (.ask (.ask (.ask (.ask (.ask (.ask (.done _)))))))

/-- The delivery that finds the marker ends in silence. -/
theorem silentAgain_exchanges : Exchanges (scantQuota.process (plainJob ["a"])) silentAgain
    (.ok (), plainJob ["a"]) :=
  .ask (.ask (.ask (.ask (.ask (.done _)))))

/-- The delivery that looks too late reaches its device again. -/
theorem lateAgain_exchanges : Exchanges (scantQuota.process (plainJob ["a"]))
    (counted (Duration.ofSeconds 89999) 1 ++ lateAgain)
    (.ok (), { plainJob ["a"] with attemptCount := 1 }) :=
  .ask (.ask (.ask (.ask (.ask (.ask (.ask (.ask (.ask (.ask (.ask (.ask (.done _))))))))))))

/-- These are acts of the deliveries over one store. -/
theorem redeliveries_evolves : ∃ w, Evolves redeliveries redeliveryActs w := by
  have reached : Reaches (scantQuota.process (plainJob ["a"])) (reachedOnce true) _ :=
    .ask (.ask (.ask (.ask (.ask (.ask (.ask (.ask (.ask (.ask (.ask (.ask (.here _))))))))))))
  have begun : Reaches (scantQuota.process (plainJob ["a"]))
      (counted (Duration.ofSeconds 89999) 1) _ := .ask (.ask (.ask (.here _)))
  have late := (begun.exchanges_iff).mp lateAgain_exchanges
  have start : ComesTo redeliveries [] redeliveries.runs {} (0 : Nat) := ⟨_, Nat.le_refl _, .stop _⟩
  have first := start.solo (.inl 0) (0 : Nat)
    ⟨[markerAt (0 : Nat), counterAt 1 (0 : Nat)], false, 2⟩ reached (Nat.le_refl _)
    ⟨_, rfl, _, rfl, _, rfl, _, rfl, _, rfl, _, rfl, _, rfl, _, rfl, _, rfl, _, rfl, _, rfl, _, rfl,
      rfl⟩
  have second := first.solo (.inl 1) (Duration.ofSeconds 10)
    ⟨[markerAt (Duration.ofSeconds 10), counterAt 2 (0 : Nat)], false, 4⟩
    (Run.reaches_done_iff.mpr limitedAgain_exchanges) (by decide)
    ⟨_, rfl, _, rfl, _, rfl, _, rfl, _, rfl, _, rfl, _, rfl, _, rfl, rfl⟩
  have third := second.solo (.inl 2) (Duration.ofSeconds 3600)
    ⟨[markerAt (Duration.ofSeconds 3600), counterAt 1 (Duration.ofSeconds 3600)], false, 6⟩
    (Run.reaches_done_iff.mpr invalidAgain_exchanges) (by decide)
    ⟨_, rfl, _, rfl, _, rfl, _, rfl, _, rfl, _, rfl, _, rfl, rfl⟩
  have fourth := third.solo (.inl 3) (Duration.ofSeconds 7200)
    ⟨[counterAt 1 (Duration.ofSeconds 7200), markerAt (Duration.ofSeconds 3600)], false, 7⟩
    (Run.reaches_done_iff.mpr silentAgain_exchanges) (by decide)
    ⟨_, rfl, _, rfl, _, rfl, _, rfl, _, rfl, rfl⟩
  have fifth := fourth.solo (.inl 4) (Duration.ofSeconds 89999)
    ⟨[counterAt 1 (Duration.ofSeconds 89999), markerAt (Duration.ofSeconds 3600)], false, 8⟩ begun
    (by decide) ⟨_, rfl, _, rfl, _, rfl, rfl⟩
  obtain ⟨clock, -, evolves⟩ := fifth.solo (.inl 4) (Duration.ofSeconds 90001)
    ⟨[markerAt (Duration.ofSeconds 90001), counterAt 1 (Duration.ofSeconds 89999)], false, 9⟩
    (Run.reaches_done_iff.mpr late) (by decide)
    ⟨_, rfl, _, rfl, _, rfl, _, rfl, _, rfl, _, rfl, _, rfl, _, rfl, _, rfl, rfl⟩
  exact ⟨_, evolves⟩

/-- They write markers. -/
theorem redeliveries_marking : redeliveries.Marking (Guard.markerKey "n1") :=
  marking_beside fun _ => spares_checkRate {} "u2" "n1"

/-- The delivery begins with a live marker, and makes a report all the same. -/
def ReportedAgain (k : ℕ) (res : Except DeliveryError Unit × Job) (status : Status) : Prop :=
  (comingAgain k).id = "n1" ∧
  (∃ till, StartsMarked redeliveries redeliveryActs k (Guard.markerKey "n1") till) ∧
  Exchanges (scantQuota.process (comingAgain k)) (exchangesOf (.inl k) redeliveryActs) res ∧
  ∃ report, publications (exchangesOf (.inl k) redeliveryActs) = [report] ∧ report.status = status

/-- The job is reported as delivered by its first delivery. The second one, past the limit, and the
third one, of the job without devices, begin with a live marker and report a failure. The fifth one
begins with a live marker and delivers the job again. -/
theorem redelivery_reported :
    (∃ w, Evolves redeliveries redeliveryActs w) ∧ Sequential redeliveryActs ∧
      publications (exchangesOf (.inl 0) redeliveryActs) = [reachedReport (0 : Nat)] ∧
      ReportedAgain 1 (.error (.rateLimited "u1" 1), plainJob ["a"]) .failed ∧
      ReportedAgain 2 (.error (.validation .noDeviceTokens), plainJob []) .failed ∧
      ReportedAgain 4 (.ok (), { plainJob ["a"] with attemptCount := 1 }) .delivered := by
  obtain ⟨w, evolves⟩ := redeliveries_evolves
  have marked := fun {k before after x m} => @Evolves.startsMarked Unit _ redeliveryActs w
    redeliveries (Guard.markerKey "n1") k before after x m evolves redeliveries_marking
  refine ⟨⟨w, evolves⟩, by decide, rfl, ⟨rfl, ?_, limitedAgain_exchanges, _, rfl, rfl⟩,
    ⟨rfl, ?_, invalidAgain_exchanges, _, rfl, rfl⟩, ⟨rfl, ?_, lateAgain_exchanges, _, rfl, rfl⟩⟩
  · exact ⟨_, @marked 1 (redeliveryActs.take 12) _ _ (redeliveryActs.take 12)[11] rfl rfl rfl
      (List.getElem_mem _) rfl (by decide)⟩
  · exact ⟨_, @marked 2 (redeliveryActs.take 20) _ _ (redeliveryActs.take 20)[19] rfl rfl rfl
      (List.getElem_mem _) rfl (by decide)⟩
  · exact ⟨_, @marked 4 (redeliveryActs.take 32) _ _ (redeliveryActs.take 32)[26] rfl rfl rfl
      (List.getElem_mem _) rfl (by decide)⟩

/-- The delivery two hours after the first one begins with a live marker and looks for it in time,
and the one ten seconds after it comes after a delivery that marked the job. -/
theorem redelivered_of_startsMarked_again :
    (∃ till, StartsMarked redeliveries redeliveryActs 3 (Guard.markerKey "n1") till ∧
      LooksBefore redeliveryActs 3 (Guard.markerKey "n1") till) ∧
    Redelivered scantQuota (plainJob ["a"]) silentAgain (.ok (), plainJob ["a"]) ∧
    Redelivered scantQuota (plainJob ["a"]) limitedAgain
      (.error (.rateLimited "u1" 1), plainJob ["a"]) := by
  obtain ⟨w, evolves⟩ := redeliveries_evolves
  have apart : ∀ x, OnlyAsks (Request.Spares (Guard.markerKey "n1")) (guarded (otherUser x)) :=
    fun _ => spares_checkRate {} "u2" "n1"
  have marked : StartsMarked redeliveries redeliveryActs 3 (Guard.markerKey "n1")
      (Duration.ofSeconds 3600 + Guard.markerTtl) :=
    @Evolves.startsMarked Unit _ redeliveryActs w redeliveries _ 3 (redeliveryActs.take 27) _ _
      (redeliveryActs.take 27)[26] evolves redeliveries_marking rfl rfl rfl (List.getElem_mem _) rfl
      (by decide)
  have looks : LooksBefore redeliveryActs 3 (Guard.markerKey "n1")
      (Duration.ofSeconds 3600 + Guard.markerTtl) := fun x hx hrun _ =>
    (by decide : ∀ x ∈ redeliveryActs, x.run = .inl 3 →
      x.time < Duration.ofSeconds 3600 + Guard.markerTtl) x hx hrun
  have looks' : LooksBefore redeliveryActs 1 (Guard.markerKey "n1")
      ((0 : Nat) + Guard.markerTtl) := fun x hx hrun _ =>
    (by decide : ∀ x ∈ redeliveryActs, x.run = .inl 1 →
      x.time < (0 : Nat) + Guard.markerTtl) x hx hrun
  refine ⟨⟨_, marked, looks⟩, ?_, ?_⟩
  · exact (@redelivered_of_startsMarked Unit _ _ (fun _ => scantQuota) comingAgain otherUser
      (0 : Nat) {} redeliveryActs "n1" rfl apart 3 _ rfl silentAgain_exchanges).1 _ marked looks
  · exact (@redelivered_of_startsMarked Unit _ _ (fun _ => scantQuota) comingAgain otherUser
      (0 : Nat) {} redeliveryActs "n1" rfl apart 1 _ rfl limitedAgain_exchanges).2 w evolves
      (by decide) 0 (by decide) (redeliveryActs.take 12)[11]
      (List.mem_of_mem_take (List.getElem_mem _)) rfl rfl looks'

end Delivery

end PushDelivery
