import PushDelivery.Proofs.Delivery.History
import PushDelivery.Proofs.Transport.Settling

/-!
# Reports That Are Lost

A delivery publishes its report and then marks its job. Publication may fail, and the job is marked
all the same: whoever waits for the report never gets it, and for 24 hours every other delivery of
the job is suppressed by the marker. This module says exactly when that does not happen.

## Main definitions

* `Vouched`: a job is marked only after a report on it was accepted.
* `Closes`: the exchanges of a delivery around its report.

## Main results

* `exists_closes`: a delivery that is not suppressed makes one report, marks its job after it, and
  goes the same way whether the report is accepted or not.
* `Transport.exists_publication`: a report that is published over the link is accepted if there is a
  channel when it is looked up, and the channel takes messages when it is used.
* `vouched_iff_accepted`: when a job is marked only after an accepted report.
* `refusedReport_marked`: a job that is marked although its report was not accepted.
-/

namespace PushDelivery

namespace Delivery

open Run (Exchange Exchanges exchanges_ask_iff)

/-! ### Around the report -/

/-- The job is marked only after a report was accepted. -/
def Vouched (job : Job) (es : List (Exchange interface)) : Prop :=
  ∀ before answer after, es = before ++ ⟨markerWrite job, answer⟩ :: after →
    ∃ report, (⟨.publish report, true⟩ : Exchange interface) ∈ before

/-- The exchanges of a delivery before and after its report. -/
structure Closes (c : Courier) (job : Job) (res : Except DeliveryError Unit × Job)
    (before : List (Exchange interface)) (report : Report) (after : List (Exchange interface)) :
    Prop where
  /-- Nothing is reported or written before. -/
  quiet : publications before = [] ∧ writes before = []
  /-- Nothing is reported after. -/
  last : publications after = []
  /-- The job is marked after, unless its id is blank. -/
  marks : writes after = if Text.isBlankText job.id then [] else [markerWrite job]
  /-- The delivery goes on in the same way, and has the same result, whether the report is accepted
  or not. -/
  regardless : ∀ accepted : Bool,
    Exchanges (c.process job) (before ++ ⟨.publish report, accepted⟩ :: after) res

/-- A delivery whose report comes after exchanges without a report or a write. -/
theorem Marks.closes {c : Courier} {job : Job} {marks before : List (Exchange interface)}
    {res : Except DeliveryError Unit × Job} (h : Marks job marks) {report : Report}
    {started now : Instant} (hpub : publications before = []) (hwrites : writes before = [])
    (run : ∀ accepted, Exchanges (c.process job)
      (before ++ closing report started now accepted marks) res) :
    ∃ first, (∀ accepted, before ++ closing report started now accepted marks =
        first ++ ⟨.publish report, accepted⟩ :: marks) ∧
      Closes c job res first report marks := by
  let first := before ++ [⟨.now, now⟩, ⟨.note (.finished report.status (now - started)), ()⟩]
  have split : ∀ accepted, before ++ closing report started now accepted marks =
      first ++ ⟨.publish report, accepted⟩ :: marks := fun accepted => by
    simp [closing, first]
  refine ⟨first, split, ⟨?_, ?_⟩, publications_of_inChecks h.inChecks, h.writes_eq, ?_⟩
  · rw [publications_append, hpub]
    rfl
  · rw [writes_append, hwrites]
    rfl
  · intro accepted
    rw [← split accepted]
    exact run accepted

/-- A delivery is suppressed, or it makes one report and marks its job after it, whether the report
is accepted or not. -/
theorem exists_closes {c : Courier} {job : Job} {es : List (Exchange interface)}
    {res : Except DeliveryError Unit × Job} (h : Exchanges (c.process job) es res) :
    Suppressed c job es ∨ ∃ before report accepted after,
      es = before ++ ⟨.publish report, accepted⟩ :: after ∧
        Closes c job res before report after := by
  rcases exchanges_process_iff.mp h with
    ⟨hs, -⟩ | ⟨checks, rest, started, message, error, rfl, hr, go⟩ |
      ⟨checks, rest, started, content, rfl, hc, go⟩
  · exact .inl hs
  · obtain ⟨now, accepted, marks, rfl, hm, rfl⟩ := exchanges_refuse_iff.mp go
    have hwrites : writes checks = [] :=
      hr.inquires.elim Inquires.writes_eq_nil Inquires.writes_eq_nil
    have run := fun other : Bool => exchanges_process_iff.mpr (.inr (.inl
      ⟨checks, _, started, message, error, rfl, hr,
        exchanges_refuse_iff.mpr ⟨now, other, marks, rfl, hm, rfl⟩⟩))
    obtain ⟨first, split, closes⟩ := hm.closes (publications_of_inChecks hr.inChecks) hwrites run
    exact .inr ⟨first, _, accepted, marks, split accepted, closes⟩
  · obtain ⟨tries, result, progress, now, accepted, marks, dispatched, rfl, hm, rfl⟩ :=
      exchanges_deliver_iff.mp go
    have htries := (exchanges_dispatch_iff.mp dispatched).inDispatch
    have hpub : publications (checks ++ tries) = [] := by
      rw [publications_append, publications_of_inChecks hc.inChecks,
        publications_of_inDispatch htries, List.append_nil]
    have hwrites : writes (checks ++ tries) = [] := by
      rw [writes_append, hc.inquires.writes_eq_nil, writes_of_inDispatch htries, List.append_nil]
    have run := fun other : Bool => exchanges_process_iff.mpr (.inr (.inr
      ⟨checks, _, started, content, rfl, hc,
        exchanges_deliver_iff.mpr ⟨tries, result, progress, now, other, marks, dispatched, rfl, hm,
          rfl⟩⟩))
    simp only [← List.append_assoc] at run ⊢
    obtain ⟨first, split, closes⟩ := hm.closes hpub hwrites run
    exact .inr ⟨first, _, accepted, marks, split accepted, closes⟩

/-- A report among some exchanges is one of their publications. -/
theorem publications_ne_nil {es : List (Exchange interface)} {report : Report} {accepted : Bool}
    (h : (⟨.publish report, accepted⟩ : Exchange interface) ∈ es) : publications es ≠ [] :=
  List.ne_nil_of_mem (List.mem_filterMap.mpr ⟨_, h, rfl⟩)

/-- A job is marked only after an accepted report if it is not marked at all, or its report is
accepted. -/
theorem Closes.vouched_iff {c : Courier} {job : Job} {res : Except DeliveryError Unit × Job}
    {before after : List (Exchange interface)} {report : Report}
    (h : Closes c job res before report after) (accepted : Bool) :
    Vouched job (before ++ ⟨.publish report, accepted⟩ :: after) ↔
      (Text.isBlankText job.id = true ∨ accepted = true) := by
  constructor
  · intro vouched
    by_cases blank : Text.isBlankText job.id = true
    · exact .inl blank
    · -- The marker comes after the report, and no other report comes before the marker.
      have hmarks := h.marks
      rw [if_neg blank] at hmarks
      have hwritten : markerWrite job ∈ writes after := by
        rw [hmarks]
        exact List.mem_singleton.mpr rfl
      obtain ⟨⟨r, answer⟩, he, hr⟩ := List.mem_map.mp (List.mem_filter.mp hwritten).1
      obtain rfl : r = markerWrite job := hr
      obtain ⟨early, late, rfl⟩ := List.append_of_mem he
      obtain ⟨other, hother⟩ := vouched (before ++ ⟨.publish report, accepted⟩ :: early) answer late
        (by simp)
      rcases List.mem_append.mp hother with hbefore | hafter
      · exact absurd h.quiet.1 (publications_ne_nil hbefore)
      · rcases List.mem_cons.mp hafter with heq | hearly
        · cases heq
          exact .inr rfl
        · exact absurd h.last (publications_ne_nil (List.mem_append_left _ hearly))
  · intro hcases first answer rest heq
    have hmarker : (⟨markerWrite job, answer⟩ : Exchange interface) ∈
        before ++ ⟨.publish report, accepted⟩ :: after := by simp [heq]
    have hlater : (⟨markerWrite job, answer⟩ : Exchange interface) ∈ after := by
      rcases List.mem_append.mp hmarker with hbefore | hafter
      · exact absurd h.quiet.2 (writes_ne_nil hbefore rfl)
      · rcases List.mem_cons.mp hafter with heq | hafter
        · cases heq
        · exact hafter
    rcases hcases with blank | rfl
    · have hmarks := h.marks
      rw [if_pos blank] at hmarks
      exact absurd hmarks (writes_ne_nil hlater rfl)
    · refine ⟨report, ?_⟩
      rcases List.append_eq_append_iff.mp heq with ⟨more, rfl, hmore⟩ | ⟨more, rfl, hmore⟩
      · cases more with
        | nil => cases hmore
        | cons e more =>
            obtain ⟨rfl, -⟩ := List.cons.inj hmore
            simp
      · cases more with
        | nil => cases hmore
        | cons e more =>
            obtain ⟨rfl, -⟩ := List.cons.inj hmore
            exact absurd h.quiet.2 (writes_ne_nil (List.mem_append_right _ List.mem_cons_self) rfl)

/-- A job that is not marked needs no report. -/
theorem vouched_of_not_written {job : Job} {es : List (Exchange interface)} (h : writes es = []) :
    Vouched job es := by
  rintro before answer after rfl
  exact absurd h (writes_ne_nil (List.mem_append_right _ List.mem_cons_self) rfl)

end Delivery

/-! ### Reports over the link -/

namespace Transport

open Run (Exchange Exchanges Performs exchanges_within_iff performs_append_iff performs_cons_iff)
open Delivery (markerWrite)

/-- What a delivery asks for on its way is what it asks for. -/
theorem mem_of_performs {t : Topology} {outer : List (Exchange Delivery.interface)}
    {es : List (Exchange interface)} (h : Performs (carryOut t) outer es) {r : Delivery.Request}
    {answer : r.Answer} (he : (⟨.delivery r, answer⟩ : Exchange interface) ∈ es) :
    (⟨r, answer⟩ : Exchange Delivery.interface) ∈ outer := by
  obtain ⟨⟨asked, given⟩, hmem, stretch, hstretch, he⟩ := h.exists_stretch he
  by_cases hpublish : ∃ report, asked = .publish report
  · obtain ⟨report, rfl⟩ := hpublish
    obtain ⟨result, hreport, -⟩ := exchanges_carryOut_publish_iff.mp hstretch
    -- A publication asks for nothing but the link.
    rcases exchanges_publish_iff.mp hreport with
      ⟨rfl, -⟩ | ⟨channel, rfl, -⟩ | ⟨channel, e, rfl, -⟩
    · simp at he
    · simp at he
    · simp at he
  · obtain rfl := (exchanges_carryOut_iff fun report hr => hpublish ⟨report, hr⟩).mp hstretch
    have heq := List.mem_singleton.mp he
    cases heq
    exact hmem

/-- Before a delivery marks its job over the link, it publishes its report. The report is accepted
if the link has a channel when it is looked up, and the channel takes messages when it is used. -/
theorem exists_publication {t : Topology} {c : Courier} {job : Job} {es : List (Exchange interface)}
    {res : Except DeliveryError Unit × Job} (h : Exchanges (carry t (c.process job)) es res)
    {answer : (markerWrite job).Answer}
    (marks : (⟨.delivery (markerWrite job), answer⟩ : Exchange interface) ∈ es) :
    ∃ first report publication rest result,
      es = first ++ (publication ++ rest) ∧
      Exchanges (publishReport t report) publication result ∧
      (∀ answer : (markerWrite job).Answer,
        (⟨.delivery (markerWrite job), answer⟩ : Exchange interface) ∉ first ++ publication) ∧
      ∀ s, Attended s es → (result = .ok () ↔ ∃ channel,
        (s first.length).link.slot = some channel ∧
          (s (first.length + 1)).takes channel = true) := by
  obtain ⟨outer, run, performs⟩ := exchanges_within_iff.mp h
  have hwritten := mem_of_performs performs marks
  rcases Delivery.exists_closes run with hs | ⟨before, report, accepted, after, rfl, closes⟩
  · exact absurd hs.inquires.writes_eq_nil (Delivery.writes_ne_nil hwritten rfl)
  · obtain ⟨first, more, rfl, hfirst, hmore⟩ := performs_append_iff.mp performs
    obtain ⟨publication, rest, rfl, hpublication, -⟩ := performs_cons_iff.mp hmore
    obtain ⟨result, hresult, -⟩ := exchanges_carryOut_publish_iff.mp hpublication
    refine ⟨first, report, publication, rest, result, rfl, hresult, fun answer he => ?_, ?_⟩
    · rcases List.mem_append.mp he with he | he
      · have hbefore := mem_of_performs hfirst he
        exact absurd closes.quiet.2 (Delivery.writes_ne_nil hbefore rfl)
      · have hone : Performs (carryOut t)
            [(⟨.publish report, accepted⟩ : Exchange Delivery.interface)] (publication ++ []) :=
          .cons hpublication .nil
        rw [List.append_nil] at hone
        have heq := List.mem_singleton.mp (mem_of_performs hone he)
        cases heq
    · intro s attended
      have published := (attended_append_iff.mp (attended_append_iff.mp attended).2).1
      exact publish_ok_iff_takes hresult published

end Transport

namespace Delivery

open Run (Exchange Exchanges)

/-! ### Lost reports -/

/-- **A job is marked whether its report was accepted or not.** A delivery that is not suppressed
publishes one report, and then marks its job unless its id is blank. What the publisher answers
changes neither the marker nor the result. So the marker vouches for an accepted report exactly if
there is no marker or the publisher accepts. If the reports go over the link, the publisher accepts
exactly if the link has a channel when it is looked up, and the channel takes messages when it is
used. -/
theorem vouched_iff_accepted (c : Courier) (job : Job) :
    (∀ es res, Exchanges (c.process job) es res →
      (Suppressed c job es ∧ writes es = [] ∧ Vouched job es) ∨
      ∃ before report accepted after,
        es = before ++ ⟨.publish report, accepted⟩ :: after ∧
        Closes c job res before report after ∧
        (Vouched job es ↔ (Text.isBlankText job.id = true ∨ accepted = true))) ∧
    ∀ t es res answer, Exchanges (Transport.carry t (c.process job)) es res →
      (⟨.delivery (markerWrite job), answer⟩ : Exchange Transport.interface) ∈ es →
      ∃ first report publication rest result,
        es = first ++ (publication ++ rest) ∧
        Exchanges (Transport.publishReport t report) publication result ∧
        (∀ answer, (⟨.delivery (markerWrite job), answer⟩ : Exchange Transport.interface) ∉
          first ++ publication) ∧
        ∀ s, Transport.Attended s es → (result = .ok () ↔ ∃ channel,
          (s first.length).link.slot = some channel ∧
            (s (first.length + 1)).takes channel = true) := by
  constructor
  · intro es res run
    rcases exists_closes run with hs | ⟨before, report, accepted, after, rfl, closes⟩
    · have hwrites := hs.inquires.writes_eq_nil
      exact .inl ⟨hs, hwrites, vouched_of_not_written hwrites⟩
    · exact .inr ⟨before, report, accepted, after, rfl, closes, closes.vouched_iff accepted⟩
  · intro t es res answer run marks
    exact Transport.exists_publication run marks

/-- The report on a job whose device was reached. -/
def reachedReport (now : Instant) : Report :=
  Courier.report { plainJob ["a"] with attemptCount := 1 } .delivered
    "Notification delivered successfully" [.delivered "a" "m1" default] none (.ofInstant now)

/-- The delivery of the job, by what the publisher answers. -/
def reachedOnce (accepted : Bool) : List (Exchange interface) :=
  plainChecks ++
    [⟨.permit, true⟩, ⟨.send "a" (.ofJob (plainJob ["a"])), .ok (.delivered "a" "m1" default)⟩,
      ⟨.note (.sent 1 0), ()⟩, ⟨.settle true, ()⟩, ⟨.now, (0 : Nat)⟩,
      ⟨.note (.finished .delivered (0 : Nat)), ()⟩, ⟨.publish (reachedReport (0 : Nat)), accepted⟩,
      ⟨markerWrite (plainJob ["a"]), .ok ()⟩]

/-- It is a delivery, whatever the publisher answers. -/
theorem reachedOnce_exchanges (accepted : Bool) :
    Exchanges (({} : Courier).process (plainJob ["a"])) (reachedOnce accepted)
      (.ok (), { plainJob ["a"] with attemptCount := 1 }) :=
  .ask (.ask (.ask (.ask (.ask (.ask (.ask (.ask (.ask (.ask (.ask (.ask (.done _))))))))))))

/-- The marker of a job that was reached vouches for its report if that is accepted. -/
theorem vouched_iff_accepted_reached : Vouched (plainJob ["a"]) (reachedOnce true) := by
  rcases (vouched_iff_accepted {} (plainJob ["a"])).1 _ _ (reachedOnce_exchanges true) with
    ⟨-, -, vouched⟩ | ⟨before, report, accepted, after, heq, -, hvouched⟩
  · exact vouched
  · have hmem : (⟨.publish report, accepted⟩ : Exchange interface) ∈ reachedOnce true := by
      rw [heq]
      exact List.mem_append_right _ List.mem_cons_self
    obtain ⟨-, haccepted⟩ : report = reachedReport (0 : Nat) ∧ accepted = true := by
      simpa [reachedOnce, plainChecks, markerWrite] using hmem
    exact hvouched.mpr (.inr haccepted)

/-- A job whose report is refused is marked. -/
theorem refusedReport_marked :
    Exchanges (({} : Courier).process (plainJob ["a"])) (reachedOnce false)
      (.ok (), { plainJob ["a"] with attemptCount := 1 }) ∧
    writes (reachedOnce false) = [markerWrite (plainJob ["a"])] ∧
    publications (reachedOnce false) = [reachedReport (0 : Nat)] ∧
    (∀ report, (⟨.publish report, true⟩ : Exchange interface) ∉ reachedOnce false) ∧
    ¬ Vouched (plainJob ["a"]) (reachedOnce false) := by
  have refused : ∀ report, (⟨.publish report, true⟩ : Exchange interface) ∉ reachedOnce false := by
    intro report
    simp [reachedOnce, plainChecks, markerWrite]
  refine ⟨reachedOnce_exchanges false, rfl, rfl, refused, fun vouched => ?_⟩
  obtain ⟨report, accepted⟩ := vouched ((reachedOnce false).take 11) (.ok ()) [] rfl
  exact refused report (List.mem_of_mem_take accepted)

end Delivery

end PushDelivery
