import Mathlib.Algebra.BigOperators.Group.Finset.Piecewise
import Mathlib.Algebra.Order.BigOperators.Group.Finset
import PushDelivery.Delivery.Scene
import PushDelivery.Proofs.Delivery.Endings
import PushDelivery.Proofs.Delivery.Foresight
import PushDelivery.Proofs.Delivery.Overlap

/-!
# What Statistics Add Up To

All deliveries of a courier are counted together, by the events that they note. However they
interleave, the numbers add up: every job that was received is counted once more by its outcome,
when it has one.

A delivery notes that it has received its job at its beginning and its outcome at its end. Between
the two it notes other events only. So what a delivery has noted so far is a beginning of one list,
and the numbers of all deliveries are sums of those of each.

## Main definitions

* `events`: what some exchanges note; `statistics`: what is counted of it.
* `Interleaved`: deliveries that have made some acts; `unrecorded`: those without an outcome.

## Main results

* `exists_events`: the events of a delivery that is over.
* `countP_received`: a delivery that has begun has received its job, and it has an outcome or
  none yet.
* `ends_and_adds_up`: every delivery ends in one of three ways, and the statistics add up.
-/

namespace PushDelivery.Delivery

open Run (Exchange Exchanges Reaches)

/-! ### Events -/

/-- The event that an exchange notes. -/
def event? : Exchange interface → Option Event
  | ⟨.note event, _⟩ => some event
  | _ => none

/-- The events that some exchanges note. -/
def events (es : List (Exchange interface)) : List Event := es.filterMap event?

/-- The events of two stretches. -/
theorem events_append (es fs : List (Exchange interface)) :
    events (es ++ fs) = events es ++ events fs := List.filterMap_append

/-- The statistics after some exchanges. -/
def statistics (es : List (Exchange interface)) : Stats := (events es).foldl Stats.note {}

/-- A scene counts what is noted, and nothing else. -/
theorem stats_perform (s : Scene) (r : Request) (answer : r.Answer) :
    (s.perform r).2.stats = (events [⟨r, answer⟩]).foldl Stats.note s.stats := by
  cases r with
  | guard r => cases r <;> rfl
  | permit =>
      simp only [Scene.perform, Scene.permit]
      split <;> rfl
  | _ => rfl

/-- Whether an event is the outcome of a delivery. -/
def Event.isOutcome : Event → Bool
  | .finished .. | .duplicate => true
  | _ => false

/-- Whether an event is the outcome of a delivery that failed. -/
def Event.isFailure : Event → Bool
  | .finished .failed _ | .finished .pending _ => true
  | _ => false

/-! ### Counts -/

/-- A number that grows by one with the events of a kind, and stays at all others, counts them. -/
theorem foldl_note {f : Stats → Nat} {p : Event → Bool}
    (h : ∀ s event, f (s.note event) = f s + if p event then 1 else 0) (noted : List Event)
    (s : Stats) : f (noted.foldl Stats.note s) = f s + noted.countP p := by
  induction noted generalizing s with
  | nil => rfl
  | cons event rest ih =>
      rw [List.foldl_cons, ih, h, List.countP_cons, Nat.add_assoc, Nat.add_comm (rest.countP p)]

/-- The jobs that were received. -/
theorem statistics_received (es : List (Exchange interface)) :
    (statistics es).received = (events es).countP (· = .received) := by
  have counted := foldl_note (f := Stats.received) (p := (· = .received)) (fun s event => by
    cases event with
    | finished status => cases status <;> rfl
    | _ => rfl) (events es) {}
  exact counted.trans (Nat.zero_add _)

/-- The jobs that have an outcome. -/
theorem statistics_outcomes (es : List (Exchange interface)) :
    (statistics es).delivered + (statistics es).partiallyDelivered + (statistics es).failed +
      (statistics es).duplicates = (events es).countP Event.isOutcome := by
  have counted := foldl_note (p := Event.isOutcome)
    (f := fun s => s.delivered + s.partiallyDelivered + s.failed + s.duplicates)
    (fun s event => by
      cases event with
      | finished status =>
          cases status <;> simp only [Stats.note, Stats.record, Event.isOutcome, if_true] <;> omega
      | _ => rfl) (events es) {}
  exact counted.trans (Nat.zero_add _)

/-- The jobs that were refused since their user was past the limit. -/
theorem statistics_rateLimited (es : List (Exchange interface)) :
    (statistics es).rateLimited = (events es).countP (· = .rateLimited) := by
  have counted := foldl_note (f := Stats.rateLimited) (p := (· = .rateLimited)) (fun s event => by
    cases event with
    | finished status => cases status <;> rfl
    | _ => rfl) (events es) {}
  exact counted.trans (Nat.zero_add _)

/-- The jobs that failed. -/
theorem statistics_failed (es : List (Exchange interface)) :
    (statistics es).failed = (events es).countP Event.isFailure := by
  have counted := foldl_note (f := Stats.failed) (p := Event.isFailure) (fun s event => by
    cases event with
    | finished status => cases status <;> rfl
    | _ => rfl) (events es) {}
  exact counted.trans (Nat.zero_add _)

/-! ### The events of one delivery -/

/-- Inquiries note that the job was received, and what they come to. -/
theorem Inquires.events_eq {notes : List Event} {es : List (Exchange interface)}
    (h : Inquires notes es) : events es = .received :: notes := by
  cases h with
  | @intro started inquiries inquire =>
      have silent : events inquiries = [] := by
        refine List.filterMap_eq_nil_iff.mpr fun ⟨r, answer⟩ he => ?_
        have hr := inquire _ he
        cases r with
        | note => cases hr
        | _ => rfl
      change .received :: events (inquiries ++ notes.map fun event => ⟨.note event, ()⟩) = _
      rw [events_append, silent, List.nil_append, events, List.filterMap_map]
      exact congrArg (Event.received :: ·) List.filterMap_some

/-- Marking a job notes nothing. -/
theorem Marks.events_eq_nil {job : Job} {es : List (Exchange interface)} (h : Marks job es) :
    events es = [] := by
  unfold Marks at h
  split at h
  · rw [h]
    rfl
  · have asks := onlyAsks_guarded (P := fun r => ∃ request, r = .guard request)
      (.of_forall (fun request => ⟨request, rfl⟩) (Guard.markProcessed job.id))
    refine List.filterMap_eq_nil_iff.mpr fun ⟨r, answer⟩ he => ?_
    obtain ⟨request, rfl⟩ := asks.of_exchanges h _ he
    rfl

/-- The last event of a delivery that reports is its outcome. -/
theorem Marks.events_closing {job : Job} {marks : List (Exchange interface)} (h : Marks job marks)
    (report : Report) (started now : Instant) (accepted : Bool) :
    events (closing report started now accepted marks) =
      [.finished report.status (now - started)] := by
  change Event.finished report.status (now - started) :: events marks = _
  rw [h.events_eq_nil]

/-- Attempts note neither that a job was received, nor an outcome, nor that its user is past the
limit. -/
theorem events_of_inDispatch {es : List (Exchange interface)}
    (h : ∀ e ∈ es, e.1.inDispatch = true) : ∀ event ∈ events es,
      event ≠ .received ∧ event ≠ .rateLimited ∧ event.isOutcome = false := by
  intro event hevent
  obtain ⟨⟨r, answer⟩, he, heq⟩ := List.mem_filterMap.mp hevent
  have hr := h _ he
  cases r with
  | note noted =>
      obtain rfl : noted = event := Option.some.inj heq
      cases noted with
      | sent | retried => simp [Event.isOutcome]
      | _ => cases hr
  | _ => cases heq

/-- What a delivery notes from its beginning to its end: that its job was received, what happens to
it, and the outcome. If it notes that the user of the job is past the limit, it has failed. -/
theorem exists_events {c : Courier} {job : Job} {es : List (Exchange interface)}
    {res : Except DeliveryError Unit × Job} (h : Exchanges (c.process job) es res) :
    ∃ between outcome, events es = .received :: (between ++ [outcome]) ∧
      (∀ event ∈ between, event ≠ .received ∧ event.isOutcome = false) ∧
      outcome.isOutcome = true ∧
      between.countP (· = .rateLimited) ≤ if outcome.isFailure then 1 else 0 := by
  rcases exchanges_process_iff.mp h with
    ⟨hs, -⟩ | ⟨checks, rest, started, message, error, rfl, hr, go⟩ |
      ⟨checks, rest, started, content, rfl, hc, go⟩
  · exact ⟨[], .duplicate, hs.inquires.events_eq, by simp, rfl, by simp⟩
  · obtain ⟨now, accepted, marks, rfl, hm, -⟩ := exchanges_refuse_iff.mp go
    rw [events_append, hm.events_closing]
    rcases hr.inquires with hi | hi
    · rw [hi.events_eq]
      exact ⟨[], .finished .failed (now - started), rfl, by simp, rfl, by simp⟩
    · rw [hi.events_eq]
      exact ⟨[.rateLimited], .finished .failed (now - started), rfl, by simp [Event.isOutcome], rfl,
        Nat.le_refl 1⟩
  · obtain ⟨tries, result, progress, now, accepted, marks, dispatched, rfl, hm, -⟩ :=
      exchanges_deliver_iff.mp go
    have quiet := events_of_inDispatch (exchanges_dispatch_iff.mp dispatched).inDispatch
    have within : (events tries).countP (· = .rateLimited) = 0 :=
      List.countP_eq_zero.mpr fun event he => by simpa using (quiet event he).2.1
    rw [events_append, events_append, hc.inquires.events_eq, hm.events_closing]
    refine ⟨events tries, .finished (dispatchReport job result progress now).status (now - started),
      rfl, fun event he => ⟨(quiet event he).1, (quiet event he).2.2⟩, rfl, ?_⟩
    rw [within]
    exact Nat.zero_le _

/-! ### Deliveries that have begun -/

/-- The exchanges note that a job was received, and no outcome. -/
def Unrecorded (es : List (Exchange interface)) : Prop :=
  .received ∈ events es ∧ ∀ event ∈ events es, event.isOutcome = false

instance (es : List (Exchange interface)) : Decidable (Unrecorded es) :=
  inferInstanceAs (Decidable (_ ∧ _))

/-- A delivery that has begun has received its job, and it has an outcome or none yet. -/
theorem countP_received {c : Courier} {job : Job} {es : List (Exchange interface)}
    {left : Run interface (Except DeliveryError Unit × Job)} (h : Reaches (c.process job) es left) :
    (events es).countP (· = .received) =
      (events es).countP Event.isOutcome + if Unrecorded es then 1 else 0 := by
  obtain ⟨rest, res, -, hrun⟩ := exists_ending h
  obtain ⟨between, outcome, heq, quiet, ends, -⟩ := exists_events hrun
  rw [events_append] at heq
  have silent : ∀ noted, noted <+: between → noted.countP (· = .received) = 0 ∧
      noted.countP Event.isOutcome = 0 := fun noted part =>
    ⟨List.countP_eq_zero.mpr fun event he => by simpa using (quiet event (part.subset he)).1,
      List.countP_eq_zero.mpr fun event he => by simp [(quiet event (part.subset he)).2]⟩
  have part : events es <+: (.received :: between) ++ [outcome] := ⟨events rest, heq⟩
  rcases List.prefix_concat_iff.mp part with whole | part
  · -- The outcome is noted, and it is the only one.
    have hne : outcome ≠ .received := fun same => by
      rw [same] at ends
      cases ends
    have recorded : ¬ Unrecorded es := fun pending => by
      have hnot := pending.2 outcome (by simp [whole])
      rw [ends] at hnot
      cases hnot
    obtain ⟨hreceived, houtcome⟩ := silent between (List.prefix_refl _)
    have first : Event.isOutcome .received = false := rfl
    simp [whole, recorded, hreceived, houtcome, hne, ends, first]
  · rcases List.prefix_cons_iff.mp part with none | ⟨noted, begun, part⟩
    · have unbegun : ¬ Unrecorded es := fun pending => by simp [Unrecorded, none] at pending
      simp [none, unbegun]
    · -- The job was received, and what is noted since then is not an outcome.
      have pending : Unrecorded es := by
        refine ⟨by simp [begun], ?_⟩
        rw [begun]
        intro event he
        rcases List.mem_cons.mp he with rfl | he
        · rfl
        · exact (quiet event (part.subset he)).2
      obtain ⟨hreceived, houtcome⟩ := silent noted part
      simp [begun, pending, hreceived, houtcome, Event.isOutcome]

/-- A delivery that is over has failed if its user was past the limit. -/
theorem countP_rateLimited_le {c : Courier} {job : Job} {es : List (Exchange interface)}
    {res : Except DeliveryError Unit × Job} (h : Exchanges (c.process job) es res) :
    (events es).countP (· = .rateLimited) ≤ (events es).countP Event.isFailure := by
  obtain ⟨between, outcome, heq, quiet, ends, limited⟩ := exists_events h
  have hne : outcome ≠ .rateLimited := fun same => by
    rw [same] at ends
    cases ends
  calc (events es).countP (· = .rateLimited)
    _ = between.countP (· = .rateLimited) := by simp [heq, hne]
    _ ≤ [outcome].countP Event.isFailure := by rwa [List.countP_singleton]
    _ ≤ (events es).countP Event.isFailure := by
        rw [heq, ← List.cons_append]
        exact (List.sublist_append_right _ _).countP_le

/-! ### Interleavings -/

variable {ι : Type} [DecidableEq ι]

/-- The deliveries of some jobs have made some acts, each of them in its own order. -/
def Interleaved (c : Courier) (jobs : ι → Job) (acts : List (Act ι)) : Prop :=
  ∀ i, ∃ left, Reaches (c.process (jobs i)) (exchangesOf i acts) left

/-- A delivery has begun and is not over. -/
def InProgress (c : Courier) (jobs : ι → Job) (acts : List (Act ι)) (i : ι) : Prop :=
  exchangesOf i acts ≠ [] ∧ ∀ res, ¬ Exchanges (c.process (jobs i)) (exchangesOf i acts) res

/-- The deliveries that have made some of the acts. -/
def begun (acts : List (Act ι)) : Finset ι := (acts.map Act.run).toFinset

/-- The deliveries that have received their job and have not yet recorded its outcome. -/
def unrecorded (acts : List (Act ι)) : Finset ι :=
  (begun acts).filter fun i => Unrecorded (exchangesOf i acts)

/-- The statistics after some acts. -/
def tallied (acts : List (Act ι)) : Stats := statistics (acts.map Act.exchange)

/-- Events of all deliveries are counted delivery by delivery. -/
theorem countP_events (p : Event → Bool) {runs : Finset ι} {acts : List (Act ι)}
    (h : ∀ a ∈ acts, a.run ∈ runs) :
    (events (acts.map Act.exchange)).countP p =
      ∑ i ∈ runs, (events (exchangesOf i acts)).countP p := by
  induction acts with
  | nil => simp [events, exchangesOf]
  | cons a acts ih =>
      obtain ⟨hrun, hrest⟩ := List.forall_mem_cons.mp h
      have split : ∀ es : List (Exchange interface), (events (a.exchange :: es)).countP p =
          (events es).countP p + (events [a.exchange]).countP p := fun es => by
        rw [← List.singleton_append, events_append, List.countP_append, Nat.add_comm]
      have each : ∀ i, (events (exchangesOf i (a :: acts))).countP p =
          (events (exchangesOf i acts)).countP p +
            if a.run = i then (events [a.exchange]).countP p else 0 := fun i => by
        by_cases hi : a.run = i
        · subst hi
          rw [exchangesOf_cons_self, split, if_pos rfl]
        · rw [exchangesOf_cons_of_ne hi, if_neg hi, Nat.add_zero]
      rw [List.map_cons, split, ih hrest, Finset.sum_congr rfl fun i _ => each i,
        Finset.sum_add_distrib, Finset.sum_ite_eq, if_pos hrun]

/-- **Every delivery comes to one of three ends, and the statistics add up.** Whatever its
surroundings answer, a delivery ends, and in exactly one of the ways that `Fate` describes. However
deliveries interleave, each job that was received has been counted by its outcome, unless its
delivery has not recorded it yet; and if no delivery is in progress, no more jobs were refused for
the rate of their user than failed. -/
theorem ends_and_adds_up (c : Courier) :
    (∀ (job : Job) (answer : List (Exchange interface) → (r : Request) → r.Answer),
      ∃! fate : Fate, fate.Describes job ((c.process job).against answer).1
        ((c.process job).against answer).2.1) ∧
    ∀ (jobs : ι → Job) (acts : List (Act ι)), Interleaved c jobs acts →
      (tallied acts).received =
        (tallied acts).delivered + (tallied acts).partiallyDelivered + (tallied acts).failed +
          (tallied acts).duplicates + (unrecorded acts).card ∧
      ((∀ i, ¬ InProgress c jobs acts i) → (tallied acts).rateLimited ≤ (tallied acts).failed) := by
  refine ⟨fun job answer => exists_unique_fate (Run.exchanges_against _ answer), ?_⟩
  intro jobs acts interleaved
  have hbegun : ∀ a ∈ acts, a.run ∈ begun acts := fun a ha =>
    List.mem_toFinset.mpr (List.mem_map_of_mem ha)
  refine ⟨?_, fun idle => ?_⟩
  · calc (tallied acts).received
      _ = ∑ i ∈ begun acts, (events (exchangesOf i acts)).countP (· = .received) := by
          rw [tallied, statistics_received, countP_events _ hbegun]
      _ = ∑ i ∈ begun acts, ((events (exchangesOf i acts)).countP Event.isOutcome +
            if Unrecorded (exchangesOf i acts) then 1 else 0) := by
          refine Finset.sum_congr rfl fun i _ => ?_
          obtain ⟨left, reaches⟩ := interleaved i
          exact countP_received reaches
      _ = _ := by
          rw [Finset.sum_add_distrib, ← countP_events _ hbegun, ← statistics_outcomes, unrecorded,
            Finset.card_filter]
          rfl
  · rw [tallied, statistics_rateLimited, statistics_failed, countP_events _ hbegun,
      countP_events _ hbegun]
    refine Finset.sum_le_sum fun i _ => ?_
    by_cases hnone : exchangesOf i acts = []
    · rw [hnone]
      exact Nat.le_refl _
    · obtain ⟨res, run⟩ := not_forall_not.mp fun unfinished => idle i ⟨hnone, unfinished⟩
      exact countP_rateLimited_le run

/-- Three jobs. The third one is the first one again. -/
def mixedJob (i : Fin 3) : Job :=
  if i = 1 then { plainJob ["b"] with id := "n2", userId := "u2" } else plainJob ["a"]

/-- All devices can be reached. -/
def reachingAll : Foresight :=
  ⟨fun token => .delivered token "m1" default, fun code => .error (.notFound code)⟩

/-- Their surroundings. The user of the second job is past the limit, and the third job is
marked. -/
def mixedAnswer : Fin 3 → (r : Request) → r.Answer
  | 1, .guard (.increment ..) => .ok (101 : Nat)
  | 2, .guard (.lookup _) => .ok true
  | _, r => reachingAll.answer r

/-- Their deliveries. -/
def mixedRun (i : Fin 3) : List (Exchange interface) × Except DeliveryError Unit × Job :=
  (({} : Courier).process (mixedJob i)).against fun _ => mixedAnswer i

/-- The first two take turns. The third one begins before they are over, and looks for the marker
when the first one has written it. -/
def mixedTurns : List (Fin 3) :=
  (List.replicate 7 [0, 1]).flatten ++ (List.replicate 3 [0, 2]).flatten ++ [0, 0, 2, 1, 2]

/-- The acts of all three. -/
def mixedActs : List (Act (Fin 3)) := weave mixedTurns fun i => (mixedRun i).1

/-- One is delivered, one is refused and fails, and one is suppressed. -/
theorem ends_and_adds_up_mixed :
    (∀ i, Exchanges (({} : Courier).process (mixedJob i)) (exchangesOf i mixedActs)
      (mixedRun i).2) ∧
    (∀ i, ∃! fate : Fate, fate.Describes (mixedJob i) (mixedRun i).1 (mixedRun i).2.1) ∧
    (publications (mixedRun 0).1).map (·.status) = [.delivered] ∧
    (mixedRun 1).2.1 = .error (.rateLimited "u2" 100) ∧ publications (mixedRun 2).1 = [] ∧
    Interleaved {} mixedJob mixedActs ∧ (∀ i, ¬ InProgress {} mixedJob mixedActs i) ∧
    tallied mixedActs =
      { received := 3, delivered := 1, failed := 1, duplicates := 1, rateLimited := 1 } ∧
    (tallied mixedActs).received = (tallied mixedActs).delivered +
      (tallied mixedActs).partiallyDelivered + (tallied mixedActs).failed +
        (tallied mixedActs).duplicates + (unrecorded mixedActs).card ∧
    (tallied mixedActs).rateLimited ≤ (tallied mixedActs).failed := by
  have enough : ∀ i, (mixedRun i).1.length ≤ mixedTurns.count i := by decide +kernel
  have runs : ∀ i, Exchanges (({} : Courier).process (mixedJob i)) (exchangesOf i mixedActs)
      (mixedRun i).2 := fun i => by
    rw [mixedActs, exchangesOf_weave_of_le (enough i)]
    exact Run.exchanges_against _ _
  have interleaved : Interleaved {} mixedJob mixedActs :=
    fun i => ⟨_, Run.reaches_done_iff.mpr (runs i)⟩
  have idle : ∀ i, ¬ InProgress {} mixedJob mixedActs i := fun i pending => pending.2 _ (runs i)
  obtain ⟨ends, adds_up⟩ := @ends_and_adds_up (Fin 3) _ {}
  obtain ⟨sum, within⟩ := adds_up mixedJob mixedActs interleaved
  exact ⟨runs, fun i => ends (mixedJob i) fun _ => mixedAnswer i,
    by decide +kernel, by decide +kernel, by decide +kernel, interleaved, idle, by decide +kernel,
    sum, within idle⟩

end PushDelivery.Delivery
