import PushDelivery.Proofs.Transport.Foretelling
import PushDelivery.Proofs.Transport.Schedules
import PushDelivery.Proofs.Transport.Unfolding

/-!
# The Order of Jobs Does Not Matter

The deliveries of one service share its store, its breaker, its gateway and its queues, and go on
side by side. In calm surroundings and for jobs that have no id and no user in common, none of them
learns of the others: what a request finds in the store depends only on earlier requests with the
same key, these belong to the same job, and no job counts, looks up and writes the same key in an
order that would matter. So every answer is foreseen, whoever acted before, and what the service
leaves behind is what `Foresight.account` foretells of each message, in some order.

This holds of one service. That two of them leave the same follows at once, since what is foretold
depends on the messages alone.

## Main definitions

* `Courier.operations`: the operations of the store for a message.
* `Body.Apart`: two messages whose jobs have neither id nor user in common.
* `Intake.Orderly`: what every step keeps.
* `Station.Fresh`, `Intake.Leaves`: a service before its start, and what it leaves behind.

## Main results

* `Intake.spared_of_apart`: what a request finds in the store depends on nothing asked before.
* `Intake.Proceeds.orderly`: every answer is foreseen.
* `Intake.Unfolds.foretold`: what a service leaves behind is foretold.
* `Intake.confluent`: two services leave the same, whatever the order of jobs.
-/

namespace PushDelivery

open Run (Exchange Exchanges Performs)
open Delivery (Foresight Foreseen Request bookkeeping operations)
open Transport (Settled asked delivery? job?)

/-! ### Messages that are settled -/

/-- The operations of the store for a message: those of the delivery of its job, if there is one. -/
def Courier.operations (c : Courier) (body : Body) : List Request :=
  match job? body default with
  | none => []
  | some job => bookkeeping c job

namespace Transport

variable {v : Foresight} {t : Topology} {c : Courier} {h : Handout} {es : List (Exchange interface)}

/-- The operations of a message are those of its job, whenever it was received. -/
theorem operations_of_spells {body : Body} {now : Moment} {job : Job}
    (spells : job? body now = some job) : c.operations body = bookkeeping c job := by
  obtain ⟨date, spells'⟩ := exists_createdOn spells default
  rw [Courier.operations, spells']
  rfl

/-- A message asks for its operations, in their order. -/
theorem Asks.operations_sublist {body : Body} {outer : List (Exchange Delivery.interface)}
    (asks : Asks c body outer) : (operations outer).Sublist (c.operations body) := by
  cases asks with
  | malformed => exact List.nil_sublist _
  | @delivery now job outer later res spells run dates =>
      have none : operations later = [] :=
        Delivery.operations_eq_nil fun e he => by rw [dates e he]; rfl
      change (operations (unpublished outer ++ later)).Sublist _
      rw [Delivery.operations_append, none, List.append_nil, operations_unpublished,
        operations_of_spells spells]
      exact Delivery.operations_sublist run

/-- No call of a message fails, if all that it asks for is answered as foreseen. -/
theorem Asks.not_mem_settle_false {body : Body} {outer : List (Exchange Delivery.interface)}
    (asks : Asks c body outer) (foreseen : ∀ e ∈ outer, Foreseen v e) :
    (⟨.settle false, ()⟩ : Exchange Delivery.interface) ∉ outer := by
  cases asks with
  | malformed => simp
  | @delivery now job outer later res spells run dates =>
      have answers := foreseen_of_unpublished fun e he =>
        foreseen e (List.mem_cons_of_mem _ (List.mem_append_left _ he))
      have unfailing := Delivery.not_mem_settle_false run answers
      intro h
      rcases List.mem_append.mp ((List.mem_cons.mp h).resolve_left nofun) with h | h
      · exact unfailing (List.mem_of_mem_filter h)
      · exact nomatch dates _ h

/-- Every request of a message can be answered as foreseen. -/
theorem exists_foreseen (v : Foresight) (r : Request) :
    ∃ answer, ∀ e, delivery? ⟨r, answer⟩ = some e → Foreseen v e := by
  cases r with
  | delivery r =>
      refine ⟨v.answer r, ?_⟩
      rintro _ ⟨⟩
      exact Delivery.foreseen_answer v r
  | channel => exact ⟨none, fun _ h => by cases h⟩
  | publishOver | acknowledge | refuse => exact ⟨.ok (), fun _ h => by cases h⟩
  | note => exact ⟨(), fun _ h => by cases h⟩

end Transport

namespace Work

variable {v : Foresight} {t : Topology} {c : Courier} {k : Work}

/-- What a message has asked for after one more exchange of its delivery. -/
theorem asked_exchange (k : Work) (r : Request) (answer : r.Answer)
    (left : Run Transport.interface Unit) :
    asked (k.exchange ⟨.delivery r, answer⟩ left).trace = asked k.trace ++ [⟨r, answer⟩] :=
  Transport.asked_append _ _

/-- A message in work can be settled, with answers that are foreseen from now on. -/
theorem OnCourse.exists_settled {handler : Transport.Handler} (h : k.OnCourse t handler)
    (v : Foresight) : ∃ rest, Settled t handler k.handout (k.trace ++ rest) ∧
      ∀ e ∈ asked rest, Foreseen v e := by
  obtain ⟨rest, ⟨⟩, settles, foreseen⟩ := h.course.exists_exchanges
    (P := fun x => ∀ e, delivery? x = some e → Foreseen v e) (Transport.exists_foreseen v)
  refine ⟨rest, Transport.exchanges_settle_iff_settled.mp settles, fun e he => ?_⟩
  obtain ⟨x, hx, hdelivery⟩ := List.mem_filterMap.mp he
  exact foreseen x hx e hdelivery

/-- A message in work has asked for some of its operations, in their order. -/
theorem OnCourse.operations_sublist (h : k.OnCourse t c.process) :
    (operations (asked k.trace)).Sublist (c.operations k.handout.body) := by
  obtain ⟨rest, settled, -⟩ := h.exists_settled
    ⟨fun _ => default, fun code => .error (.notFound code)⟩
  have whole := settled.asks.operations_sublist
  rw [Transport.asked_append, Delivery.operations_append] at whole
  exact (List.sublist_append_left _ _).trans whole

/-- No call of a message in work has failed, if all was answered as foreseen. -/
theorem OnCourse.not_mem_settle_false (h : k.OnCourse t c.process)
    (foreseen : ∀ e ∈ asked k.trace, Foreseen v e) :
    (⟨.settle false, ()⟩ : Exchange Delivery.interface) ∉ asked k.trace := by
  obtain ⟨rest, settled, foreseen'⟩ := h.exists_settled v
  have whole := settled.asks.not_mem_settle_false (v := v)
  rw [Transport.asked_append] at whole
  exact fun hmem => whole (List.forall_mem_append.mpr ⟨foreseen, foreseen'⟩)
    (List.mem_append_left _ hmem)

end Work

/-! ### Messages that have nothing in common -/

/-- The jobs that two messages spell, if they do, differ in their ids and in their users. -/
def Body.Apart (a b : Body) : Prop :=
  ∀ now, ∀ job ∈ job? a now, ∀ job' ∈ job? b now, job.id ≠ job'.id ∧ job.userId ≠ job'.userId

theorem Body.Apart.symm {a b : Body} (h : a.Apart b) : b.Apart a :=
  fun now job hjob job' hjob' => (h now job' hjob' job hjob).imp Ne.symm Ne.symm

/-- Two messages that are apart at one time are so at any other. -/
theorem Body.apart_iff {a b : Body} : a.Apart b ↔ ∀ job ∈ job? a default, ∀ job' ∈ job? b default,
    job.id ≠ job'.id ∧ job.userId ≠ job'.userId := by
  refine ⟨fun h => h default, fun h now job hjob job' hjob' => ?_⟩
  obtain ⟨date, spells⟩ := Transport.exists_createdOn hjob default
  obtain ⟨date', spells'⟩ := Transport.exists_createdOn hjob' default
  exact h (job.createdOn date) spells (job'.createdOn date') spells'

instance (a b : Body) : Decidable (a.Apart b) := decidable_of_iff' _ Body.apart_iff

/-- No operation for a message learns of those for another that is apart from it. -/
theorem Courier.operations_apart (c : Courier) {a b : Body} (apart : a.Apart b) :
    ∀ earlier ∈ c.operations a, ∀ r ∈ c.operations b, earlier.Spared r := by
  unfold operations
  cases ha : job? a default with
  | none => exact nofun
  | some job =>
      cases hb : job? b default with
      | none => exact fun _ _ => nofun
      | some job' =>
          obtain ⟨id, user⟩ := apart default job ha job' hb
          exact Delivery.bookkeeping_apart c id user

/-- No operation for a message learns of an earlier one. -/
theorem Courier.operations_pairwise (c : Courier) (body : Body) :
    (c.operations body).Pairwise Request.Spared := by
  unfold operations
  cases job? body default with
  | none => exact .nil
  | some job => exact Delivery.bookkeeping_pairwise c job

namespace Intake

variable {v : Foresight} {t : Topology} {c : Courier} {arrived new : List Body} {w w' : Intake}

/-- All that deliveries have asked for. -/
def asked (w : Intake) : List (Exchange Delivery.interface) :=
  Transport.asked (w.works.flatMap (·.trace))

/-- It was asked for one of the messages. -/
theorem mem_asked_iff {e : Exchange Delivery.interface} :
    e ∈ w.asked ↔ ∃ k ∈ w.works, e ∈ Transport.asked k.trace := by
  rw [asked, Transport.asked, List.filterMap_flatMap]
  exact List.mem_flatMap

/-- What calm surroundings and messages that have nothing in common keep. -/
structure Orderly (v : Foresight) (w : Intake) : Prop where
  calm : w.station.footing.Calm v
  /-- All answers were foreseen. -/
  foreseen : ∀ e ∈ w.asked, Foreseen v e
  /-- The store has nothing at keys at which nothing was counted or written. -/
  expired : ∀ key, (∀ e ∈ w.asked, e.1.Spares key) → w.station.store.ExpiresBy key 0

/-- A step in which no message makes a request leaves the footing, but for a sweep perhaps. -/
theorem Step.footing {handler : Transport.Handler}
    (step : Step Station.Undisturbed handler w new w')
    (silent : w'.works.flatMap (·.trace) = w.works.flatMap (·.trace)) :
    w'.station.footing = w.station.footing ∨ ∃ now,
      w'.station.footing = { w.station.footing with store := w.station.store.sweep now } := by
  cases step with
  | outside happens => exact happens.footing
  | launch idle => exact .inl rfl
  | consumer stands moves => exact .inl moves.footing
  | finish works done => exact .inl rfl
  | request works asks answers =>
      have length := congrArg List.length silent
      rw [works] at length
      simp [Work.exchange] at length

/-- Such a step keeps it. -/
theorem Orderly.aside {handler : Transport.Handler} (h : Orderly v w)
    (step : Step Station.Undisturbed handler w new w')
    (silent : w'.works.flatMap (·.trace) = w.works.flatMap (·.trace)) : Orderly v w' := by
  have same : w'.asked = w.asked := congrArg Transport.asked silent
  rcases step.footing silent with footing | ⟨now, footing⟩
  · have store : w'.station.store = w.station.store := congrArg Footing.store footing
    refine ⟨footing ▸ h.calm, same ▸ h.foreseen, ?_⟩
    rw [same, store]
    exact h.expired
  · have store : w'.station.store = w.station.store.sweep now := congrArg Footing.store footing
    refine ⟨footing ▸ { h.calm with online := h.calm.online }, same ▸ h.foreseen, ?_⟩
    rw [same, store]
    exact fun key spared => (h.expired key spared).mono fun _ he => (List.mem_filter.mp he).1

/-! ### Requests -/

section

variable {before after : List Work} {k : Work} {r : Request}
  {next : Transport.Request.Answer (.delivery r) → Run Transport.interface Unit} {answer : r.Answer}

/-- A message in work is apart from all others. -/
theorem apart_of_works (apart : (w.works.map (·.handout.body)).Pairwise Body.Apart)
    (works : w.works = before ++ k :: after) :
    ∀ k' ∈ w.works, k' = k ∨ k'.handout.body.Apart k.handout.body := by
  rw [works, List.map_append, List.map_cons, List.pairwise_append, List.pairwise_cons] at apart
  obtain ⟨-, ⟨later, -⟩, earlier⟩ := apart
  intro k' hk'
  rw [works] at hk'
  rcases List.mem_append.mp hk' with hk' | hk'
  · exact .inr (earlier _ (List.mem_map_of_mem hk') _ List.mem_cons_self)
  · rcases List.mem_cons.mp hk' with rfl | hk'
    · exact .inl rfl
    · exact .inr (later _ (List.mem_map_of_mem hk')).symm

/-- What a request of a delivery finds does not depend on anything that was asked for before: not
for the same message, by the order of its operations, and not for any other, since it is apart. -/
theorem spared_of_apart (courses : ∀ k ∈ w.works, k.OnCourse t c.process)
    (apart : (w.works.map (·.handout.body)).Pairwise Body.Apart)
    (works : w.works = before ++ k :: after) (asks : k.left = .ask (.delivery r) next) :
    ∀ e ∈ w.asked, e.1.Spared r := by
  by_cases operation : r.isOperation = true
  · have hk : k ∈ w.works := works ▸ List.mem_append_right _ List.mem_cons_self
    obtain ⟨answer⟩ := Delivery.nonempty_answer r
    have own := ((courses k hk).exchange asks answer).1.operations_sublist
    have last : operations [⟨r, answer⟩] = [r] := List.filter_cons_of_pos operation
    rw [Work.asked_exchange, Delivery.operations_append, last] at own
    have among : r ∈ c.operations k.handout.body :=
      own.subset (List.mem_append_right _ List.mem_cons_self)
    have ordered := (c.operations_pairwise _).sublist own
    intro e he
    obtain ⟨k', hk', he⟩ := mem_asked_iff.mp he
    refine Delivery.spared_of_operations (fun earlier hearlier => ?_) e he
    rcases apart_of_works apart works k' hk' with rfl | other
    · exact (List.pairwise_append.mp ordered).2.2 earlier hearlier r List.mem_cons_self
    · exact c.operations_apart other earlier
        ((courses k' hk').operations_sublist.subset hearlier) r among
  · exact fun _ _ key hkey => absurd (Request.isOperation_of_key? hkey) operation

/-- What was asked for after one more exchange. -/
theorem mem_asked_exchange {s : Station} {x : Exchange Transport.interface}
    {left : Run Transport.interface Unit} (works : w.works = before ++ k :: after)
    {e : Exchange Delivery.interface} :
    e ∈ asked { w with station := s, works := before ++ k.exchange x left :: after } ↔
      e ∈ w.asked ∨ delivery? x = some e := by
  have one : e ∈ Transport.asked [x] ↔ delivery? x = some e := by
    rw [Transport.asked, List.mem_filterMap]
    simp
  rw [asked, asked, works]
  simp only [List.flatMap_append, List.flatMap_cons, Work.exchange, Transport.asked_append,
    List.mem_append, one]
  tauto

/-- A request of a delivery keeps it. -/
theorem Orderly.delivery {s : Station} (h : Orderly v w)
    (courses : ∀ k ∈ w.works, k.OnCourse t c.process)
    (apart : (w.works.map (·.handout.body)).Pairwise Body.Apart)
    (works : w.works = before ++ k :: after) (asks : k.left = .ask (.delivery r) next)
    (replies : w.station.Replies ⟨.delivery r, answer⟩ s) :
    Orderly v { w with
      station := s
      works := before ++ k.exchange ⟨.delivery r, answer⟩ (next answer) :: after } := by
  have spared := spared_of_apart courses apart works asks
  obtain ⟨given, rfl⟩ := replies
  have hk : k ∈ w.works := works ▸ List.mem_append_right _ List.mem_cons_self
  have expected : Foreseen v ⟨r, answer⟩ := h.calm.foreseen given fun key hkey =>
    h.expired key fun e he => spared e he key hkey
  have noFailure : r ≠ .settle false := by
    rintro rfl
    refine ((courses k hk).exchange asks answer).1.not_mem_settle_false (v := v) ?_ ?_
    · rw [Work.asked_exchange]
      exact List.forall_mem_append.mpr ⟨fun e he => h.foreseen e (mem_asked_iff.mpr ⟨k, hk, he⟩),
        List.forall_mem_singleton.mpr expected⟩
    · rw [Work.asked_exchange]
      exact List.mem_append_right _ List.mem_cons_self
  refine ⟨h.calm.perform noFailure, fun e he => ?_, fun key spares => ?_⟩
  · rcases (mem_asked_exchange works).mp he with he | he
    · exact h.foreseen e he
    · obtain rfl := Option.some.inj he
      exact expected
  · refine Scene.expiresBy_perform (h.expired key fun e he => ?_) ?_
    · exact spares e ((mem_asked_exchange works).mpr (.inl he))
    · exact spares ⟨r, answer⟩ ((mem_asked_exchange works).mpr (.inr rfl))

/-- A request beside those of a delivery keeps it. -/
theorem Orderly.other {r : Transport.Request} {answer : r.Answer} {s : Station}
    {left : Run Transport.interface Unit} (h : Orderly v w)
    (beside : ∀ request, r ≠ .delivery request) (works : w.works = before ++ k :: after)
    (replies : w.station.Replies ⟨r, answer⟩ s) :
    Orderly v { w with station := s, works := before ++ k.exchange ⟨r, answer⟩ left :: after } := by
  obtain ⟨-, rfl⟩ := replies
  have footing := w.station.footing_perform beside
  have store : (w.station.perform r).2.store = w.station.store := congrArg Footing.store footing
  have none : delivery? ⟨r, answer⟩ = none := by
    cases r with
    | delivery r => exact absurd rfl (beside r)
    | _ => rfl
  have same : ∀ e, e ∈ asked { w with
      station := (w.station.perform r).2
      works := before ++ k.exchange ⟨r, answer⟩ left :: after } ↔ e ∈ w.asked := fun e => by
    rw [mem_asked_exchange works, none]
    simp
  refine ⟨footing ▸ h.calm, fun e he => h.foreseen e ((same e).mp he), fun key spares => ?_⟩
  change (w.station.perform r).2.store.ExpiresBy key 0
  rw [store]
  exact h.expired key fun e he => spares e ((same e).mpr he)

end

/-- Every step keeps it, as long as all messages that have come are apart. -/
theorem Proceeds.orderly (next : Proceeds c.process w new w') (kept : Kept t c.process arrived w)
    (apart : arrived.Pairwise Body.Apart) (h : Orderly v w) : Orderly v w' := by
  rw [kept.order] at apart
  have taken := (List.pairwise_append.mp apart).1
  cases next with
  | aside step silent => exact h.aside step silent
  | @request before after k r next answer s works asks replies =>
      cases r with
      | delivery r => exact h.delivery kept.courses taken works asks replies
      | channel | publishOver | acknowledge | refuse | note => exact h.other nofun works replies

/-- It holds wherever such steps lead. -/
theorem Unfolds.orderly {start : Intake} {channel : Nat}
    (unfolds : Unfolds c.process start arrived w) (linked : Linked t c.process channel [] start)
    (apart : arrived.Pairwise Body.Apart) (h : Orderly v start) : Orderly v w := by
  induction unfolds with
  | start => exact h
  | step before next ih =>
      have earlier := (List.pairwise_append.mp apart).1
      exact next.orderly (before.comes.linked linked).kept earlier (ih earlier)

end Intake

/-! ### What is left -/

/-- A service that is about to start in calm surroundings: its broker is new and no operation of it
is made to fail, its queues are distinct, and its store is empty. -/
structure Station.Fresh (v : Foresight) (s : Station) : Prop where
  broker : s.broker = {}
  faultless : s.faults = {}
  queues : s.topology.queues.Nodup
  store : s.store.entries = []
  calm : s.footing.Calm v

/-- The status queue holds some reports and nothing else, and the failed queue some dead letters. -/
structure Intake.Leaves (w : Intake) (reports : List Report) (letters : List DeadLetter) :
    Prop where
  reports : (w.station.broker.waiting w.station.topology.statusQueue).Perm
    (reports.map fun report => .ofJson report.json)
  letters : (w.station.broker.waiting w.station.topology.failedQueue).Perm
    (letters.map fun letter => .ofJson letter.json)

namespace Intake

variable {v : Foresight} {c : Courier} {arrived : List Body} {w : Intake}

/-- Before the first step all is orderly. -/
theorem orderly_start {s : Station} (fresh : s.Fresh v) : Orderly v { station := s.connect.2 } := by
  have footing := s.footing_connect
  have store : s.connect.2.store = s.store := congrArg Footing.store footing
  refine ⟨footing ▸ fresh.calm, fun e he => absurd he List.not_mem_nil, fun key _ e he => ?_⟩
  change (key, e) ∈ s.connect.2.store.entries at he
  rw [store, fresh.store] at he
  cases he

/-- **What a service leaves behind is foretold**, message by message: the status queue holds the
report that is foretold of each message, up to dates, and the failed queue its dead letter, if there
are any. In which order messages have come, how many of them were in work at once, and how their
deliveries were interleaved does not matter. -/
theorem Unfolds.foretold {s : Station} (fresh : s.Fresh v)
    (unfolds : Unfolds c.process { station := s.connect.2 } arrived w)
    (apart : arrived.Pairwise Body.Apart) (idle : w.Idle) :
    ∃ reports letters, w.Leaves reports letters ∧
      reports.map Report.undated = arrived.filterMap (fun body => (v.account c body).report) ∧
      letters.map DeadLetter.undated =
        arrived.filterMap fun body => (v.account c body).letter := by
  obtain ⟨channel, start⟩ : ∃ channel,
      Linked s.topology c.process channel [] { station := s.connect.2 } :=
    exists_linked_start fresh.broker fresh.faultless
  have linked := unfolds.comes.linked start
  have orderly := unfolds.orderly start apart (orderly_start fresh)
  have drained := linked.drained fresh.queues idle
  obtain ⟨account, accounted, reports, letters⟩ := drained.accounts
  have told : ∀ k ∈ w.works, (account k).undated = v.account c k.handout.body := fun k hk =>
    (accounted k hk).undated_eq fun e he => orderly.foreseen e (mem_asked_iff.mpr ⟨k, hk, he⟩)
  have topology : w.station.topology = s.topology := linked.kept.topology.trans rfl
  refine ⟨w.works.filterMap fun k => (account k).report,
    w.works.filterMap fun k => (account k).letter, ⟨?_, ?_⟩, ?_, ?_⟩
  · rw [topology, List.filterMap_eq_flatMap_toList, List.map_flatMap]
    exact reports
  · rw [topology, List.filterMap_eq_flatMap_toList, List.map_flatMap]
    exact letters
  · rw [← drained.taken, List.filterMap_map, List.map_filterMap]
    exact List.filterMap_congr fun k hk => congrArg Account.report (told k hk)
  · rw [← drained.taken, List.filterMap_map, List.map_filterMap]
    exact List.filterMap_congr fun k hk => congrArg Account.letter (told k hk)

/-- **The order of jobs does not matter.** Let two services with the same settings of deliveries
start in calm surroundings, and let the same messages come to them, in two orders. The queues of the
two may have other names and let more or fewer messages be in work at once, and their breakers may
have other settings. If no two of the messages spell jobs with the same id or the same user, then
once there is nothing left to do, both services have left the same reports and the same dead
letters, up to dates, in some order. -/
theorem confluent {s₁ s₂ : Station} {arrived₁ arrived₂ : List Body} {w₁ w₂ : Intake}
    (fresh₁ : s₁.Fresh v) (fresh₂ : s₂.Fresh v)
    (unfolds₁ : Unfolds c.process { station := s₁.connect.2 } arrived₁ w₁)
    (unfolds₂ : Unfolds c.process { station := s₂.connect.2 } arrived₂ w₂)
    (same : arrived₁.Perm arrived₂) (apart : arrived₁.Pairwise Body.Apart)
    (idle₁ : w₁.Idle) (idle₂ : w₂.Idle) :
    ∃ reports₁ letters₁ reports₂ letters₂, w₁.Leaves reports₁ letters₁ ∧
      w₂.Leaves reports₂ letters₂ ∧
      (reports₁.map Report.undated).Perm (reports₂.map Report.undated) ∧
      (letters₁.map DeadLetter.undated).Perm (letters₂.map DeadLetter.undated) := by
  have apart₂ : arrived₂.Pairwise Body.Apart :=
    (same.pairwise_iff fun h => h.symm).mp apart
  obtain ⟨reports₁, letters₁, leaves₁, hreports₁, hletters₁⟩ :=
    unfolds₁.foretold fresh₁ apart idle₁
  obtain ⟨reports₂, letters₂, leaves₂, hreports₂, hletters₂⟩ :=
    unfolds₂.foretold fresh₂ apart₂ idle₂
  refine ⟨reports₁, letters₁, reports₂, letters₂, leaves₁, leaves₂, ?_, ?_⟩
  · rw [hreports₁, hreports₂]
    exact same.filterMap _
  · rw [hletters₁, hletters₂]
    exact same.filterMap _

/-- It is about to start in calm surroundings. -/
theorem fresh_reachingFirstService {t : Topology} (distinct : t.queues.Nodup) :
    (reachingFirstService t).Fresh reachingFirst :=
  ⟨rfl, rfl, distinct, rfl, rfl, rfl, rfl, rfl, fun _ tokens _ =>
    ⟨tokens.map reachingFirst.outcome, rfl, List.map_map⟩⟩

/-- It takes both jobs at once, and their deliveries take turns. -/
def sideBySide : List Body × Intake :=
  follow ({} : Courier).process
    ([.sender orders.1, .sender orders.2] ++ List.replicate 7 .consumer ++
      (List.replicate 36 [.work 0, .work 1]).flatten)
    { station := (reachingFirstService { prefetch := 2 }).connect.2 }

/-- It takes the second job first, and is done with it when it takes the first one. -/
def oneByOne : List Body × Intake :=
  follow ({} : Courier).process
    ([.sender orders.2, .sender orders.1] ++ List.replicate 5 .consumer ++
      List.replicate 36 (.work 0) ++ List.replicate 2 .consumer ++ List.replicate 36 (.work 1))
    { station := (reachingFirstService { pushQueue := "jobs", prefetch := 1 }).connect.2 }

/-- One service works on two jobs side by side, and another works on the same jobs one by one in the
other order. Both leave two reports and one dead letter, the same up to dates. -/
theorem confluent_twoOrders :
    sideBySide.2.station.broker.depth "status.queue" = 2 ∧
      sideBySide.2.station.broker.depth "failed.queue" = 1 ∧
      ∃ reports₁ letters₁ reports₂ letters₂, sideBySide.2.Leaves reports₁ letters₁ ∧
        oneByOne.2.Leaves reports₂ letters₂ ∧
        (reports₁.map Report.undated).Perm (reports₂.map Report.undated) ∧
        (letters₁.map DeadLetter.undated).Perm (letters₂.map DeadLetter.undated) := by
  have arrived₁ : sideBySide.1 = [orders.1, orders.2] := by decide +kernel
  have arrived₂ : oneByOne.1 = [orders.2, orders.1] := by decide +kernel
  have apart : [orders.1, orders.2].Pairwise Body.Apart := by decide +kernel
  have idle₁ : sideBySide.2.Idle := ⟨by decide +kernel, .inl (by decide +kernel)⟩
  have idle₂ : oneByOne.2.Idle := ⟨by decide +kernel, .inl (by decide +kernel)⟩
  refine ⟨by decide +kernel, by decide +kernel, ?_⟩
  refine confluent (fresh_reachingFirstService (by decide)) (fresh_reachingFirstService (by decide))
    (unfolds_follow _ _) (unfolds_follow _ _) ?_ ?_ idle₁ idle₂
  · change sideBySide.1.Perm oneByOne.1
    rw [arrived₁, arrived₂]
    exact .swap _ _ _
  · change sideBySide.1.Pairwise Body.Apart
    rw [arrived₁]
    exact apart

end Intake

end PushDelivery
