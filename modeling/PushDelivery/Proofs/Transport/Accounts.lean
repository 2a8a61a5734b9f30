import Mathlib.Data.List.Basic
import PushDelivery.Proofs.Delivery.Endings
import PushDelivery.Proofs.Transport.Schedules
import PushDelivery.Proofs.Transport.Settling

/-!
# What All Messages Leave Behind

Messages come to the push queue in any number, some of them spell a job and some do not, and the
consumer works on several at once. Once it has nothing left to do, every message can be accounted
for: it was refused and left nothing, its job was known as completed and left nothing, or there is
one report on its job, and a dead letter beside it if the report has failed. The status queue holds
these reports and the failed queue these dead letters, and nothing else.

The work on one message is taken apart by `Transport.Settled`, what it sends is read off its
exchanges, and `Intake.Linked` says that the queues hold what was sent.

## Main definitions

* `Account`, `Accounted`: what one message leaves behind.
* `Intake.Idle`: there is nothing left to do.
* `Intake.Drained`: counters and queues by the accounts of all messages.

## Main results

* `Transport.isSome_job?`: whether a message spells a job does not depend on the time.
* `Transport.sentTo_of_performs`: a delivery sends its reports to the status queue and nothing else.
* `exists_accounted`: every message that is settled while the link holds can be accounted for.
* `Intake.drained_of_comes`: so can all messages once the consumer is idle.
-/

namespace PushDelivery

open Run (Exchange Exchanges Performs exchanges_within_iff)

/-! ### What spells a job -/

/-- Two readers that agree on every value accept the same ones. -/
theorem isSome_bind_congr {α β : Type} {x : Option α} {f g : α → Option β}
    (h : ∀ a, (f a).isSome = (g a).isSome) : (x >>= f).isSome = (x >>= g).isSome := by
  cases x with
  | none => rfl
  | some a => exact h a

/-- Whether a field can be read does not depend on its default. -/
theorem Fields.isSome_withDefault {α : Type} (f : Fields) (name : String) (a b : α)
    (read : Document → Option α) :
    (f.withDefault name a read).isSome = (f.withDefault name b read).isSome := by
  rw [withDefault, withDefault]
  split <;> rfl

/-- Whether a document holds a job does not depend on the time, which is the default of the last
field only. -/
theorem Job.isSome_ofDocument? (now other : Moment) (depth : Nat) (d : Document) :
    (ofDocument? now depth d).isSome = (ofDocument? other depth d).isSome := by
  unfold ofDocument?
  refine isSome_bind_congr fun f => ?_
  iterate 17 refine isSome_bind_congr fun _ => ?_
  have created := f.isSome_withDefault "created_at" now other Document.moment?
  simpa only [Option.bind_eq_bind, Option.isSome_bind, Option.pure_def, Option.isSome_some,
    Option.any_true] using created

namespace Transport

/-- Whether a message spells a job does not depend on the time. -/
theorem isSome_job? (body : Body) (now other : Moment) :
    (job? body now).isSome = (job? body other).isSome :=
  isSome_bind_congr (Job.isSome_ofDocument? now other 0)

/-! ### What a delivery sends -/

variable {t : Topology} {channel : Nat} {es : List (Exchange interface)}

/-- A publication over a channel in use sends one message to its queue. -/
theorem sentTo_of_publish {other : String} {body : Body} {result : Except BrokerError Unit}
    (h : Exchanges (publish other body) es result) (accepts : ∀ e ∈ es, Accepts channel e)
    (queue : String) : sentTo queue es = if other = queue then [body] else [] := by
  rcases exchanges_publish_iff.mp h with ⟨rfl, -⟩ | ⟨used, rfl, -⟩ | ⟨used, e, rfl, -⟩
  · cases (show none = some channel from accepts _ List.mem_cons_self)
  · exact List.append_nil _
  · exact List.append_nil _

/-- A delivery sends its reports to the status queue, and nothing to any other. -/
theorem sentTo_of_performs {outer : List (Exchange Delivery.interface)}
    (performs : Performs (carryOut t) outer es) (accepts : ∀ e ∈ es, Accepts channel e)
    (queue : String) :
    sentTo queue es = if t.statusQueue = queue
      then (Delivery.publications outer).map fun report => .ofJson report.json else [] := by
  induction performs with
  | nil => simp [Delivery.publications]
  | @cons r answer outer stretch rest first more ih =>
      have hrest := ih fun e he => accepts e (List.mem_append_right _ he)
      rw [sentTo_append, hrest]
      by_cases hpublish : ∃ report, r = .publish report
      · obtain ⟨report, rfl⟩ := hpublish
        obtain ⟨result, hresult, -⟩ := exchanges_carryOut_publish_iff.mp first
        have hfirst := sentTo_of_publish hresult
          (fun e he => accepts e (List.mem_append_left _ he)) queue
        rw [hfirst]
        by_cases hqueue : t.statusQueue = queue
        · simp [hqueue, Delivery.publications, Delivery.publication?]
        · simp [hqueue]
      · have hne : ∀ report, r ≠ .publish report := fun report heq => hpublish ⟨report, heq⟩
        obtain rfl := (exchanges_carryOut_iff hne).mp first
        have hnone : Delivery.publication? ⟨r, answer⟩ = none := by
          cases r with
          | publish report => exact absurd rfl (hne report)
          | _ => rfl
        have hsame : Delivery.publications (⟨r, answer⟩ :: outer) = Delivery.publications outer :=
          List.filterMap_cons_none hnone
        rw [hsame]
        rfl

/-- A dead letter goes to the failed queue. -/
theorem sentTo_of_publishDeadLetter {job : Job} {error : DeliveryError}
    {result : Except BrokerError Unit} (h : Exchanges (publishDeadLetter t job error) es result)
    (accepts : ∀ e ∈ es, Accepts channel e) :
    ∃ time, ∀ queue, sentTo queue es =
      if t.failedQueue = queue then [letterBody job error time] else [] := by
  obtain ⟨time, publication, hp, rfl⟩ := exchanges_publishDeadLetter_iff.mp h
  refine ⟨time, fun queue => ?_⟩
  have hsent := sentTo_of_publish hp
    (fun e he => accepts e (List.mem_cons_of_mem _ (List.mem_append_left _ he))) queue
  have hnote : sentTo queue (letterNote error result) = [] := by
    cases result <;> rfl
  rw [sentTo_cons, sentTo_append, hsent, hnote, List.append_nil]
  rfl

end Transport

/-! ### Accounts -/

open Transport (carryOut job? sentTo Accepts Settled)
open Delivery (Foresight ReportsOnce Suppressed)

/-- What a message leaves behind: a report and a dead letter, if there are any. -/
structure Account where
  report : Option Report := none
  letter : Option DeadLetter := none

namespace Account

/-- The messages of an account on the status queue. -/
def reports (a : Account) : List Body := a.report.toList.map fun report => .ofJson report.json

/-- The messages of an account on the failed queue. -/
def letters (a : Account) : List Body := a.letter.toList.map fun letter => .ofJson letter.json

end Account

/-- The job that a message spells was delivered, with some exchanges of the delivery, which were
carried out one after the other. -/
structure Work.Delivers (t : Topology) (c : Courier) (k : Work) (job : Job)
    (outer : List (Exchange Delivery.interface)) (res : Except DeliveryError Unit × Job) :
    Prop where
  spells : ∃ now work rest, job? k.handout.body (.ofInstant now) = some job ∧
    k.trace = ⟨.note .received, ()⟩ :: ⟨.delivery .now, now⟩ :: (work ++ rest) ∧
    Performs (carryOut t) outer work
  run : Exchanges (c.process job) outer res

/-- What a message that was settled leaves behind. -/
inductive Accounted (t : Topology) (c : Courier) (k : Work) : Account → Prop
  /-- A message that spells no job is dated and refused, and no delivery begins. -/
  | malformed {now : Instant} {answer : Except BrokerError Unit}
      (spells : ∀ now, job? k.handout.body now = none)
      (exchanged : k.trace = [⟨.note .received, ()⟩, ⟨.delivery .now, now⟩,
        ⟨.note .malformed, ()⟩, ⟨.refuse k.handout, answer⟩]) : Accounted t c k {}
  /-- A job that is known as completed is not reported again. -/
  | suppressed {job : Job} {outer : List (Exchange Delivery.interface)}
      (delivers : k.Delivers t c job outer (.ok (), job)) (known : Suppressed c job outer) :
      Accounted t c k {}
  /-- A job with a report that has not failed. -/
  | reported {job handled : Job} {outer : List (Exchange Delivery.interface)} {report : Report}
      (delivers : k.Delivers t c job outer (.ok (), handled))
      (once : ReportsOnce job report outer) (status : report.status ≠ .failed) :
      Accounted t c k { report }
  /-- A job with a report that has failed. The dead letter holds the job, which differs from the one
  that the message spells in the number of attempts only, and the error of the delivery. -/
  | failed {job handled : Job} {outer : List (Exchange Delivery.interface)} {report : Report}
      {error : DeliveryError} {letter : DeadLetter}
      (delivers : k.Delivers t c job outer (.error error, handled))
      (once : ReportsOnce job report outer) (status : report.status = .failed)
      (original : letter.originalMessage = { job with attemptCount := handled.attemptCount })
      (attempts : letter.attemptCount = handled.attemptCount)
      (reason : letter.reason = error.reason) (lastError : letter.lastError = error.message) :
      Accounted t c k { report, letter }

/-- The trace of a message that was settled tells whether it spells a job. -/
theorem Work.isAcknowledged_of_settled {t : Topology} {handler : Transport.Handler} {k : Work}
    (settled : Settled t handler k.handout k.trace) (now : Moment) :
    k.isAcknowledged = (job? k.handout.body now).isSome := by
  rw [Work.isAcknowledged]
  generalize k.trace = es at settled
  have same := fun time : Instant => Transport.isSome_job? k.handout.body now (.ofInstant time)
  cases settled with
  | malformed spells =>
      rw [same, spells]
      rfl
  | completed spells =>
      rw [same, spells]
      simp [Transport.Request.acknowledges]
  | failed spells =>
      rw [same, spells]
      simp [Transport.Request.acknowledges]

/-- Every message that was settled while the link held can be accounted for, and has sent to the
queues what its account says. -/
theorem exists_accounted {t : Topology} {c : Courier} {channel : Nat} {k : Work}
    (distinct : t.statusQueue ≠ t.failedQueue) (settled : Settled t c.process k.handout k.trace)
    (accepts : ∀ e ∈ k.trace, Accepts channel e) :
    ∃ account, Accounted t c k account ∧ sentTo t.statusQueue k.trace = account.reports ∧
      sentTo t.failedQueue k.trace = account.letters := by
  generalize hes : k.trace = es at settled accepts
  cases settled with
  | @malformed now answer spells =>
      have never : ∀ other, job? k.handout.body other = none := fun other => by
        have hnone := Transport.isSome_job? k.handout.body other (.ofInstant now)
        rw [spells] at hnone
        exact Option.not_isSome_iff_eq_none.mp (by simp [hnone])
      exact ⟨{}, .malformed never hes, rfl, rfl⟩
  | @completed now job handled work answer spells handles =>
      obtain ⟨outer, run, performs⟩ := exchanges_within_iff.mp handles
      have hwork := Transport.sentTo_of_performs performs fun e he =>
        accepts e (by simp [he])
      have delivers : k.Delivers t c job outer (.ok (), handled) :=
        ⟨⟨now, work, _, spells, hes, performs⟩, run⟩
      have hsent : ∀ queue, sentTo queue (⟨.note .received, ()⟩ :: ⟨.delivery .now, now⟩ ::
          (work ++ [⟨.note .completed, ()⟩, ⟨.acknowledge k.handout, answer⟩])) =
          sentTo queue work := fun queue => by
        simp [Transport.Request.sends]
      rw [hsent, hsent, hwork, hwork, if_pos rfl, if_neg distinct]
      rcases Delivery.suppressed_or_reportsOnce run with
        ⟨known, hres⟩ | ⟨report, once, hfailed, -⟩
      · obtain rfl : handled = job := (Prod.mk.inj hres).2
        refine ⟨{}, .suppressed delivers known, ?_, rfl⟩
        rw [Delivery.publications_of_inChecks known.inChecks]
        rfl
      · refine ⟨{ report }, .reported delivers once fun h => ?_, ?_, rfl⟩
        · obtain ⟨error, herror⟩ := hfailed.mp h
          cases herror
        · rw [once.publications_eq]
          rfl
  | @failed now job handled error work letter result answer spells fails buries =>
      obtain ⟨outer, run, performs⟩ := exchanges_within_iff.mp fails
      have hwork := Transport.sentTo_of_performs performs fun e he => accepts e (by simp [he])
      obtain ⟨time, hletter⟩ := Transport.sentTo_of_publishDeadLetter buries fun e he =>
        accepts e (by simp [he])
      have delivers : k.Delivers t c job outer (.error error, handled) :=
        ⟨⟨now, work, _, spells, hes, performs⟩, run⟩
      have hsent : ∀ queue, sentTo queue (⟨.note .received, ()⟩ :: ⟨.delivery .now, now⟩ ::
          (work ++ (letter ++ [⟨.acknowledge k.handout, answer⟩]))) =
          sentTo queue work ++ sentTo queue letter := fun queue => by
        simp [Transport.Request.sends]
      rw [hsent, hsent, hwork, hwork, hletter, hletter, if_pos rfl, if_neg distinct,
        if_neg (Ne.symm distinct), if_pos rfl, List.append_nil, List.nil_append]
      rcases Delivery.suppressed_or_reportsOnce run with
        ⟨-, hres⟩ | ⟨report, once, hfailed, hjob⟩
      · cases (Prod.mk.inj hres).1
      · have status : report.status = .failed := hfailed.mpr ⟨error, rfl⟩
        refine ⟨{ report, letter := Transport.deadLetter handled error (.ofInstant time) },
          .failed delivers once status hjob rfl rfl rfl, ?_, rfl⟩
        rw [once.publications_eq]
        rfl

/-! ### Nothing left to do -/

namespace Intake

variable {c : Courier} {t : Topology} {channel : Nat} {arrived : List Body} {w : Intake}

/-- There is nothing left to do: no delivery is in flight, and either no message waits or the
consumer sleeps and nothing has called it. -/
def Idle (w : Intake) : Prop :=
  w.inFlight = 0 ∧ (w.station.broker.depth w.station.topology.pushQueue = 0 ∨
    ∃ stream, w.consumer = some (.taking stream) ∧ Consumer.hasNews w.station stream = false)

/-- No message waits when there is nothing left to do. -/
theorem Linked.waiting_eq_nil {handler : Transport.Handler} (h : Linked t handler channel arrived w)
    (idle : w.Idle) : w.station.broker.waiting t.pushQueue = [] := by
  obtain ⟨-, none | ⟨stream, stands, quiet⟩⟩ := idle
  · rw [h.kept.topology] at none
    exact List.eq_nil_of_length_eq_zero none
  · have goesOn : stream.GoesOn channel w.station.broker := h.goesOn _ stands
    have hqueue : stream.queue = t.pushQueue := h.kept.streams _ stream stands rfl
    rw [← hqueue]
    cases hphase : stream.phase with
    | asleep since =>
        refine goesOn.waiting_eq_nil hphase ?_
        rw [Consumer.hasNews, hphase] at quiet
        exact quiet
    | idle | listening | looking | ended =>
        rw [Consumer.hasNews, hphase] at quiet
        cases quiet

/-- Every message that was taken is settled when there is nothing left to do, in one way. -/
theorem Kept.settled {handler : Transport.Handler} (h : Kept t handler arrived w) (idle : w.Idle) :
    ∀ k ∈ w.works, Settled t handler k.handout k.trace ∧ k.isRefused = !k.isAcknowledged := by
  intro k hk
  have hsettled : k.isSettled = true := by
    simpa using List.countP_eq_zero.mp idle.1 k hk
  have hcourse := (h.courses k hk).course
  rcases (h.courses k hk).settled with ⟨-, hacked, hrefused⟩ | ⟨hdone, hrefused⟩
  · rw [Work.isSettled, hacked, hrefused] at hsettled
    cases hsettled
  · rw [hdone] at hcourse
    exact ⟨Transport.exchanges_settle_iff_settled.mp (Run.reaches_done_iff.mp hcourse), hrefused⟩

/-- Counters and queues, by the accounts of all messages that came to the push queue. -/
structure Drained (t : Topology) (c : Courier) (arrived : List Body) (w : Intake) : Prop where
  /-- All messages were taken, each once and in order. -/
  taken : w.works.map (·.handout.body) = arrived
  /-- Those that spell a job were acknowledged. -/
  acked : ∀ now, w.station.broker.acked = arrived.countP fun body => (job? body now).isSome
  /-- The others were rejected. -/
  rejected : ∀ now, w.station.broker.rejected = arrived.countP fun body => (job? body now).isNone
  /-- None came back. -/
  requeued : w.station.broker.requeued = 0
  /-- Every message has an account, and the status queue holds the reports of all accounts and the
  failed queue the dead letters, in some order. -/
  accounts : ∃ account : Work → Account, (∀ k ∈ w.works, Accounted t c k (account k)) ∧
    (w.station.broker.waiting t.statusQueue).Perm (w.works.flatMap fun k => (account k).reports) ∧
    (w.station.broker.waiting t.failedQueue).Perm (w.works.flatMap fun k => (account k).letters)

/-- While the link holds, everything is accounted for when there is nothing left to do. -/
theorem Linked.drained (h : Linked t c.process channel arrived w) (distinct : t.queues.Nodup)
    (idle : w.Idle) : Drained t c arrived w := by
  have hsettled := h.kept.settled idle
  have taken : w.works.map (·.handout.body) = arrived := by
    rw [h.kept.order, h.waiting_eq_nil idle, List.append_nil]
  obtain ⟨hfailed, hstatus, hother⟩ : t.failedQueue ≠ t.pushQueue ∧ t.statusQueue ≠ t.pushQueue ∧
      t.statusQueue ≠ t.failedQueue := by
    simp only [Topology.queues, List.nodup_cons, List.mem_cons, List.not_mem_nil,
      not_or] at distinct
    obtain ⟨⟨hfailed, hstatus, -⟩, ⟨hother, -⟩, -⟩ := distinct
    exact ⟨Ne.symm hfailed, Ne.symm hstatus, Ne.symm hother⟩
  have hcounts := h.kept.counts
  simp only [Broker.counts, Broker.Counts.mk.injEq] at hcounts
  obtain ⟨-, hacked, hrejected, hrequeued⟩ := hcounts
  have hack : ∀ k ∈ w.works, ∀ now, k.isAcknowledged = (job? k.handout.body now).isSome :=
    fun k hk now => Work.isAcknowledged_of_settled (hsettled k hk).1 now
  have accounted : ∀ k, ∃ account, k ∈ w.works → Accounted t c k account ∧
      sentTo t.statusQueue k.trace = account.reports ∧
      sentTo t.failedQueue k.trace = account.letters := by
    intro k
    by_cases hk : k ∈ w.works
    · obtain ⟨account, haccount⟩ := exists_accounted hother (hsettled k hk).1 (h.accepts k hk)
      exact ⟨account, fun _ => haccount⟩
    · exact ⟨{}, fun hk' => absurd hk' hk⟩
  choose account haccount using accounted
  refine ⟨taken, fun now => ?_, fun now => ?_, hrequeued,
    account, fun k hk => (haccount k hk).1, ?_, ?_⟩
  · rw [hacked, ← taken, List.countP_map]
    refine List.countP_congr fun k hk => ?_
    rw [hack k hk now]
    rfl
  · rw [hrejected, ← taken, List.countP_map]
    refine List.countP_congr fun k hk => ?_
    rw [(hsettled k hk).2, hack k hk now, Option.not_isSome]
    rfl
  · have hsent := h.sent t.statusQueue (by simp [Topology.queues]) hstatus
    rw [List.flatMap_congr fun k hk => (haccount k hk).2.1] at hsent
    exact hsent
  · have hsent := h.sent t.failedQueue (by simp [Topology.queues]) hfailed
    rw [List.flatMap_congr fun k hk => (haccount k hk).2.2] at hsent
    exact hsent

/-- **Every message is accounted for.** Let a consumer take any messages from a new broker over a
connection that is not lost, let the courier deliver their jobs in any interleaving, and let the
three queues be distinct. Once there is nothing left to do, the messages that spell a job are
acknowledged, the others are rejected, and none comes back. The status queue holds one report for
each job that was not suppressed, the failed queue holds one dead letter for each of these reports
that has failed, with the job and the error of its delivery, and messages that spell no job were
never delivered and left nothing. -/
theorem drained_of_comes {s : Station} (fresh : s.broker = {}) (faultless : s.faults = {})
    (distinct : s.topology.queues.Nodup)
    (comes : Comes Station.Receives c.process { station := s.connect.2 } arrived w)
    (idle : w.Idle) : Drained s.topology c arrived w := by
  obtain ⟨channel, linked⟩ := exists_linked_start fresh faultless
  exact (comes.linked linked).drained distinct idle

/-- Two jobs, each for one device. -/
def orders : Body × Body :=
  (.text "[\"n1\", \"u1\", [\"a\"], null, null, \"Title\", \"Body\"]",
    .text "[\"n2\", \"u2\", [\"b\"], null, null, \"Title\", \"Body\"]")

/-- The device of the first is reached at any time, that of the second is not. -/
def reachingFirst : Foresight :=
  ⟨fun token => if token = "a" then .delivered token "" default else .failed token "gone" default,
    fun code => .error (.notFound code)⟩

/-- A service with such a gateway. -/
def reachingFirstService (t : Topology) : Station :=
  { gateway := fun _ => ⟨0, fun tokens _ => some (.ok (tokens.map reachingFirst.outcome))⟩
    topology := t }

/-- It takes both jobs and a message that spells none at once, and works on all three in turn. Then
the first job comes again. -/
def besideMalformed : List Body × Intake :=
  follow ({} : Courier).process
    ([.sender orders.1, .sender (.text ""), .sender orders.2] ++ List.replicate 9 .consumer ++
      (List.replicate 36 [.work 0, .work 1, .work 2]).flatten ++ [.sender orders.1] ++
      List.replicate 4 .consumer ++ List.replicate 36 (.work 3))
    { station := (reachingFirstService { prefetch := 3 }).connect.2 }

/-- One job is delivered, one fails and leaves a dead letter, the malformed message is refused, and
the job that came again is not delivered twice. -/
theorem drained_of_comes_besideMalformed :
    besideMalformed.1 = [orders.1, .text "", orders.2, orders.1] ∧ besideMalformed.2.Idle ∧
      besideMalformed.2.station.broker.acked = 3 ∧
      besideMalformed.2.station.broker.rejected = 1 ∧
      besideMalformed.2.station.broker.depth "status.queue" = 2 ∧
      besideMalformed.2.station.broker.depth "failed.queue" = 1 ∧
      Drained { prefetch := 3 } {} [orders.1, .text "", orders.2, orders.1] besideMalformed.2 := by
  have arrived : besideMalformed.1 = [orders.1, .text "", orders.2, orders.1] := by decide +kernel
  have idle : besideMalformed.2.Idle := ⟨by decide +kernel, .inl (by decide +kernel)⟩
  have drained : Drained { prefetch := 3 } {} besideMalformed.1 besideMalformed.2 :=
    drained_of_comes rfl rfl (by decide) (unfolds_follow _ _).comes idle
  rw [arrived] at drained
  obtain ⟨acked, rejected, reports, letters⟩ : besideMalformed.2.station.broker.acked = 3 ∧
      besideMalformed.2.station.broker.rejected = 1 ∧
      besideMalformed.2.station.broker.depth "status.queue" = 2 ∧
      besideMalformed.2.station.broker.depth "failed.queue" = 1 := by decide +kernel
  exact ⟨arrived, idle, acked, rejected, reports, letters, drained⟩

end Intake

end PushDelivery
