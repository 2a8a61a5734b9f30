import PushDelivery.Proofs.Transport.Accounts
import PushDelivery.Proofs.Transport.Unfolding

/-!
# What Is Foretold of a Message

`Delivery.foretold` says what the delivery of a job comes to when all of its answers are foreseen. A
message spells a job only with the time at which it was received, its reports are published on the
way and not asked for, and its dead letter carries one more time. This module goes from the delivery
to the message: what a message leaves behind is, up to dates, `Foresight.account` of its body.

## Main definitions

* `Transport.asked`: what the delivery of a message has asked for.
* `Transport.Asks`: the shapes of that, for a message that is settled.
* `Foresight.account`: what is foretold of a message.

## Main results

* `Transport.Settled.asks`: a message that is settled has asked for a delivery and for dates.
* `Transport.exists_createdOn`: a message spells the same job at any time, up to its date.
* `Accounted.undated_eq`: what a message leaves behind is foretold.
-/

namespace PushDelivery

open Run (Exchange Exchanges Performs Reaches)
open Delivery (Foresight Foreseen Request bookkeeping operations publication? publications)

namespace Transport

/-! ### What deliveries ask for -/

/-- An exchange that belongs to a delivery, or to the dates of a message. -/
def delivery? : Exchange interface → Option (Exchange Delivery.interface)
  | ⟨.delivery r, answer⟩ => some ⟨r, answer⟩
  | _ => none

/-- The exchanges of a delivery among those of settling a message. -/
def asked (es : List (Exchange interface)) : List (Exchange Delivery.interface) :=
  es.filterMap delivery?

@[simp] theorem asked_append (es fs : List (Exchange interface)) :
    asked (es ++ fs) = asked es ++ asked fs := List.filterMap_append

/-- A message is dated when it was received. -/
theorem asked_received (now : Instant) (es : List (Exchange interface)) :
    asked (⟨.note .received, ()⟩ :: ⟨.delivery .now, now⟩ :: es) = ⟨.now, now⟩ :: asked es := rfl

variable {t : Topology} {es : List (Exchange interface)}

/-- A publication is no matter of a delivery. -/
theorem asked_of_publish {queue : String} {body : Body} {result : Except BrokerError Unit}
    (h : Exchanges (publish queue body) es result) : asked es = [] := by
  rcases exchanges_publish_iff.mp h with ⟨rfl, -⟩ | ⟨channel, rfl, -⟩ | ⟨channel, e, rfl, -⟩
  · rfl
  · rfl
  · rfl

/-- A dead letter is dated. -/
theorem asked_of_publishDeadLetter {job : Job} {error : DeliveryError}
    {result : Except BrokerError Unit} (h : Exchanges (publishDeadLetter t job error) es result) :
    ∃ time, asked es = [⟨.now, time⟩] := by
  obtain ⟨time, publication, hp, rfl⟩ := exchanges_publishDeadLetter_iff.mp h
  refine ⟨time, ?_⟩
  have note : asked (letterNote error result) = [] := by
    cases result <;> rfl
  change ⟨.now, time⟩ :: asked (publication ++ letterNote error result) = _
  rw [asked_append, asked_of_publish hp, note]
  rfl

/-- The exchanges of a delivery but for its reports, which are published on the way. -/
def unpublished (outer : List (Exchange Delivery.interface)) : List (Exchange Delivery.interface) :=
  outer.filter fun e => (publication? e).isNone

/-- A delivery that is carried out asks for all but its reports. -/
theorem asked_of_performs {outer : List (Exchange Delivery.interface)}
    (performs : Performs (carryOut t) outer es) : asked es = unpublished outer := by
  induction performs with
  | nil => rfl
  | @cons r answer outer stretch rest first more ih =>
      rw [asked_append, ih]
      by_cases hpublish : ∃ report, r = .publish report
      · obtain ⟨report, rfl⟩ := hpublish
        obtain ⟨result, published, -⟩ := exchanges_carryOut_publish_iff.mp first
        rw [asked_of_publish published]
        rfl
      · have hne : ∀ report, r ≠ .publish report := fun report heq => hpublish ⟨report, heq⟩
        obtain rfl := (exchanges_carryOut_iff hne).mp first
        have none : publication? ⟨r, answer⟩ = none := by
          cases r with
          | publish report => exact absurd rfl (hne report)
          | _ => rfl
        rw [unpublished, unpublished, List.filter_cons_of_pos (by rw [none]; rfl)]
        rfl

/-- All answers of a delivery are foreseen if those are, since reports are not answered by much. -/
theorem foreseen_of_unpublished {v : Foresight} {outer : List (Exchange Delivery.interface)}
    (foreseen : ∀ e ∈ unpublished outer, Foreseen v e) : ∀ e ∈ outer, Foreseen v e := by
  rintro ⟨r, answer⟩ he
  cases r with
  | publish => trivial
  | _ => exact foreseen _ (List.mem_filter.mpr ⟨he, rfl⟩)

/-- Reports are no operations of the store. -/
theorem operations_unpublished (outer : List (Exchange Delivery.interface)) :
    operations (unpublished outer) = operations outer := by
  rw [operations, operations, unpublished, List.filter_map, List.filter_map, List.filter_filter]
  refine congrArg _ (List.filter_congr fun e _ => ?_)
  obtain ⟨r, answer⟩ := e
  cases r with
  | publish => rfl
  | _ => exact Bool.and_true _

/-- What a message asks for until it is settled: the time, if it spells no job; or the time and what
the delivery of its job asks for, and the time again if there is a dead letter. -/
inductive Asks (c : Courier) (body : Body) : List (Exchange Delivery.interface) → Prop
  | malformed (now : Instant) : Asks c body [⟨.now, now⟩]
  | delivery {now : Instant} {job : Job} {outer later : List (Exchange Delivery.interface)}
      {res : Except DeliveryError Unit × Job} (spells : job? body (.ofInstant now) = some job)
      (run : Exchanges (c.process job) outer res) (dates : ∀ e ∈ later, e.1 = .now) :
      Asks c body (⟨.now, now⟩ :: (unpublished outer ++ later))

/-- So it is with every message that is settled. -/
theorem Settled.asks {c : Courier} {h : Handout} (settled : Settled t c.process h es) :
    Asks c h.body (asked es) := by
  cases settled with
  | malformed => exact .malformed _
  | @completed now job handled work answer spells handles =>
      obtain ⟨outer, run, performs⟩ := Run.exchanges_within_iff.mp handles
      rw [asked_received, asked_append, asked_of_performs performs]
      exact .delivery spells run fun _ he => absurd he List.not_mem_nil
  | @failed now job handled error work letter result answer spells fails buries =>
      obtain ⟨outer, run, performs⟩ := Run.exchanges_within_iff.mp fails
      obtain ⟨time, dated⟩ := asked_of_publishDeadLetter buries
      rw [asked_received, asked_append, asked_append, asked_of_performs performs, dated]
      exact .delivery spells run (List.forall_mem_singleton.mpr rfl)

/-! ### Jobs at different times -/

end Transport

/-- Two readers that agree on every value, but for what is told apart, agree. -/
theorem map_bind_congr {α β γ : Type} {x : Option α} {f g : α → Option β} {h : β → γ}
    (same : ∀ a, (f a).map h = (g a).map h) : (x >>= f).map h = (x >>= g).map h := by
  cases x with
  | none => rfl
  | some a => exact same a

/-- What a document holds depends on the time only in the date of a job that has none. -/
theorem Job.undated_ofDocument? (now other : Moment) (depth : Nat) (d : Document) :
    (ofDocument? now depth d).map undated = (ofDocument? other depth d).map undated := by
  unfold ofDocument?
  refine map_bind_congr fun f => ?_
  iterate 17 refine map_bind_congr fun _ => ?_
  have created := f.isSome_withDefault "created_at" now other Document.moment?
  generalize f.withDefault "created_at" now Document.moment? = x at created ⊢
  generalize f.withDefault "created_at" other Document.moment? = y at created ⊢
  cases x with
  | none =>
      cases y with
      | none => rfl
      | some => cases created
  | some =>
      cases y with
      | none => cases created
      | some => rfl

namespace Transport

/-- What a message spells depends on the time only in the date of a job that has none. -/
theorem undated_job? (body : Body) (now other : Moment) :
    (job? body now).map Job.undated = (job? body other).map Job.undated :=
  map_bind_congr (Job.undated_ofDocument? now other 0)

/-- A message that spells a job at one time spells it at any other, with another date perhaps. -/
theorem exists_createdOn {body : Body} {now : Moment} {job : Job}
    (spells : job? body now = some job) (other : Moment) :
    ∃ date, job? body other = some (job.createdOn date) := by
  have same := undated_job? body other now
  rw [spells, Option.map_some, Option.map_eq_some_iff] at same
  obtain ⟨job', spells', same⟩ := same
  refine ⟨job'.createdAt, spells'.trans (congrArg some ?_)⟩
  cases job
  cases job'
  simp only [Job.undated, Job.mk.injEq] at same
  simp only [Job.createdOn, same]

end Transport

open Transport (asked deadLetter job?)

/-! ### What a message leaves behind -/

/-- The dead letters of a job are the same but for dates. -/
theorem Transport.undated_deadLetter {job job' : Job} (same : job.undated = job'.undated)
    (error : DeliveryError) (time time' : Moment) :
    (deadLetter job error time).undated = (deadLetter job' error time').undated := by
  have attempts := congrArg Job.attemptCount same
  change job.attemptCount = job'.attemptCount at attempts
  unfold deadLetter DeadLetter.undated
  rw [same, attempts]

/-- An account without dates. -/
def Account.undated (a : Account) : Account :=
  ⟨a.report.map Report.undated, a.letter.map DeadLetter.undated⟩

/-- What is foretold of a message: what the delivery of its job comes to, with answers that are
foreseen, and nothing if it spells no job. -/
def Delivery.Foresight.account (v : Foresight) (c : Courier) (body : Body) : Account :=
  match job? body default with
  | none => {}
  | some job =>
    let (es, result, handled) := v.delivery c job
    { report := (publications es).head?.map Report.undated
      letter := match result with
        | .ok () => none
        | .error e => some (deadLetter handled e default).undated }

variable {v : Foresight} {t : Topology} {c : Courier} {k : Work}

/-- What is foretold of a message is what the delivery of its job has come to, if that was answered
as foreseen. -/
theorem Work.Delivers.account_eq {job : Job} {outer : List (Exchange Delivery.interface)}
    {res : Except DeliveryError Unit × Job} (delivers : k.Delivers t c job outer res)
    (foreseen : ∀ e ∈ asked k.trace, Foreseen v e) :
    v.account c k.handout.body =
      { report := (publications outer).head?.map Report.undated
        letter := match res.1 with
          | .ok () => none
          | .error e => some (deadLetter res.2 e default).undated } := by
  obtain ⟨⟨now, work, rest, spells, trace, performs⟩, run⟩ := delivers
  rw [trace, Transport.asked_received, Transport.asked_append,
    Transport.asked_of_performs performs] at foreseen
  have answers := Transport.foreseen_of_unpublished fun e he =>
    foreseen e (List.mem_cons_of_mem _ (List.mem_append_left _ he))
  obtain ⟨date, spells'⟩ := Transport.exists_createdOn spells default
  have run' : Exchanges (c.process ((job.createdOn date).createdOn job.createdAt)) outer res := run
  obtain ⟨reports, result, handled⟩ := Delivery.foretold run' answers
  unfold Delivery.Foresight.account
  rw [spells']
  dsimp only
  rw [← List.head?_map, reports, List.head?_map, result]
  cases res.1 with
  | ok => rfl
  | error e => exact congrArg (Account.mk _ <| some ·) (Transport.undated_deadLetter handled e _ _)

/-- **What a message leaves behind is foretold**, up to dates, if its delivery was answered as
foreseen. -/
theorem Accounted.undated_eq {a : Account} (accounted : Accounted t c k a)
    (foreseen : ∀ e ∈ asked k.trace, Foreseen v e) :
    a.undated = v.account c k.handout.body := by
  cases accounted with
  | malformed spells exchanged =>
      unfold Delivery.Foresight.account
      rw [spells default]
      rfl
  | suppressed delivers known =>
      rw [delivers.account_eq foreseen, Delivery.publications_of_inChecks known.inChecks]
      rfl
  | reported delivers once status =>
      rw [delivers.account_eq foreseen, once.publications_eq]
      rfl
  | @failed job handled outer report error letter delivers once status original attempts reason
      lastError =>
      -- The job in the dead letter is the one that the delivery gave back.
      have same : letter.originalMessage = handled := by
        rcases Delivery.suppressed_or_reportsOnce delivers.run with ⟨-, hres⟩ | ⟨-, -, -, gave⟩
        · cases (Prod.mk.inj hres).1
        · exact original.trans gave.symm
      rw [delivers.account_eq foreseen, once.publications_eq]
      unfold Account.undated DeadLetter.undated deadLetter
      dsimp only [Option.map_some, List.head?_cons]
      rw [same, attempts, reason, lastError]

end PushDelivery
