import PushDelivery.Proofs.Broker.Waiting
import PushDelivery.Proofs.Runs.Paths
import PushDelivery.Transport.Station

/-!
# Dead Letters and Acknowledgements

A message whose handler fails is acknowledged after its dead letter has been published. The
publication may fail, and the message is then acknowledged all the same: neither the failed queue
nor the push queue holds the job any more. This module describes every way in which a failed message
is settled, and says exactly when its dead letter is on the failed queue before the acknowledgement:
when there is a channel at the moment at which it is looked up, and when that channel still takes
messages at the moment at which it is used.

The surroundings are an arbitrary sequence of stations, one for each exchange. Nothing ties a
station to the one before it, so the channel may be lost, replaced or made to fail at any moment.

## Main definitions

* `Station.Gives`, `Attended`: exchanges that are answered by the station as it stands.
* `Station.takes`: whether a message can be published over a channel.
* `Recorded`: the failed queue took the dead letter of a job.
* `Aftermath`: what follows on the work of a handler that failed.

## Main results

* `aftermath_of_failure`: every failed message is acknowledged, and when it was recorded before.
* `lost_letter`: one that was not.
-/

namespace PushDelivery

/-- The answer is one of those that the response allows. -/
def Response.Gives {α : Type} : Response α → α → Prop
  | .now a, b => b = a
  | .later _ a, b => b = a
  | .pausing _ f, b => ∃ pause, b = f pause
  | .crash, _ => False
  | .crashLater _, _ => False

namespace Station

/-- The station gives the answer of the exchange. -/
def Gives (s : Station) (e : Run.Exchange Transport.interface) : Prop :=
  (s.perform e.1).1.Gives e.2

/-- Whether a message that is published over the channel now is taken. -/
def takes (s : Station) (channel : Nat) : Bool :=
  s.faults.publish == 0 && s.broker.isOpen channel

/-- A publication goes well if the channel takes messages. -/
theorem publishOver_ok_iff {s : Station} {channel : Nat} {queue : String} {body : Body} :
    (s.publishOver channel queue body).1 = .ok () ↔ s.takes channel = true := by
  unfold publishOver takes Broker.publish
  dsimp only
  split
  · rename_i faulty
    simp [Nat.ne_of_gt faulty]
  · rename_i sound
    have hzero : s.faults.publish = 0 := Nat.eq_zero_of_not_pos sound
    rw [hzero]
    cases s.broker.isOpen channel <;> simp

/-- A publication over a channel that takes messages is one of the broker. -/
theorem publishOver_broker {s : Station} {channel : Nat} (h : s.takes channel = true)
    (queue : String) (body : Body) :
    (s.publishOver channel queue body).2.broker = (s.broker.publish channel queue body).2 := by
  obtain ⟨hzero, -⟩ := Bool.and_eq_true_iff.mp h
  have sound : ¬0 < s.faults.publish := by simpa using hzero
  rw [publishOver, if_neg sound]

end Station

namespace Transport

open Run (Exchange Exchanges OnlyAsks)

/-! ### The steps of settling -/

/-- Whether a request settles a message. -/
def Request.settles : Request → Bool
  | .acknowledge _ => true
  | .refuse _ => true
  | _ => false

/-- A publication ends for want of a channel, well, or with the failure of the broker. -/
theorem exchanges_publish_iff {queue : String} {body : Body} {es : List (Exchange interface)}
    {result : Except BrokerError Unit} :
    Exchanges (publish queue body) es result ↔
      (es = [⟨.channel, none⟩] ∧ result = .error .notConnected) ∨
      (∃ channel, es = [⟨.channel, some channel⟩, ⟨.publishOver channel queue body, .ok ()⟩,
        ⟨.note (.published queue), ()⟩] ∧ result = .ok ()) ∨
      ∃ channel e, es = [⟨.channel, some channel⟩, ⟨.publishOver channel queue body, .error e⟩,
        ⟨.note .publishFailed, ()⟩] ∧ result = .error e := by
  constructor
  · intro h
    obtain ⟨slot, rest, rfl, looked⟩ := Run.exchanges_request_bind_iff.mp h
    cases slot with
    | none =>
        obtain ⟨rfl, rfl⟩ := Run.exchanges_done_iff.mp looked
        exact .inl ⟨rfl, rfl⟩
    | some channel =>
        obtain ⟨answer, rest, rfl, used⟩ := Run.exchanges_request_bind_iff.mp looked
        rcases answer with e | ⟨⟩
        · obtain ⟨⟨⟩, rest, rfl, noted⟩ := Run.exchanges_request_bind_iff.mp used
          obtain ⟨rfl, rfl⟩ := Run.exchanges_done_iff.mp noted
          exact .inr (.inr ⟨channel, e, rfl, rfl⟩)
        · obtain ⟨⟨⟩, rest, rfl, noted⟩ := Run.exchanges_request_bind_iff.mp used
          obtain ⟨rfl, rfl⟩ := Run.exchanges_done_iff.mp noted
          exact .inr (.inl ⟨channel, rfl, rfl⟩)
  · rintro (⟨rfl, rfl⟩ | ⟨channel, rfl, rfl⟩ | ⟨channel, e, rfl, rfl⟩)
    · exact .ask (.done _)
    · exact .ask (.ask (.ask (.done _)))
    · exact .ask (.ask (.ask (.done _)))

/-- The dead letter of a job as it is written at some instant. -/
def letterBody (job : Job) (error : DeliveryError) (time : Instant) : Body :=
  .ofJson (deadLetter job error (.ofInstant time)).json

/-- A dead letter that was published is counted. -/
def letterNote (error : DeliveryError) : Except BrokerError Unit → List (Exchange interface)
  | .ok _ => [⟨.note (.deadLettered error.reason), ()⟩]
  | .error _ => []

/-- A dead letter is dated, published on the failed queue, and counted if that went well. -/
theorem exchanges_publishDeadLetter_iff {t : Topology} {job : Job} {error : DeliveryError}
    {es : List (Exchange interface)} {result : Except BrokerError Unit} :
    Exchanges (publishDeadLetter t job error) es result ↔
      ∃ time publication,
        Exchanges (publish t.failedQueue (letterBody job error time)) publication result ∧
        es = ⟨.delivery .now, time⟩ :: (publication ++ letterNote error result) := by
  constructor
  · intro h
    obtain ⟨time, rest, rfl, dated⟩ := Run.exchanges_request_bind_iff.mp h
    obtain ⟨published, publication, rest, rfl, hp, noted⟩ := Run.exchanges_bind_iff.mp dated
    rcases published with e | ⟨⟩
    · obtain ⟨rfl, rfl⟩ := Run.exchanges_done_iff.mp noted
      exact ⟨time, publication, hp, rfl⟩
    · obtain ⟨⟨⟩, rest, rfl, done⟩ := Run.exchanges_request_bind_iff.mp noted
      obtain ⟨rfl, rfl⟩ := Run.exchanges_done_iff.mp done
      exact ⟨time, publication, hp, rfl⟩
  · rintro ⟨time, publication, hp, rfl⟩
    refine Run.exchanges_request_bind_iff.mpr ⟨time, _, rfl,
      Run.exchanges_bind_iff.mpr ⟨result, publication, _, rfl, hp, ?_⟩⟩
    rcases result with e | ⟨⟩
    · exact .done _
    · exact .ask (.done _)

/-- What is left of settling a message whose handler failed. -/
theorem exchanges_settle_iff {t : Topology} {handler : Handler} {h : Handout} {now : Instant}
    {job failed : Job} {error : DeliveryError} {work rest : List (Exchange interface)}
    (spells : job? h.body (.ofInstant now) = some job)
    (fails : Exchanges (carry t (handler job)) work (.error error, failed)) :
    Exchanges (settle t handler h)
        (⟨.note .received, ()⟩ :: ⟨.delivery .now, now⟩ :: (work ++ rest)) () ↔
      ∃ letter result answer, rest = letter ++ [⟨.acknowledge h, answer⟩] ∧
        Exchanges (publishDeadLetter t failed error) letter result := by
  constructor
  · intro hs
    obtain ⟨⟨⟩, _, heq, received⟩ := Run.exchanges_request_bind_iff.mp hs
    obtain rfl := (List.cons.inj heq).2
    obtain ⟨time, _, heq, dated⟩ := Run.exchanges_request_bind_iff.mp received
    cases heq
    rw [spells] at dated
    have tail := ((fails.reaches_bind _).exchanges_iff).mp dated
    obtain ⟨result, letter, _, rfl, hl, left⟩ := Run.exchanges_bind_iff.mp tail
    obtain ⟨answer, _, rfl, done⟩ := Run.exchanges_request_bind_iff.mp left
    obtain ⟨rfl, -⟩ := Run.exchanges_done_iff.mp done
    exact ⟨letter, result, answer, rfl, hl⟩
  · rintro ⟨letter, result, answer, rfl, hl⟩
    refine Run.exchanges_request_bind_iff.mpr ⟨(), _, rfl,
      Run.exchanges_request_bind_iff.mpr ⟨now, _, rfl, ?_⟩⟩
    rw [spells]
    refine ((fails.reaches_bind _).exchanges_iff).mpr ?_
    exact Run.exchanges_bind_iff.mpr ⟨result, letter, _, rfl, hl, .ask (.done _)⟩

/-- A publication settles no message. -/
theorem onlyAsks_publish (queue : String) (body : Body) :
    OnlyAsks (fun r : Request => r.settles = false) (publish queue body) := by
  refine ⟨rfl, fun slot => ?_⟩
  cases slot with
  | none => trivial
  | some channel =>
      refine ⟨rfl, fun answer => ?_⟩
      rcases answer with e | ⟨⟩
      · exact ⟨rfl, fun _ => trivial⟩
      · exact ⟨rfl, fun _ => trivial⟩

/-- A dead letter settles no message. -/
theorem onlyAsks_publishDeadLetter (t : Topology) (job : Job) (error : DeliveryError) :
    OnlyAsks (fun r : Request => r.settles = false) (publishDeadLetter t job error) := by
  refine ⟨rfl, fun time => (onlyAsks_publish _ _).bind fun result => ?_⟩
  rcases result with e | ⟨⟩
  · trivial
  · exact ⟨rfl, fun _ => trivial⟩

/-- A handler settles no message. -/
theorem onlyAsks_carry {α : Type} (t : Topology) (run : Run Delivery.interface α) :
    OnlyAsks (fun r : Request => r.settles = false) (carry t run) := by
  refine OnlyAsks.within (OnlyAsks.of_forall (fun r => ?_) run)
  cases r with
  | publish report =>
      refine (onlyAsks_publish _ _).bind fun result => ?_
      rcases result with e | ⟨⟩
      · trivial
      · trivial
  | _ => exact ⟨rfl, fun _ => trivial⟩

/-! ### What becomes of a dead letter -/

/-- The failed queue took the dead letter of a job in one of the exchanges. -/
def Recorded (t : Topology) (job : Job) (error : DeliveryError)
    (es : List (Exchange interface)) : Prop :=
  ∃ time channel, (⟨.publishOver channel t.failedQueue (letterBody job error time), .ok ()⟩ :
    Exchange interface) ∈ es

/-- Each exchange is answered by the station of its moment. -/
def Attended : (Nat → Station) → List (Exchange interface) → Prop
  | _, [] => True
  | s, e :: es => (s 0).Gives e ∧ Attended (fun i => s (i + 1)) es

/-- Publishing a dead letter goes well if the failed queue took it. -/
theorem ok_iff_recorded {t : Topology} {job : Job} {error : DeliveryError}
    {es : List (Exchange interface)} {result : Except BrokerError Unit}
    (h : Exchanges (publishDeadLetter t job error) es result) :
    result = .ok () ↔ Recorded t job error es := by
  obtain ⟨time, publication, hp, rfl⟩ := exchanges_publishDeadLetter_iff.mp h
  rcases exchanges_publish_iff.mp hp with
    ⟨rfl, rfl⟩ | ⟨channel, rfl, rfl⟩ | ⟨channel, e, rfl, rfl⟩
  · simp [Recorded, letterNote]
  · simp only [true_iff]
    exact ⟨time, channel, by simp⟩
  · simp [Recorded, letterNote]

/-- Exchanges one after the other are answered by the stations of one stretch and then the other. -/
theorem attended_append_iff {es fs : List (Exchange interface)} {s : Nat → Station} :
    Attended s (es ++ fs) ↔ Attended s es ∧ Attended (fun i => s (es.length + i)) fs := by
  induction es generalizing s with
  | nil => simp [Attended]
  | cons e es ih =>
      have hshift : (fun i => s ((e :: es).length + i)) = fun i => s (es.length + i + 1) := by
        funext i
        rw [List.length_cons, Nat.add_right_comm]
      rw [List.cons_append, Attended, Attended, ih, hshift, and_assoc]

/-- A publication goes well if there is a channel when it is looked up, and the channel takes
messages when it is used. -/
theorem publish_ok_iff_takes {queue : String} {body : Body} {es : List (Exchange interface)}
    {result : Except BrokerError Unit} (h : Exchanges (publish queue body) es result)
    {s : Nat → Station} (attended : Attended s es) :
    result = .ok () ↔
      ∃ channel, (s 0).link.slot = some channel ∧ (s 1).takes channel = true := by
  rcases exchanges_publish_iff.mp h with
    ⟨rfl, rfl⟩ | ⟨channel, rfl, rfl⟩ | ⟨channel, e, rfl, rfl⟩
  · obtain ⟨looked, -⟩ := attended
    have hslot : none = (s 0).link.slot := looked
    simp [← hslot]
  · obtain ⟨looked, used, -⟩ := attended
    have hslot : some channel = (s 0).link.slot := looked
    have hok : .ok () = ((s 1).publishOver channel _ _).1 := used
    simp only [true_iff]
    exact ⟨channel, hslot.symm, Station.publishOver_ok_iff.mp hok.symm⟩
  · obtain ⟨looked, used, -⟩ := attended
    have hslot : some channel = (s 0).link.slot := looked
    have herror : .error e = ((s 1).publishOver channel _ _).1 := used
    refine ⟨fun heq => (nomatch heq), ?_⟩
    rintro ⟨channel', hslot', takes⟩
    obtain rfl := Option.some.inj (hslot.trans hslot')
    rw [Station.publishOver_ok_iff.mpr takes] at herror
    cases herror

/-- Publishing a dead letter goes well if there is a channel when it is looked up, and the channel
takes messages when it is used. -/
theorem ok_iff_takes {t : Topology} {job : Job} {error : DeliveryError}
    {es : List (Exchange interface)} {result : Except BrokerError Unit}
    (h : Exchanges (publishDeadLetter t job error) es result) {s : Nat → Station}
    (attended : Attended s es) :
    result = .ok () ↔
      ∃ channel, (s 1).link.slot = some channel ∧ (s 2).takes channel = true := by
  obtain ⟨time, publication, hp, rfl⟩ := exchanges_publishDeadLetter_iff.mp h
  have published : Attended (fun i => s (i + 1)) publication :=
    (attended_append_iff.mp attended.2).1
  exact publish_ok_iff_takes hp published

/-- A dead letter that was published is the last message of the failed queue, if that is declared.
It bears the time at which it was dated. -/
theorem waiting_of_ok {t : Topology} {job : Job} {error : DeliveryError}
    {es : List (Exchange interface)} (h : Exchanges (publishDeadLetter t job error) es (.ok ()))
    {s : Nat → Station} (attended : Attended s es)
    (declared : (s 2).broker.isDeclared t.failedQueue = true) :
    ∃ channel, (s 1).link.slot = some channel ∧
      ((s 2).publishOver channel t.failedQueue
        (letterBody job error (s 0).now)).2.broker.waiting t.failedQueue =
      (s 2).broker.waiting t.failedQueue ++ [letterBody job error (s 0).now] := by
  obtain ⟨channel, hslot, takes⟩ := (ok_iff_takes h attended).mp rfl
  refine ⟨channel, hslot, ?_⟩
  rw [Station.publishOver_broker takes]
  exact Broker.waiting_publish (Bool.and_eq_true_iff.mp takes).2 declared _

/-! ### Messages whose handler failed -/

/-- What follows on the work of a handler that failed: exchanges for the dead letter, which end well
or not, and the acknowledgement. -/
structure Aftermath (t : Topology) (h : Handout) (job : Job) (error : DeliveryError)
    (work rest letter : List (Exchange interface)) (result : Except BrokerError Unit) : Prop where
  /-- The acknowledgement comes last, and there is one in any case. -/
  acknowledged : ∃ answer, rest = letter ++ [⟨.acknowledge h, answer⟩]
  /-- Nothing settles the message before. -/
  unsettled : ∀ e ∈ work ++ letter, e.1.settles = false
  /-- Between the work and the acknowledgement stands the publication of the dead letter. -/
  written : Exchanges (publishDeadLetter t job error) letter result
  /-- It goes well if the failed queue took the dead letter. -/
  recorded : result = .ok () ↔ Recorded t job error letter
  /-- That depends on the link and the broker at two moments, whatever they are at the others. -/
  takes : ∀ s, Attended s letter → (result = .ok () ↔
    ∃ channel, (s 1).link.slot = some channel ∧ (s 2).takes channel = true)
  /-- The dead letter then waits on the failed queue. -/
  waits : ∀ s, Attended s letter → result = .ok () →
    (s 2).broker.isDeclared t.failedQueue = true → ∃ channel, (s 1).link.slot = some channel ∧
      ((s 2).publishOver channel t.failedQueue
        (letterBody job error (s 0).now)).2.broker.waiting t.failedQueue =
      (s 2).broker.waiting t.failedQueue ++ [letterBody job error (s 0).now]

/-- **A failed message is acknowledged, recorded or not.** Whatever a handler and its surroundings
do, a message whose handler failed is acknowledged at the end, once, after the publication of its
dead letter. The failed queue has the dead letter by then exactly if the link had a channel when it
was looked up and the channel took messages when it was used. -/
theorem aftermath_of_failure {t : Topology} {handler : Handler} {h : Handout} {now : Instant}
    {job failed : Job} {error : DeliveryError} {work rest : List (Exchange interface)}
    (spells : job? h.body (.ofInstant now) = some job)
    (fails : Exchanges (carry t (handler job)) work (.error error, failed))
    (settled : Exchanges (settle t handler h)
      (⟨.note .received, ()⟩ :: ⟨.delivery .now, now⟩ :: (work ++ rest)) ()) :
    ∃ letter result, Aftermath t h failed error work rest letter result := by
  obtain ⟨letter, result, answer, rfl, hl⟩ := (exchanges_settle_iff spells fails).mp settled
  refine ⟨letter, result, ⟨answer, rfl⟩, ?_, hl, ok_iff_recorded hl,
    fun s attended => ok_iff_takes hl attended, ?_⟩
  · intro e he
    rcases List.mem_append.mp he with he | he
    · exact (onlyAsks_carry t (handler job)).of_exchanges fails e he
    · exact (onlyAsks_publishDeadLetter t failed error).of_exchanges hl e he
  · rintro s attended rfl declared
    exact waiting_of_ok hl attended declared

/-- A job as it is given to the handler. -/
def lostJob : Job :=
  { (default : Job) with
    id := "n1", userId := "u1", deviceTokens := ["a"], title := "Title"
    createdAt := .ofInstant (0 : Nat) }

/-- The message that spells it. -/
def lostMessage : Handout := ⟨1, "push.queue", .ofJson lostJob.json⟩

/-- A handler that fails at once. -/
def cancelling : Handler := fun job => .done (.error .cancelled, job)

/-- The message spells the job. -/
theorem lostMessage_spells :
    job? lostMessage.body (.ofInstant (0 : Nat)) = some lostJob := by
  decide +kernel

/-- The handler fails. -/
theorem cancelling_fails :
    Exchanges (carry {} (cancelling lostJob)) [] (.error .cancelled, lostJob) :=
  .done _

/-- The message is settled when its dead letter was published, however that ended. -/
theorem lostMessage_settled {letter : List (Exchange interface)} {result : Except BrokerError Unit}
    (h : Exchanges (publishDeadLetter {} lostJob .cancelled) letter result) :
    Exchanges (settle {} cancelling lostMessage)
      (⟨.note .received, ()⟩ :: ⟨.delivery .now, (0 : Nat)⟩ ::
        ([] ++ (letter ++ [⟨.acknowledge lostMessage, .ok ()⟩]))) () :=
  (exchanges_settle_iff lostMessage_spells cancelling_fails).mpr ⟨letter, result, _, rfl, h⟩

/-- The exchanges of a dead letter that the broker takes. -/
def takenLetter : List (Exchange interface) :=
  [⟨.delivery .now, (0 : Nat)⟩, ⟨.channel, some (0 : Nat)⟩,
    ⟨.publishOver 0 "failed.queue" (letterBody lostJob .cancelled (0 : Nat)), .ok ()⟩,
    ⟨.note (.published "failed.queue"), ()⟩, ⟨.note (.deadLettered "cancelled"), ()⟩]

/-- They are the publication of the dead letter. -/
theorem takenLetter_published :
    Exchanges (publishDeadLetter {} lostJob .cancelled) takenLetter (.ok ()) :=
  exchanges_publishDeadLetter_iff.mpr
    ⟨(0 : Nat), _, exchanges_publish_iff.mpr (.inr (.inl ⟨0, rfl, rfl⟩)), rfl⟩

/-- A message whose handler failed, with the exchanges after it, and what they amount to. -/
theorem aftermath_of_failure_taken :
    job? lostMessage.body (.ofInstant (0 : Nat)) = some lostJob ∧
      Exchanges (carry {} (cancelling lostJob)) [] (.error .cancelled, lostJob) ∧
      ∃ letter result, Aftermath {} lostMessage lostJob .cancelled []
        (takenLetter ++ [⟨.acknowledge lostMessage, .ok ()⟩]) letter result ∧
        Recorded {} lostJob .cancelled letter := by
  refine ⟨lostMessage_spells, cancelling_fails, ?_⟩
  obtain ⟨letter, result, after⟩ := aftermath_of_failure lostMessage_spells cancelling_fails
    (lostMessage_settled takenLetter_published)
  obtain ⟨answer, heq⟩ := after.acknowledged
  obtain ⟨rfl, -⟩ := List.append_inj' heq rfl
  exact ⟨takenLetter, result, after, (0 : Nat), 0, by simp [takenLetter]⟩

/-- A station whose connection was lost, before the loss is noticed. -/
def severed : Station :=
  let linked := (({} : Station).connect).2
  { linked with broker := linked.broker.sever "lost" }

/-- The exchanges of a dead letter at that station. -/
def missedLetter : List (Exchange interface) :=
  [⟨.delivery .now, (0 : Nat)⟩, ⟨.channel, some (0 : Nat)⟩,
    ⟨.publishOver 0 "failed.queue" (letterBody lostJob .cancelled (0 : Nat)),
      .error .notConnected⟩,
    ⟨.note .publishFailed, ()⟩]

/-- They are the publication of the dead letter, too. -/
theorem missedLetter_published :
    Exchanges (publishDeadLetter {} lostJob .cancelled) missedLetter (.error .notConnected) :=
  exchanges_publishDeadLetter_iff.mpr
    ⟨(0 : Nat), _, exchanges_publish_iff.mpr (.inr (.inr ⟨0, _, rfl, rfl⟩)), rfl⟩

/-- A message whose handler failed while the connection was lost is acknowledged, and the failed
queue has no dead letter. -/
theorem lost_letter :
    ∃ es, Exchanges (settle severed.topology cancelling lostMessage) es () ∧
      Attended (fun _ => severed) es ∧
      job? lostMessage.body (.ofInstant severed.now) = some lostJob ∧
      Exchanges (carry severed.topology (cancelling lostJob)) [] (.error .cancelled, lostJob) ∧
      (⟨.acknowledge lostMessage, .ok ()⟩ : Exchange interface) ∈ es ∧
      ¬Recorded severed.topology lostJob .cancelled es := by
  refine ⟨_, lostMessage_settled missedLetter_published, ?_, lostMessage_spells,
    cancelling_fails, by simp, ?_⟩
  · exact ⟨rfl, rfl, rfl, rfl, rfl, rfl, rfl, trivial⟩
  · simp [Recorded, missedLetter]

end Transport

end PushDelivery
