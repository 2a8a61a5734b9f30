import PushDelivery.Proofs.Delivery.Endings
import PushDelivery.Proofs.Notification.Jobs

/-!
# Reports That Are Read Back

A report tells its consumers what became of a job and of each of its devices. Consumers know three
names of a status only, so that a partial delivery goes out as a delivery, and nothing that is read
back is a partial delivery. This module proves that nothing else is lost: every report is read from
its message, with all its outcomes, with its error whether it is a text or null, and with its dates,
and only the status of a partial delivery differs.

The status is not lost either. Deliveries publish no reports but those whose status is decided by
their counts, on the way of a job that is refused as on that of a job that is dispatched, and the
counts come back. So whoever reads a report of a delivery can tell a partial one.

## Main definitions

* `Report.Sound`: counts of 64 bits, and dates.
* `Status.received`, `Report.received`: what is read back.
* `Report.ofBody?`: the report that a message spells.

## Main results

* `Report.ofDocument?_ofJson`: the fields of a report give the report as it is received.
* `Delivery.publications_counted`: a report that a delivery publishes has the status of its counts.
* `Report.read_and_recovered`: every report is read back, and what a delivery reported is recovered.
-/

namespace PushDelivery

open Run (Exchange Exchanges)
open Delivery (interface publications publications_append publications_of_inChecks
  publications_of_inDispatch exchanges_process_iff exchanges_refuse_iff exchanges_deliver_iff
  exchanges_dispatch_iff)

/-- A text or null that is always written comes back. -/
theorem Fields.Holds.nullable {f : Fields} {name : String} {value : Option String}
    (h : f.Holds name (Json.always name (.orNull value))) :
    f.nullable name Document.text? = some value := by
  rw [Fields.nullable, h]
  cases value <;> rfl

/-! ### Outcomes -/

namespace Outcome

/-- An outcome holds no numbers. -/
theorem exact_json (o : Outcome) : o.json.Exact := by
  refine Json.exact_record.mpr ?_
  have truth (b : Bool) : (Json.bool b).Exact := by
    intro n hn
    simp [Json.parts] at hn
  simp [truth, Moment.json]

/-- The fields of an outcome give the outcome. -/
theorem ofDocument?_ofJson {o : Outcome} (dated : o.sentAt.Valid) :
    ofDocument? (.ofJson o.json) = some o := by
  obtain ⟨f, hf, -, holds⟩ := Document.exists_record? names (v := o.json) rfl
    (by simp [Json.Named, names]) (by decide)
  rw [ofDocument?, hf, Option.bind_eq_bind, Option.bind_some, (holds 0 _ _ rfl).required,
    (holds 1 _ _ rfl).required, (holds 2 _ _ rfl).text, (holds 3 _ _ rfl).text,
    (holds 4 _ _ rfl).required, Document.moment?_json dated, (holds 5 _ _ rfl).text]
  rfl

end Outcome

/-! ### Statuses -/

namespace Status

/-- The status that is read where this one was written. -/
def received : Status → Status
  | .partiallyDelivered => .delivered
  | s => s

/-- A status is read back, a partial delivery as a delivery. -/
theorem ofDocument?_json (s : Status) : ofDocument? (.ofJson s.json) = some s.received := by
  cases s <;> rfl

/-- Counts with a success go out as delivered. -/
theorem wireName_ofCounts_eq_delivered_iff {sent failed : Nat} :
    (ofCounts sent failed).wireName = "delivered" ↔ 1 ≤ sent := by
  unfold ofCounts
  split
  · rename_i hnone
    exact iff_of_false (by decide) (by omega)
  · rename_i hsome
    refine iff_of_true ?_ (Nat.one_le_iff_ne_zero.mpr hsome)
    split <;> rfl

/-- Counts without a success go out as failed. -/
theorem wireName_ofCounts_eq_failed_iff {sent failed : Nat} :
    (ofCounts sent failed).wireName = "failed" ↔ sent = 0 := by
  unfold ofCounts
  split
  · rename_i hnone
    exact iff_of_true rfl hnone
  · rename_i hsome
    refine iff_of_false ?_ hsome
    split <;> decide

end Status

/-! ### Reports -/

namespace Report

/-- Counts of 64 bits, and dates. -/
structure Sound (r : Report) : Prop where
  /-- The count of successes fits its 64 bits. -/
  sent : r.sentCount < countBound
  /-- The count of failures fits its 64 bits. -/
  failed : r.failedCount < countBound
  /-- The report was made at a date. -/
  dated : r.timestamp.Valid
  /-- The outcomes happened at dates. -/
  outcomes : ∀ o ∈ r.results, o.sentAt.Valid

/-- The report that is read where this one was written. -/
def received (r : Report) : Report := { r with status := r.status.received }

/-- The report that a message spells. -/
def ofBody? (body : Body) : Option Report := body.document?.bind ofDocument?

variable {r : Report}

/-- A sound report is written exactly. -/
theorem Sound.exact (sound : r.Sound) : r.json.Exact := by
  have sent : (Json.ofNat r.sentCount).Exact := Json.exact_ofNat sound.sent
  have failed : (Json.ofNat r.failedCount).Exact := Json.exact_ofNat sound.failed
  have results : (Json.arr (r.results.map Outcome.json)).Exact :=
    Json.exact_arr.mpr (List.forall_mem_map.mpr fun o _ => o.exact_json)
  have error : (Json.orNull r.error).Exact := by
    cases r.error with
    | some s => exact Json.exact_str s
    | none =>
        intro n hn
        simp [Json.orNull, Json.parts] at hn
  refine Json.exact_record.mpr ?_
  simp [sent, failed, results, error, Status.json, Moment.json]

/-- **A report is read from its fields.** The fields of a sound report give the report as it is
received. -/
theorem ofDocument?_ofJson (sound : r.Sound) :
    ofDocument? (.ofJson r.json) = some r.received := by
  obtain ⟨f, hf, -, holds⟩ := Document.exists_record? names (v := r.json) rfl
    (by simp [Json.Named, names]) (by decide)
  have results : Document.list? Outcome.ofDocument? (.ofJson (.arr (r.results.map Outcome.json))) =
      some r.results :=
    Document.list?_arr fun o ho => Outcome.ofDocument?_ofJson (sound.outcomes o ho)
  rw [ofDocument?, hf, Option.bind_eq_bind, Option.bind_some, (holds 0 _ _ rfl).required,
    (holds 1 _ _ rfl).text, (holds 2 _ _ rfl).required, (holds 3 _ _ rfl).required,
    Status.ofDocument?_json, (holds 4 _ _ rfl).required, (holds 5 _ _ rfl).required,
    Document.below?_ofNat sound.sent, (holds 6 _ _ rfl).required,
    Document.below?_ofNat sound.failed, (holds 7 _ _ rfl).withDefault, results,
    (holds 8 _ _ rfl).nullable, (holds 9 _ _ rfl).required, Document.moment?_json sound.dated,
    (holds 10 _ _ rfl).text]
  rfl

/-- A sound report is spelled by its own message, up to a partial delivery. -/
theorem Sound.ofBody?_ofJson (sound : r.Sound) : ofBody? (.ofJson r.json) = some r.received := by
  rw [ofBody?, Body.document?_ofJson sound.exact, Option.bind_some, ofDocument?_ofJson sound]

/-- The status in a message of a report. -/
theorem field?_status (r : Report) : r.json.field? "status" = some (.str r.status.wireName) := by
  obtain ⟨_, requestId, _⟩ := r
  cases requestId <;> rfl

end Report

/-! ### Reports of deliveries -/

/-- **The status of a report that a delivery publishes is decided by its counts**, whether its job
was refused or dispatched. -/
theorem Delivery.publications_counted {c : Courier} {job : Job} {es : List (Exchange interface)}
    {res : Except DeliveryError Unit × Job} (run : Exchanges (c.process job) es res) :
    ∀ r ∈ publications es, r.status = .ofCounts r.sentCount r.failedCount := by
  rcases exchanges_process_iff.mp run with
    ⟨suppressed, -⟩ | ⟨checks, rest, started, message, error, rfl, refused, go⟩ |
      ⟨checks, rest, started, content, rfl, cleared, go⟩
  · rw [publications_of_inChecks suppressed.inChecks]
    nofun
  · obtain ⟨now, accepted, marks, rfl, marked, -⟩ := exchanges_refuse_iff.mp go
    rw [publications_append, publications_of_inChecks refused.inChecks,
      marked.publications_closing, List.nil_append, List.forall_mem_singleton]
    rfl
  · obtain ⟨tries, result, progress, now, accepted, marks, dispatched, rfl, marked, -⟩ :=
      exchanges_deliver_iff.mp go
    have attempts := exchanges_dispatch_iff.mp dispatched
    rw [publications_append, publications_append, publications_of_inChecks cleared.inChecks,
      publications_of_inDispatch attempts.inDispatch, marked.publications_closing,
      List.nil_append, List.nil_append, List.forall_mem_singleton]
    rfl

namespace Report

/-- Where counts decide the status, they recover it from what is received. -/
theorem recovered {r : Report} (counted : r.status = .ofCounts r.sentCount r.failedCount) :
    { r.received with status := .ofCounts r.received.sentCount r.received.failedCount } = r := by
  obtain ⟨_, _, _, _⟩ := r
  exact congrArg (Report.mk _ _ _ · _ _ _ _ _ _ _) counted.symm

/-- **A report is read back, and its split is recovered.** Every report with counts of 64 bits and
with dates is spelled by its own message, as a text and in octets, but for a partial delivery that
is read as a delivery. A report that a delivery publishes goes out as delivered exactly if it counts
a success, and as failed exactly if it counts none. So it is what is received, with the status that
the counts decide. -/
theorem read_and_recovered :
    (∀ r : Report, r.Sound →
      ofBody? (.ofJson r.json) = some r.received ∧
        ofBody? (.octets (Body.ofJson r.json).toOctets) = some r.received) ∧
    ∀ (c : Courier) (job : Job) (es : List (Exchange interface))
      (res : Except DeliveryError Unit × Job), Exchanges (c.process job) es res →
      ∀ r ∈ publications es,
        (r.json.field? "status" = some (.str "delivered") ↔ 1 ≤ r.sentCount) ∧
          (r.json.field? "status" = some (.str "failed") ↔ r.sentCount = 0) ∧
          { r.received with status := .ofCounts r.received.sentCount r.received.failedCount } =
            r := by
  refine ⟨fun r sound => ⟨sound.ofBody?_ofJson, ?_⟩, fun c job es res run r published => ?_⟩
  · rw [ofBody?, Body.document?_toOctets]
    exact sound.ofBody?_ofJson
  · have counted := Delivery.publications_counted run r published
    have named (name : String) : r.json.field? "status" = some (.str name) ↔
        (Status.ofCounts r.sentCount r.failedCount).wireName = name := by
      rw [field?_status, ← counted, Option.some.injEq, Json.str.injEq]
    exact ⟨(named _).trans Status.wireName_ofCounts_eq_delivered_iff,
      (named _).trans Status.wireName_ofCounts_eq_failed_iff, recovered counted⟩

/-- Surroundings in which nothing was sent before, and the gateway reaches the first of several
devices. -/
def firstReached : (r : Delivery.Request) → r.Answer
  | .now => (0 : Nat)
  | .guard (.increment ..) => .ok (1 : Nat)
  | .guard (.lookup _) => .ok false
  | .guard (.write ..) => .ok ()
  | .guard (.letPass _) => ()
  | .template code => .error (.notFound code)
  | .permit => true
  | .settle _ => ()
  | .send token _ => .ok (.delivered token "m1" (.ofInstant (0 : Nat)))
  | .sendMany tokens _ => .ok (tokens.zipIdx.map fun (token, i) =>
      if i = 0 then .delivered token "m1" (.ofInstant (0 : Nat))
      else .failed token "unregistered" (.ofInstant (0 : Nat)))
  | .pause _ => .elapsed
  | .publish _ => true
  | .note _ => ()

/-- A delivery to two devices in these surroundings. -/
def firstReachedRun : List (Exchange interface) × Except DeliveryError Unit × Job :=
  (Delivery.oneAttempt.process (Delivery.plainJob ["a", "b"])).against fun _ => firstReached

/-- The report on it. -/
def splitReport : Report :=
  { notificationId := "n1", requestId := none, userId := "u1", status := .partiallyDelivered
    message := "Partially delivered: 1 succeeded, 1 failed", sentCount := 1, failedCount := 1
    results := [.delivered "a" "m1" (.ofInstant (0 : Nat)),
      .failed "b" "unregistered" (.ofInstant (0 : Nat))]
    error := none, timestamp := .ofInstant (0 : Nat), correlationId := none }

/-- The report goes out and comes back as delivered, and its counts tell the split. -/
theorem read_and_recovered_split :
    splitReport.Sound ∧ Exchanges (Delivery.oneAttempt.process (Delivery.plainJob ["a", "b"]))
        firstReachedRun.1 firstReachedRun.2 ∧
      splitReport ∈ publications firstReachedRun.1 ∧
      ofBody? (.ofJson splitReport.json) = some { splitReport with status := .delivered } ∧
      splitReport.json.field? "status" = some (.str "delivered") ∧
      Status.ofCounts splitReport.received.sentCount splitReport.received.failedCount =
        .partiallyDelivered := by
  have sound : splitReport.Sound :=
    ⟨by decide, by decide, by decide, by decide⟩
  have run := Run.exchanges_against
    (Delivery.oneAttempt.process (Delivery.plainJob ["a", "b"])) fun _ => firstReached
  have published : splitReport ∈ publications firstReachedRun.1 := by decide +kernel
  obtain ⟨delivered, -, split⟩ := read_and_recovered.2 _ _ _ _ run _ published
  exact ⟨sound, run, published, (read_and_recovered.1 _ sound).1, delivered.mpr (by decide),
    congrArg Report.status split⟩

end Report

end PushDelivery
