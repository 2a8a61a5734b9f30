import PushDelivery.Proofs.Delivery.Reporting
import PushDelivery.Proofs.Runs.Likeness

/-!
# What Can Be Foreseen of a Delivery

Let the gateway answer every request, with the outcomes that it has for each device once and for
all, let the templates be fixed, and let the guard, the breaker and the waits not stand in the way
of a job. Then nothing is left open but times: when a message was received, when an attempt was
made, when a device was reached. This module shows that times have no influence on anything else.
Two deliveries of one job ask for the same things in the same order, attempt by attempt, and come to
the same report and the same result, up to their dates.

## Main definitions

* `Outcome.undated`, `Job.undated`, `Report.undated`, `DeadLetter.undated`: messages without the
  dates that the service gives them.
* `Delivery.Foresight`: what gateway and templates have to say.
* `Delivery.Foreseen`: an exchange of which nothing is left open but times.
* `Delivery.Matches`, `Delivery.Agree`: requests that are the same but for dates, and parts of
  deliveries that ask for such requests.

## Main results

* `Ledger.pending_undated`, `Ledger.results_undated`: what is read off a ledger without its dates.
* `Delivery.agree_dispatch`: all attempts of a dispatch, whatever the outcomes of devices are.
* `Delivery.agree_process`: the delivery of a job as a whole.
* `Delivery.foretold`: what a delivery comes to is told from the job and from what gateway and
  templates have to say.
-/

namespace PushDelivery

open Run (Exchange Exchanges Alike)

/-! ### Messages without dates -/

/-- An outcome without its date. -/
def Outcome.undated (o : Outcome) : Outcome := { o with sentAt := default }

/-- A job without the date of its creation, which is that of its receipt if the message has none. -/
def Job.undated (j : Job) : Job := { j with createdAt := default }

/-- A job with another date of its creation. -/
def Job.createdOn (j : Job) (date : Moment) : Job := { j with createdAt := date }

/-- A report without its date and those of its outcomes. -/
def Report.undated (r : Report) : Report :=
  { r with results := r.results.map Outcome.undated, timestamp := default }

/-- A dead letter without its date and that of its job. -/
def DeadLetter.undated (l : DeadLetter) : DeadLetter :=
  { l with originalMessage := l.originalMessage.undated, failedAt := default }

namespace Ledger

/-- A ledger without the dates of its outcomes. -/
def undated (l : Ledger) : Ledger := { l with history := l.history.map Outcome.undated }

variable (l : Ledger)

/-- Recorded outcomes keep all but their dates. -/
theorem undated_record (os : List Outcome) :
    (l.record os).undated = l.undated.record (os.map Outcome.undated) := by
  simp only [record, undated, List.map_append, List.map_reverse, List.map_map]
  rfl

/-- Dates do not decide which outcome of a device counts. -/
theorem outcome?_undated (token : String) :
    l.undated.outcome? token = (l.outcome? token).map Outcome.undated :=
  List.find?_map

/-- Dates do not decide whether a device was reached. -/
theorem isReached_undated (token : String) : l.undated.isReached token = l.isReached token := by
  rw [isReached, isReached, outcome?_undated]
  cases l.outcome? token <;> rfl

/-- Dates do not decide which devices are still to be reached. -/
theorem pending_undated (tokens : List String) : l.undated.pending tokens = l.pending tokens :=
  List.filter_congr fun token _ => congrArg not (l.isReached_undated token)

/-- The outcomes known for some devices, without their dates. -/
theorem outcomes_undated (tokens : List String) :
    l.undated.outcomes tokens = (l.outcomes tokens).map Outcome.undated := by
  rw [outcomes, outcomes, List.map_filterMap]
  exact List.filterMap_congr fun token _ => l.outcome?_undated token

/-- One outcome per device, without their dates, is told from the ledger without dates. -/
theorem results_undated (tokens : List String) (error : Option DeliveryError) (now : Moment) :
    (l.results tokens error now).map Outcome.undated = l.undated.results tokens error default := by
  unfold results
  rw [List.map_map]
  refine List.map_congr_left fun token _ => ?_
  rw [Function.comp_apply, outcome?_undated]
  cases l.outcome? token <;> rfl

end Ledger

namespace Delivery

/-- Dates do not decide how an attempt ended. -/
theorem verdict_undated (os : List Outcome) :
    verdict (os.map Outcome.undated) = verdict os := by
  rw [verdict, verdict, List.any_map, List.length_map, ← List.map_reverse, List.findSome?_map]
  rfl

/-- What a dispatch has come to, without dates. -/
def Progress.undated (p : Progress) : Progress := { p with ledger := p.ledger.undated }

/-- Recorded outcomes keep it, if they are the same but for their dates. -/
theorem Progress.undated_record {p p' : Progress} (same : p.undated = p'.undated)
    {os os' : List Outcome} (outcomes : os.map Outcome.undated = os'.map Outcome.undated) :
    ({ p with ledger := p.ledger.record os } : Progress).undated =
      ({ p' with ledger := p'.ledger.record os' } : Progress).undated := by
  obtain ⟨ledger, spent⟩ := Progress.mk.inj same
  rw [undated, undated, Ledger.undated_record, Ledger.undated_record, ledger, outcomes, spent]

/-- So does another number of attempts. -/
theorem Progress.undated_spend {p p' : Progress} (same : p.undated = p'.undated) (spent : Nat) :
    ({ p with spent } : Progress).undated = ({ p' with spent } : Progress).undated :=
  congrArg (Progress.mk · spent) (Progress.mk.inj same).1

/-- Dates do not decide which devices are still to be reached. -/
theorem Progress.pending_of_undated {p p' : Progress} (same : p.undated = p'.undated)
    (tokens : List String) : p.ledger.pending tokens = p'.ledger.pending tokens := by
  obtain ⟨ledger, -⟩ := Progress.mk.inj same
  rw [← Ledger.pending_undated, ledger, Ledger.pending_undated]

/-- Nor do they decide how an attempt ended. -/
theorem Progress.verdict_of_undated {p p' : Progress} (same : p.undated = p'.undated)
    (tokens : List String) :
    verdict (p.ledger.outcomes tokens) = verdict (p'.ledger.outcomes tokens) := by
  obtain ⟨ledger, -⟩ := Progress.mk.inj same
  rw [← verdict_undated, ← Ledger.outcomes_undated, ledger, Ledger.outcomes_undated,
    verdict_undated]

/-! ### Answers that are foreseen -/

/-- What the gateway has to say about each device, and the template service about each template. -/
structure Foresight where
  outcome : String → Outcome
  template : String → Except TemplateError Template

/-- The answer of an exchange is left open by nothing but times: a user is counted for the first
time, a job is not known, the circuit lets calls through, no wait is cut short, and gateway and
templates answer as foreseen. -/
def Foreseen (v : Foresight) : Exchange interface → Prop
  | ⟨.guard (.increment ..), answer⟩ => answer = .ok 1
  | ⟨.guard (.lookup _), answer⟩ => answer = .ok false
  | ⟨.guard (.write ..), answer⟩ => answer = .ok ()
  | ⟨.template code, answer⟩ => answer = v.template code
  | ⟨.permit, admitted⟩ => admitted = true
  | ⟨.send token _, answer⟩ => ∃ o, answer = .ok o ∧ o.undated = (v.outcome token).undated
  | ⟨.sendMany tokens _, answer⟩ => ∃ os, answer = .ok os ∧
      os.map Outcome.undated = tokens.map fun token => (v.outcome token).undated
  | ⟨.pause _, how⟩ => how = .elapsed
  | _ => True

/-- An answer that is foreseen, to each request. -/
def Foresight.answer (v : Foresight) : (r : Request) → r.Answer
  | .now => (0 : Nat)
  | .guard (.increment ..) => .ok (1 : Nat)
  | .guard (.lookup _) => .ok false
  | .guard (.write ..) => .ok ()
  | .guard (.letPass _) => ()
  | .template code => v.template code
  | .permit => true
  | .settle _ => ()
  | .send token _ => .ok (v.outcome token)
  | .sendMany tokens _ => .ok (tokens.map v.outcome)
  | .pause _ => .elapsed
  | .publish _ => true
  | .note _ => ()

/-- These answers are foreseen. -/
theorem foreseen_answer (v : Foresight) (r : Request) : Foreseen v ⟨r, v.answer r⟩ := by
  cases r with
  | guard r => cases r <;> first | rfl | trivial
  | template | permit | pause => rfl
  | send token content => exact ⟨_, rfl, rfl⟩
  | sendMany tokens content => exact ⟨_, rfl, by rw [List.map_map]; rfl⟩
  | now | settle | publish | note => trivial

/-- Requests are the same but for dates, and none of them settles a call that has failed. -/
inductive Matches : Request → Request → Prop
  | publish {r r' : Report} (same : r.undated = r'.undated) : Matches (.publish r) (.publish r')
  | note (e e' : Event) : Matches (.note e) (.note e')
  | same {r : Request} (noFailure : r ≠ .settle false) : Matches r r

/-- Two parts of deliveries that agree but for dates, if all that they are answered is foreseen. -/
abbrev Agree {α α' : Type} (v : Foresight) (V : α → α' → Prop) :
    Run interface α → Run interface α' → Prop :=
  Alike (Foreseen v) Matches V

variable {v : Foresight}

/-- Two parts may ask for the time. -/
theorem agree_now : Agree v (fun _ _ => True) (request .now) (request .now) :=
  ⟨.same nofun, fun _ _ _ _ => trivial⟩

/-! ### Attempts -/

/-- Two results of parts of a dispatch are the same but for dates. -/
def SameCourse {ε : Type} (x x' : ε × Progress) : Prop :=
  x.1 = x'.1 ∧ x.2.undated = x'.2.undated

/-- Sending batches agrees, and no request fails. -/
theorem agree_sendBatches (content : Content) (bs : List (List String)) {p p' : Progress}
    (same : p.undated = p'.undated) :
    Agree v (fun x x' => (x.1 = .ok () ∧ x'.1 = .ok ()) ∧ x.2.undated = x'.2.undated)
      ((sendBatches content bs).run p) ((sendBatches content bs).run p') := by
  induction bs generalizing p p' with
  | nil => exact ⟨⟨rfl, rfl⟩, same⟩
  | cons batch rest ih =>
      rw [run_sendBatches_cons, run_sendBatches_cons]
      refine ⟨.same nofun, ?_⟩
      rintro _ _ ⟨os, rfl, hos⟩ ⟨os', rfl, hos'⟩
      exact ⟨.note _ _, fun _ _ _ _ => ih (Progress.undated_record same (hos.trans hos'.symm))⟩

/-- So does sending to some devices. -/
theorem agree_sendAll (content : Content) (tokens : List String) {p p' : Progress}
    (same : p.undated = p'.undated) :
    Agree v (fun x x' => (x.1 = .ok () ∧ x'.1 = .ok ()) ∧ x.2.undated = x'.2.undated)
      ((sendAll content tokens).run p) ((sendAll content tokens).run p') := by
  match tokens with
  | [] => exact agree_sendBatches content _ same
  | t :: u :: rest => exact agree_sendBatches content _ same
  | [token] =>
      rw [run_sendAll_singleton, run_sendAll_singleton]
      refine ⟨.same nofun, ?_⟩
      rintro _ _ ⟨o, rfl, ho⟩ ⟨o', rfl, ho'⟩
      refine ⟨.note _ _, fun _ _ _ _ => ⟨⟨rfl, rfl⟩, Progress.undated_record same ?_⟩⟩
      rw [List.map_singleton, List.map_singleton, ho, ho']

/-- Attempts agree: the same devices are still to be reached, and their outcomes decide alike. -/
theorem agree_attempt (breaker : String) (content : Content) (tokens : List String) (number : Nat)
    {p p' : Progress} (same : p.undated = p'.undated) :
    Agree v SameCourse ((attempt breaker content tokens number).run p)
      ((attempt breaker content tokens number).run p') := by
  rw [run_attempt, run_attempt, Progress.pending_of_undated same]
  refine ⟨.same nofun, ?_⟩
  rintro _ _ rfl rfl
  refine (agree_sendAll content _ (Progress.undated_spend same (number + 1))).bind ?_
  rintro ⟨_, q⟩ ⟨_, q'⟩ ⟨⟨rfl, rfl⟩, course⟩
  exact ⟨.same nofun, fun _ _ _ _ => ⟨Progress.verdict_of_undated course _, course⟩⟩

/-- The attempts that a policy leaves agree, one after the other. -/
theorem agree_attempts (policy : RetryPolicy) (breaker : String) (content : Content)
    (tokens : List String) (left number : Nat) {p p' : Progress} (same : p.undated = p'.undated) :
    Agree v SameCourse
      ((policy.attempts pause (attempt breaker content tokens) left number).run p)
      ((policy.attempts pause (attempt breaker content tokens) left number).run p') := by
  induction left generalizing number p p' with
  | zero => exact ⟨rfl, same⟩
  | succ left ih =>
      rw [run_attempts_succ, run_attempts_succ]
      refine (agree_attempt breaker content tokens number same).bind ?_
      rintro ⟨result, q⟩ ⟨_, q'⟩ ⟨rfl, course⟩
      cases result with
      | ok => exact ⟨rfl, course⟩
      | error e =>
          by_cases again : e.isRetryable ∧ left ≠ 0
          · simp only [proceed, if_pos again]
            refine ⟨.note _ _, fun _ _ _ _ => ⟨.same (by simp), ?_⟩⟩
            rintro _ _ rfl rfl
            exact ih (number + 1) course
          · simp only [proceed, if_neg again]
            exact ⟨rfl, course⟩

/-- **Dispatches agree**: as many attempts are made, the same devices are sent to in each, and they
come to the same, whatever the outcomes of the devices are. -/
theorem agree_dispatch (policy : RetryPolicy) (breaker : String) (content : Content)
    (tokens : List String) (correlationId : Option String) (spent : Nat) :
    Agree v SameCourse (dispatch policy breaker content tokens correlationId spent)
      (dispatch policy breaker content tokens correlationId spent) :=
  agree_attempts policy breaker content tokens _ spent rfl

/-! ### Deliveries -/

/-- Two results of deliveries are the same but for dates. -/
def SameEnd (x x' : Except DeliveryError Unit × Job) : Prop :=
  x.1 = x'.1 ∧ x.2.undated = x'.2.undated

/-- Decisions of the guard agree. -/
theorem agree_checkRate (g : Guard) (userId : String) :
    Agree v (fun d d' => d = d') (guarded (g.checkRate userId)) (guarded (g.checkRate userId)) := by
  refine ⟨.same nofun, ?_⟩
  rintro _ _ rfl rfl
  rfl

/-- No marker is found. -/
theorem agree_isDuplicate (jobId : String) :
    Agree v (fun found found' => found = false ∧ found' = false) (guarded (Guard.isDuplicate jobId))
      (guarded (Guard.isDuplicate jobId)) := by
  refine ⟨.same nofun, ?_⟩
  rintro _ _ rfl rfl
  exact ⟨rfl, rfl⟩

/-- The contents of a job agree. -/
theorem agree_prepare (job : Job) :
    Agree v (fun x x' => x = x') (Courier.prepare job) (Courier.prepare job) := by
  unfold Courier.prepare
  cases job.template? with
  | none => rfl
  | some code =>
      refine ⟨.same nofun, ?_⟩
      rintro _ _ rfl rfl
      cases v.template code with
      | error e => rfl
      | ok template => rfl

/-- Outcomes that are the same but for dates have as many successes, and are as many. -/
theorem counts_of_undated {os os' : List Outcome}
    (same : os.map Outcome.undated = os'.map Outcome.undated) :
    (os.filter (·.success)).length = (os'.filter (·.success)).length ∧ os.length = os'.length := by
  have successes : ∀ os : List Outcome, ((os.map Outcome.undated).filter (·.success)).length =
      (os.filter (·.success)).length := fun os => by
    rw [List.filter_map, List.length_map]
    rfl
  constructor
  · rw [← successes os, same, successes]
  · rw [← List.length_map Outcome.undated, same, List.length_map]

/-- Reports are the same but for dates if their outcomes are. -/
theorem undated_report (job : Job) (date : Moment) (status : Status) (message : String)
    {os os' : List Outcome} (same : os.map Outcome.undated = os'.map Outcome.undated)
    (error : Option DeliveryError) (now now' : Moment) :
    (Courier.report job status message os error now).undated =
      (Courier.report (job.createdOn date) status message os' error now').undated := by
  obtain ⟨sent, length⟩ := counts_of_undated same
  unfold Report.undated Courier.report
  dsimp only
  rw [same, sent, length]
  rfl

/-- The ends of deliveries agree if their reports do. -/
theorem agree_finish (job : Job) (date : Moment) {report report' : Report}
    (same : report.undated = report'.undated) (elapsed elapsed' : Duration) :
    Agree v (fun _ _ => True) (Courier.finish job report elapsed)
      (Courier.finish (job.createdOn date) report' elapsed') := by
  refine ⟨.note _ _, fun _ _ _ _ => ⟨.publish same, fun _ _ _ _ => ?_⟩⟩
  change Agree v _ (if Text.isBlankText job.id then _ else _)
    (if Text.isBlankText job.id then _ else _)
  split
  · exact trivial
  · refine ⟨.same nofun, ?_⟩
    rintro _ _ rfl rfl
    trivial

/-- Refusals agree. -/
theorem agree_refuse (job : Job) (date : Moment) (started started' : Instant) (message : String)
    (error : DeliveryError) :
    Agree v SameEnd (Courier.refuse job started message error)
      (Courier.refuse (job.createdOn date) started' message error) := by
  refine agree_now.bind fun now now' _ => ?_
  have reports := undated_report job date .failed message (rfl : ([] : List Outcome).map _ = [])
    (some error) (.ofInstant now) (.ofInstant now')
  exact (agree_finish job date reports _ _).bind fun _ _ _ => ⟨rfl, rfl⟩

/-- Reports on dispatches that agree are the same but for dates. -/
theorem undated_dispatchReport (job : Job) (date : Moment) (result : Except DeliveryError Unit)
    {progress progress' : Progress} (same : progress.undated = progress'.undated)
    (now now' : Instant) :
    (dispatchReport job result progress now).undated =
      (dispatchReport (job.createdOn date) result progress' now').undated := by
  obtain ⟨ledger, spent⟩ : progress.ledger.undated = progress'.ledger.undated ∧
    progress.spent = progress'.spent := Progress.mk.inj same
  have results := progress.ledger.results_undated job.validTokens (reason? result) (.ofInstant now)
  rw [ledger, ← progress'.ledger.results_undated _ _ (.ofInstant now')] at results
  obtain ⟨sent, length⟩ := counts_of_undated results
  unfold dispatchReport
  dsimp only
  rw [sent, length, spent]
  exact undated_report _ date _ _ results _ _ _

/-- What follows on a dispatch, with the report in one piece. -/
theorem deliver_eq (c : Courier) (job : Job) (started : Instant) (content : Content) :
    c.deliver job started content =
      dispatch c.retry c.breaker content job.validTokens job.correlationId job.attemptCount >>=
        fun x => request .now >>= fun now =>
          Courier.finish { job with attemptCount := x.2.spent } (dispatchReport job x.1 x.2 now)
            (now - started) >>= fun _ =>
              .done (if (dispatchReport job x.1 x.2 now).status = .failed then x.1 else .ok (),
                { job with attemptCount := x.2.spent }) := by
  refine congrArg (Run.bind _) (funext fun ⟨result, progress⟩ => ?_)
  cases result <;> rfl

/-- Deliveries of jobs that were cleared agree. -/
theorem agree_deliver (c : Courier) (job : Job) (date : Moment) (started started' : Instant)
    (content : Content) :
    Agree v SameEnd (c.deliver job started content)
      (c.deliver (job.createdOn date) started' content) := by
  rw [deliver_eq, deliver_eq]
  refine (agree_dispatch c.retry c.breaker content job.validTokens job.correlationId
    job.attemptCount).bind ?_
  rintro ⟨result, progress⟩ ⟨_, progress'⟩ ⟨rfl, same⟩
  have spent : progress.spent = progress'.spent := (Progress.mk.inj same).2
  refine agree_now.bind fun now now' _ => ?_
  have reports := undated_dispatchReport job date result same now now'
  have status := congrArg Report.status reports
  simp only [Report.undated] at status
  dsimp only
  rw [status, spent]
  exact (agree_finish _ date reports _ _).bind fun _ _ _ => ⟨rfl, rfl⟩

/-- **Deliveries of one job agree**, whenever it was created. -/
theorem agree_process (c : Courier) (job : Job) (date : Moment) :
    Agree v SameEnd (c.process job) (c.process (job.createdOn date)) := by
  refine agree_now.bind fun started started' _ => ?_
  refine Alike.bind (V := fun _ _ => True) ⟨.note _ _, fun _ _ _ _ => trivial⟩ fun _ _ _ => ?_
  refine (agree_checkRate c.guard job.userId).bind ?_
  rintro decision _ rfl
  cases decision with
  | exceeded count limit =>
      refine Alike.bind (V := fun _ _ => True) ⟨.note _ _, fun _ _ _ _ => trivial⟩ fun _ _ _ => ?_
      exact agree_refuse job date started started' _ _
  | allowed =>
      have valid : (job.createdOn date).problem? = job.problem? := rfl
      dsimp only
      rw [valid]
      cases job.problem? with
      | some problem => exact agree_refuse job date started started' _ _
      | none =>
          refine (agree_isDuplicate job.id).bind ?_
          rintro _ _ ⟨rfl, rfl⟩
          refine (agree_prepare job).bind ?_
          rintro prepared _ rfl
          cases prepared with
          | error e => exact agree_refuse job date started started' _ _
          | ok content => exact agree_deliver c job date started started' content

/-! ### What is foretold -/

/-- Matching requests publish the same reports but for dates. -/
theorem undated_publications {es es' : List (Exchange interface)}
    (matching : List.Forall₂ (fun e e' => Matches e.1 e'.1) es es') :
    (publications es).map Report.undated = (publications es').map Report.undated := by
  induction matching with
  | nil => rfl
  | @cons e e' es es' first _ ih =>
      obtain ⟨r, answer⟩ := e
      obtain ⟨r', answer'⟩ := e'
      cases first with
      | publish same => exact congrArg₂ List.cons same ih
      | note => exact ih
      | same => cases r <;> first | exact ih | exact congrArg (List.cons _) ih

/-- As long as all is as foreseen, no call fails. -/
theorem not_mem_settle_false {c : Courier} {job : Job} {es : List (Exchange interface)}
    {res : Except DeliveryError Unit × Job} (run : Exchanges (c.process job) es res)
    (foreseen : ∀ e ∈ es, Foreseen v e) : (⟨.settle false, ()⟩ : Exchange interface) ∉ es := by
  intro hmem
  have agrees : Agree v SameEnd (c.process job) (c.process job) :=
    agree_process c job job.createdAt
  have matching := (agrees.exchanges run run foreseen foreseen).1
  cases List.forall₂_same.mp matching _ hmem with
  | same noFailure => exact noFailure rfl

/-- The delivery of a job, with answers that are foreseen. -/
def Foresight.delivery (v : Foresight) (c : Courier) (job : Job) :
    List (Exchange interface) × Except DeliveryError Unit × Job :=
  (c.process job).against fun _ => v.answer

/-- **What a delivery comes to is foretold**: its reports, its result and the job that it gives back
depend on the job, the settings, and what gateway and templates have to say, and on nothing else but
their dates. -/
theorem foretold {c : Courier} {job : Job} {date : Moment} {es : List (Exchange interface)}
    {res : Except DeliveryError Unit × Job}
    (run : Exchanges (c.process (job.createdOn date)) es res) (foreseen : ∀ e ∈ es, Foreseen v e) :
    (publications (v.delivery c job).1).map Report.undated =
        (publications es).map Report.undated ∧
      SameEnd (v.delivery c job).2 res := by
  have agrees := agree_process (v := v) c job date
  obtain ⟨matching, same⟩ := agrees.exchanges (Run.exchanges_against _ fun _ => v.answer) run
    (Run.forall_mem_against _ _ fun _ => foreseen_answer v) foreseen
  exact ⟨undated_publications matching, same⟩

end Delivery

end PushDelivery
