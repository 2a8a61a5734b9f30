import PushDelivery.Proofs.Delivery.Admissions
import PushDelivery.Proofs.Delivery.Foresight
import PushDelivery.Proofs.Runs.Following

/-!
# When the Store of the Guard Fails

The guard lets a job pass when it cannot ask its store. A count that fails is taken for one within
the limit, a lookup that fails for one that finds nothing, and a marker that cannot be written is
left out. This module compares a delivery whose store fails at any of its operations with one whose
store gives these answers instead. Whatever else happens, they do the same: they send the same, tell
the breaker the same, and come to the same report and the same result, up to dates.

Dates differ since the two deliveries happen at different times, and what is dated passes through
the ledger into the report. So the comparison goes part by part, from a batch up to the whole.

## Main definitions

* `Courier.withinLimit`, `Courier.unmarked`: what is left of a delivery after a decision.
* `Mends`: an exchange, and what it would be if the store of the guard had not failed.
* `Mended`: exchanges of a delivery, and those of one whose store does not fail.

## Main results

* `Courier.process_eq`: a delivery, taken apart at the decisions of the guard.
* `keeps_process`: a delivery whose store does not fail follows one whose store does.
* `Mended.pushes`, `Mended.consultations`, `Mended.reports`: what is the same in both.
-/

namespace PushDelivery

open Delivery (interface guarded request)

/-! ### Deliveries taken apart -/

namespace Courier

/-- The delivery of a job that the guard does not know as completed. -/
def unmarked (c : Courier) (job : Job) (started : Instant) :
    Run interface (Except DeliveryError Unit × Job) :=
  prepare job >>= fun
    | .error e => refuse job started ("Failed to prepare notification: " ++ e.message) (.template e)
    | .ok content => c.deliver job started content

/-- The delivery of a job of a user within the limit. -/
def withinLimit (c : Courier) (job : Job) (started : Instant) :
    Run interface (Except DeliveryError Unit × Job) :=
  match job.problem? with
  | some problem =>
      refuse job started ("Validation failed: " ++ problem.message) (.validation problem)
  | none => guarded (Guard.isDuplicate job.id) >>= fun
    | true => request (.note .duplicate) >>= fun _ => .done (.ok (), job)
    | false => c.unmarked job started

/-- A delivery begins with the decision on the rate of the user. -/
theorem process_eq (c : Courier) (job : Job) :
    c.process job = request .now >>= fun started => request (.note .received) >>= fun _ =>
      guarded (c.guard.checkRate job.userId) >>= fun
        | .exceeded _ limit => request (.note .rateLimited) >>= fun _ =>
            refuse job started "Rate limit exceeded" (.rateLimited job.userId limit)
        | .allowed => c.withinLimit job started := by
  refine congrArg (Run.bind _) (funext fun started => congrArg (Run.bind _) (funext fun _ =>
    congrArg (Run.bind _) (funext fun decision => ?_)))
  cases decision with
  | exceeded => rfl
  | allowed =>
      dsimp only [withinLimit]
      cases job.problem? with
      | some problem => rfl
      | none =>
          refine congrArg (Run.bind _) (funext fun found => ?_)
          cases found with
          | true => rfl
          | false =>
              refine congrArg (Run.bind _) (funext fun prepared => ?_)
              cases prepared <;> rfl

end Courier

namespace Delivery

open Run (Exchange Exchanges Follows AnswersAs loud)

/-! ### Two deliveries -/

/-- Two exchanges are the same but for dates. -/
inductive SameButDates : Exchange interface → Exchange interface → Prop
  | now (t t' : Instant) : SameButDates ⟨.now, t⟩ ⟨.now, t'⟩
  | send {token : String} {content : Content} {answer answer' : Except GatewayError Outcome}
      (same : answer.map Outcome.undated = answer'.map Outcome.undated) :
      SameButDates ⟨.send token content, answer⟩ ⟨.send token content, answer'⟩
  | sendMany {tokens : List String} {content : Content}
      {answer answer' : Except GatewayError (List Outcome)}
      (same : answer.map (List.map Outcome.undated) = answer'.map (List.map Outcome.undated)) :
      SameButDates ⟨.sendMany tokens content, answer⟩ ⟨.sendMany tokens content, answer'⟩
  | publish {r r' : Report} (same : r.undated = r'.undated) (accepted : Bool) :
      SameButDates ⟨.publish r, accepted⟩ ⟨.publish r', accepted⟩
  | finished (status : Status) (elapsed elapsed' : Duration) :
      SameButDates ⟨.note (.finished status elapsed), ()⟩ ⟨.note (.finished status elapsed'), ()⟩
  | same (e : Exchange interface) : SameButDates e e

/-- Two requests are the same but for dates. -/
inductive SameRequest : Request → Request → Prop
  | publish {r r' : Report} (same : r.undated = r'.undated) :
      SameRequest (.publish r) (.publish r')
  | finished (status : Status) (elapsed elapsed' : Duration) :
      SameRequest (.note (.finished status elapsed)) (.note (.finished status elapsed'))
  | same (r : Request) : SameRequest r r

/-- Whether an exchange is an operation of the guard's store that failed. -/
def isOutage : Exchange interface → Bool
  | ⟨.guard (.increment ..), .error _⟩ => true
  | ⟨.guard (.lookup _), .error _⟩ => true
  | ⟨.guard (.write ..), .error _⟩ => true
  | _ => false

/-- An exchange, and what it would be if the store of the guard had not failed: a count that failed
is one within the limit, a lookup that failed finds nothing, and a marker that was not written is
taken. All other exchanges are the same but for dates. -/
inductive Mends (limit : Nat) : Exchange interface → Exchange interface → Prop
  | count {key : String} {window : Duration} {error : GuardError} {count : Nat}
      (within : count ≤ limit) :
      Mends limit ⟨.guard (.increment key window), .error error⟩
        ⟨.guard (.increment key window), .ok count⟩
  | lookup {key : String} {error : GuardError} :
      Mends limit ⟨.guard (.lookup key), .error error⟩ ⟨.guard (.lookup key), .ok false⟩
  | write {key value : String} {ttl : Duration} {error : GuardError} :
      Mends limit ⟨.guard (.write key value ttl), .error error⟩
        ⟨.guard (.write key value ttl), .ok ()⟩
  | keep {e e' : Exchange interface} (worked : isOutage e = false) (same : SameButDates e e') :
      Mends limit e e'

/-- Whether a request is the note that a failure was let pass. -/
def Request.isLetPass : Request → Bool
  | .guard (.letPass _) => true
  | _ => false

/-- Exchanges of a delivery, and those of one whose store does not fail, and which therefore lets
nothing pass. -/
def Mended (limit : Nat) (es es' : List (Exchange interface)) : Prop :=
  List.Forall₂ (Mends limit) (loud Request.isLetPass es) es'

/-- A part of a delivery that follows another one if the store of the guard does not fail. -/
abbrev Keeps {α α' : Type} (limit : Nat) (V : α → α' → Prop) :
    Run interface α → Run interface α' → Prop :=
  Follows Request.isLetPass SameRequest (Mends limit) V

variable {limit : Nat}

/-- There is an answer that mends another one. -/
theorem exists_mends (e : Exchange interface) (r' : Request) (asks : SameRequest e.1 r') :
    ∃ answer' : r'.Answer, Mends limit e ⟨r', answer'⟩ := by
  obtain ⟨r, answer⟩ := e
  cases asks with
  | publish same => exact ⟨answer, .keep rfl (.publish same answer)⟩
  | finished status elapsed elapsed' =>
      exact ⟨answer, .keep rfl (.finished status elapsed elapsed')⟩
  | same r =>
      by_cases worked : isOutage ⟨r, answer⟩ = false
      · exact ⟨answer, .keep worked (.same _)⟩
      · cases r with
        | guard r =>
            cases r with
            | increment key window =>
                cases answer with
                | error error => exact ⟨.ok (0 : Nat), .count (Nat.zero_le limit)⟩
                | ok count => exact absurd rfl worked
            | lookup key =>
                cases answer with
                | error error => exact ⟨.ok false, .lookup⟩
                | ok found => exact absurd rfl worked
            | write key value ttl =>
                cases answer with
                | error error => exact ⟨.ok (), .write⟩
                | ok => exact absurd rfl worked
            | letPass => exact absurd rfl worked
        | _ => exact absurd rfl worked

/-- Whether the answers to a request have no date and do not come from the store of the guard. -/
def Request.isKept : Request → Bool
  | .template _ | .permit | .pause _ => true
  | _ => false

/-- Such answers are the same. -/
theorem Mends.answer_eq {r : Request} {answer answer' : r.Answer}
    (mends : Mends limit ⟨r, answer⟩ ⟨r, answer'⟩) (kept : r.isKept = true) : answer = answer' := by
  cases mends with
  | count | lookup | write => cases kept
  | keep _ same =>
      cases same with
      | same => rfl
      | now | send | sendMany | publish | finished => cases kept

/-- Two replies of which nothing but dates differs are one failure, or outcomes of which nothing
but dates differs. -/
theorem reply_cases {α β : Type} {undated : α → β} {answer answer' : Except GatewayError α}
    (same : answer.map undated = answer'.map undated) :
    (∃ error, answer = .error error ∧ answer' = .error error) ∨
      ∃ a a', answer = .ok a ∧ answer' = .ok a' ∧ undated a = undated a' := by
  cases answer with
  | error error =>
      cases answer' with
      | error error' => exact .inl ⟨error, rfl, congrArg _ (Except.error.inj same).symm⟩
      | ok a' => cases same
  | ok a =>
      cases answer' with
      | error error' => cases same
      | ok a' => exact .inr ⟨a, a', rfl, rfl, Except.ok.inj same⟩

/-- Replies to a request for one device. -/
theorem Mends.send_cases {token : String} {content : Content}
    {answer answer' : Except GatewayError Outcome}
    (mends : Mends limit ⟨.send token content, answer⟩ ⟨.send token content, answer'⟩) :
    (∃ error, answer = .error error ∧ answer' = .error error) ∨
      ∃ o o', answer = .ok o ∧ answer' = .ok o' ∧ o.undated = o'.undated := by
  refine reply_cases ?_
  cases mends with
  | keep _ kept =>
      cases kept with
      | send alike => exact alike
      | same => rfl

/-- Replies to a request for several devices. -/
theorem Mends.sendMany_cases {tokens : List String} {content : Content}
    {answer answer' : Except GatewayError (List Outcome)}
    (mends : Mends limit ⟨.sendMany tokens content, answer⟩ ⟨.sendMany tokens content, answer'⟩) :
    (∃ error, answer = .error error ∧ answer' = .error error) ∨
      ∃ os os', answer = .ok os ∧ answer' = .ok os' ∧
        os.map Outcome.undated = os'.map Outcome.undated := by
  refine reply_cases ?_
  cases mends with
  | keep _ kept =>
      cases kept with
      | sendMany alike => exact alike
      | same => rfl

/-! ### Decisions of the guard -/

/-- The limit falls to the open side. -/
theorem keeps_checkRate (g : Guard) (userId : String) :
    Keeps g.limit (fun d d' => d = d') (guarded (g.checkRate userId))
      (guarded (g.checkRate userId)) := by
  refine .ask rfl (.same _) fun answer answer' mends => ?_
  cases mends with
  | @count _ _ error count within =>
      refine .silent rfl fun _ => ?_
      have allowed : (if g.limit < count then Guard.Decision.exceeded count g.limit else .allowed) =
          .allowed := if_neg (Nat.not_lt.mpr within)
      exact .done allowed.symm
  | keep worked same =>
      cases same with
      | same =>
          cases answer with
          | error error => cases worked
          | ok count => exact .done rfl

/-- No marker is found. -/
theorem keeps_isDuplicate (jobId : String) :
    Keeps limit (fun found found' => found = found') (guarded (Guard.isDuplicate jobId))
      (guarded (Guard.isDuplicate jobId)) := by
  refine .ask rfl (.same _) fun answer answer' mends => ?_
  cases mends with
  | lookup => exact .silent rfl fun _ => .done rfl
  | keep worked same =>
      cases same with
      | same =>
          cases answer with
          | error error => cases worked
          | ok found => exact .done rfl

/-- The marker is left out. -/
theorem keeps_markProcessed (jobId : String) :
    Keeps limit (fun _ _ => True) (guarded (Guard.markProcessed jobId))
      (guarded (Guard.markProcessed jobId)) := by
  refine .ask rfl (.same _) fun answer answer' mends => ?_
  cases mends with
  | write => exact .silent rfl fun _ => .done trivial
  | keep worked same =>
      cases same with
      | same =>
          cases answer with
          | error error => cases worked
          | ok => exact .done trivial

/-! ### Attempts -/

/-- Two parts may ask for the time. -/
theorem keeps_now : Keeps limit (fun _ _ => True) (request .now) (request .now) :=
  .ask rfl (.same _) fun _ _ _ => .done trivial

/-- What is noted in both is noted. -/
theorem keeps_note (event : Event) :
    Keeps limit (fun _ _ => True) (request (.note event)) (request (.note event)) :=
  .ask rfl (.same _) fun _ _ _ => .done trivial

/-- Outcomes that are the same but for dates are noted alike. -/
theorem same_tally {os os' : List Outcome}
    (same : os.map Outcome.undated = os'.map Outcome.undated) :
    SameRequest (tally os).1 (tally os').1 := by
  obtain ⟨sent, length⟩ := counts_of_undated same
  rw [tally, tally, sent, length]
  exact .same _

/-- Sending batches comes to the same. -/
theorem keeps_sendBatches (content : Content) (bs : List (List String)) {p p' : Progress}
    (same : p.undated = p'.undated) :
    Keeps limit SameCourse ((sendBatches content bs).run p) ((sendBatches content bs).run p') := by
  induction bs generalizing p p' with
  | nil => exact .done ⟨rfl, same⟩
  | cons batch rest ih =>
      rw [run_sendBatches_cons, run_sendBatches_cons]
      refine .ask rfl (.same _) fun answer answer' mends => ?_
      obtain ⟨e, rfl, rfl⟩ | ⟨os, os', rfl, rfl, outcomes⟩ := mends.sendMany_cases
      · exact .done ⟨rfl, same⟩
      · exact .ask rfl (same_tally outcomes) fun _ _ _ =>
          ih (Progress.undated_record same outcomes)

/-- So does sending to some devices. -/
theorem keeps_sendAll (content : Content) (tokens : List String) {p p' : Progress}
    (same : p.undated = p'.undated) :
    Keeps limit SameCourse ((sendAll content tokens).run p) ((sendAll content tokens).run p') := by
  match tokens with
  | [] => exact keeps_sendBatches content _ same
  | t :: u :: rest => exact keeps_sendBatches content _ same
  | [token] =>
      rw [run_sendAll_singleton, run_sendAll_singleton]
      refine .ask rfl (.same _) fun answer answer' mends => ?_
      obtain ⟨e, rfl, rfl⟩ | ⟨o, o', rfl, rfl, undated⟩ := mends.send_cases
      · exact .done ⟨rfl, same⟩
      · have outcomes : [o].map Outcome.undated = [o'].map Outcome.undated :=
          congrArg (fun o => [o]) undated
        exact .ask rfl (same_tally outcomes) fun _ _ _ =>
          .done ⟨rfl, Progress.undated_record same outcomes⟩

/-- Attempts come to the same: the same devices are still to be reached, and their outcomes decide
alike. -/
theorem keeps_attempt (breaker : String) (content : Content) (tokens : List String) (number : Nat)
    {p p' : Progress} (same : p.undated = p'.undated) :
    Keeps limit SameCourse ((attempt breaker content tokens number).run p)
      ((attempt breaker content tokens number).run p') := by
  have begun := Progress.undated_spend same (number + 1)
  rw [run_attempt, run_attempt, Progress.pending_of_undated same]
  refine .ask rfl (.same _) fun admitted admitted' mends => ?_
  obtain rfl := mends.answer_eq rfl
  cases admitted with
  | false => exact .done ⟨rfl, begun⟩
  | true =>
      refine (keeps_sendAll content _ begun).bind ?_
      rintro ⟨result, q⟩ ⟨_, q'⟩ ⟨rfl, course⟩
      cases result with
      | error e => exact .ask rfl (.same _) fun _ _ _ => .done ⟨rfl, course⟩
      | ok =>
          exact .ask rfl (.same _) fun _ _ _ =>
            .done ⟨Progress.verdict_of_undated course _, course⟩

/-- The attempts that a policy leaves come to the same, one after the other. -/
theorem keeps_attempts (policy : RetryPolicy) (breaker : String) (content : Content)
    (tokens : List String) (left number : Nat) {p p' : Progress} (same : p.undated = p'.undated) :
    Keeps limit SameCourse
      ((policy.attempts pause (attempt breaker content tokens) left number).run p)
      ((policy.attempts pause (attempt breaker content tokens) left number).run p') := by
  induction left generalizing number p p' with
  | zero => exact .done ⟨rfl, same⟩
  | succ left ih =>
      rw [run_attempts_succ, run_attempts_succ]
      refine (keeps_attempt breaker content tokens number same).bind ?_
      rintro ⟨result, q⟩ ⟨_, q'⟩ ⟨rfl, course⟩
      cases result with
      | ok => exact .done ⟨rfl, course⟩
      | error e =>
          by_cases again : e.isRetryable ∧ left ≠ 0
          · simp only [proceed, if_pos again]
            refine .ask rfl (.same _) fun _ _ _ => .ask rfl (.same _) fun how how' mends => ?_
            obtain rfl := mends.answer_eq rfl
            cases how with
            | cancelled => exact .done ⟨rfl, course⟩
            | elapsed => exact ih (number + 1) course
          · simp only [proceed, if_neg again]
            exact .done ⟨rfl, course⟩

/-! ### Deliveries -/

/-- The contents of a job are the same. -/
theorem keeps_prepare (job : Job) :
    Keeps limit (fun x x' => x = x') (Courier.prepare job) (Courier.prepare job) := by
  unfold Courier.prepare
  cases job.template? with
  | none => exact .done rfl
  | some code =>
      refine .ask rfl (.same _) fun answer answer' mends => ?_
      obtain rfl := mends.answer_eq rfl
      cases answer with
      | error e => exact .done rfl
      | ok template => exact .done rfl

/-- Reports that are the same but for dates have one status. -/
theorem status_of_undated {r r' : Report} (same : r.undated = r'.undated) :
    r.status = r'.status := by
  change r.undated.status = r'.undated.status
  rw [same]

/-- The ends of deliveries come to the same if their reports are the same. -/
theorem keeps_finish (job : Job) {report report' : Report} (same : report.undated = report'.undated)
    (elapsed elapsed' : Duration) :
    Keeps limit (fun _ _ => True) (Courier.finish job report elapsed)
      (Courier.finish job report' elapsed') := by
  have status : report.status = report'.status := status_of_undated same
  have noted : SameRequest (.note (.finished report.status elapsed))
      (.note (.finished report'.status elapsed')) := by
    rw [status]
    exact .finished _ elapsed elapsed'
  refine .ask rfl noted fun _ _ _ => .ask rfl (.publish same) fun _ _ _ => ?_
  change Keeps limit _ (if Text.isBlankText job.id then _ else _)
    (if Text.isBlankText job.id then _ else _)
  split
  · exact .done trivial
  · exact keeps_markProcessed job.id

/-- Refusals come to the same. -/
theorem keeps_refuse (job : Job) (started started' : Instant) (message : String)
    (error : DeliveryError) :
    Keeps limit (fun x x' => x = x') (Courier.refuse job started message error)
      (Courier.refuse job started' message error) := by
  refine keeps_now.bind fun now now' _ => ?_
  have reports := undated_report job job.createdAt .failed message
    (rfl : ([] : List Outcome).map _ = []) (some error) (.ofInstant now) (.ofInstant now')
  exact (keeps_finish job reports _ _).bind fun _ _ _ => .done rfl

/-- Deliveries of jobs that were cleared come to the same. -/
theorem keeps_deliver (c : Courier) (job : Job) (started started' : Instant) (content : Content) :
    Keeps limit (fun x x' => x = x') (c.deliver job started content)
      (c.deliver job started' content) := by
  rw [deliver_eq, deliver_eq]
  refine (keeps_attempts c.retry c.breaker content job.validTokens _ job.attemptCount rfl).bind ?_
  rintro ⟨result, progress⟩ ⟨_, progress'⟩ ⟨rfl, same⟩
  have spent : progress.spent = progress'.spent := (Progress.mk.inj same).2
  refine keeps_now.bind fun now now' _ => ?_
  have reports := undated_dispatchReport job job.createdAt result same now now'
  have status : (dispatchReport job result progress now).status =
      (dispatchReport job result progress' now').status := status_of_undated reports
  dsimp only
  rw [status, spent]
  exact (keeps_finish _ reports _ _).bind fun _ _ _ => .done rfl

/-- So do deliveries of jobs that the guard does not know as completed. -/
theorem keeps_unmarked (c : Courier) (job : Job) (started started' : Instant) :
    Keeps limit (fun x x' => x = x') (c.unmarked job started) (c.unmarked job started') := by
  refine (keeps_prepare job).bind ?_
  rintro prepared _ rfl
  cases prepared with
  | error e => exact keeps_refuse job started started' _ _
  | ok content => exact keeps_deliver c job started started' content

/-- And deliveries of jobs of users within the limit. -/
theorem keeps_withinLimit (c : Courier) (job : Job) (started started' : Instant) :
    Keeps limit (fun x x' => x = x') (c.withinLimit job started) (c.withinLimit job started') := by
  unfold Courier.withinLimit
  cases job.problem? with
  | some problem => exact keeps_refuse job started started' _ _
  | none =>
      refine (keeps_isDuplicate job.id).bind ?_
      rintro found _ rfl
      cases found with
      | true => exact (keeps_note _).bind fun _ _ _ => .done rfl
      | false => exact keeps_unmarked c job started started'

/-- **A delivery whose store does not fail** does what one does whose store fails at any of its
operations. -/
theorem keeps_process (c : Courier) (job : Job) :
    Keeps c.guard.limit (fun x x' => x = x') (c.process job) (c.process job) := by
  rw [Courier.process_eq]
  refine keeps_now.bind fun started started' _ => (keeps_note _).bind fun _ _ _ => ?_
  refine (keeps_checkRate c.guard job.userId).bind ?_
  rintro decision _ rfl
  cases decision with
  | exceeded count limit =>
      exact (keeps_note _).bind fun _ _ _ => keeps_refuse job started started' _ _
  | allowed => exact keeps_withinLimit c job started started'

/-! ### What is the same -/

/-- The request of an exchange with the gateway. -/
def push? : Exchange interface → Option Request
  | ⟨.send token content, _⟩ => some (.send token content)
  | ⟨.sendMany tokens content, _⟩ => some (.sendMany tokens content)
  | _ => none

/-- An exchange with the breaker. -/
def consultation? (e : Exchange interface) : Option (Exchange interface) :=
  if e.1.isConsultation then some e else none

/-- Mended exchanges show the same wherever nothing of the guard's store and no date is shown. -/
theorem Mended.filterMap_eq {β : Type} {show? : Exchange interface → Option β}
    (apart : ∀ e, e.1.isLetPass = true → show? e = none)
    (alike : ∀ e e', Mends limit e e' → show? e' = show? e) {es es' : List (Exchange interface)}
    (h : Mended limit es es') : es'.filterMap show? = es.filterMap show? := by
  have heard : (loud Request.isLetPass es).filterMap show? = es.filterMap show? := by
    rw [loud, List.filterMap_filter]
    refine List.filterMap_congr fun e _ => ?_
    cases quiet : e.1.isLetPass with
    | true => exact (apart e quiet).symm
    | false => rfl
  rw [← heard]
  unfold Mended at h
  generalize loud Request.isLetPass es = spoken at h
  induction h with
  | nil => rfl
  | cons mends _ ih => rw [List.filterMap_cons, List.filterMap_cons, alike _ _ mends, ih]

/-- The same is sent, in the same order. -/
theorem Mended.pushes {es es' : List (Exchange interface)} (h : Mended limit es es') :
    es'.filterMap push? = es.filterMap push? := by
  refine h.filterMap_eq (fun ⟨r, answer⟩ quiet => ?_) fun e e' mends => ?_
  · cases r with
    | guard => rfl
    | _ => cases quiet
  · cases mends with
    | count | lookup | write => rfl
    | keep worked same => cases same <;> rfl

/-- The breaker is asked and told the same, and answers the same. -/
theorem Mended.consultations {es es' : List (Exchange interface)} (h : Mended limit es es') :
    es'.filterMap consultation? = es.filterMap consultation? := by
  refine h.filterMap_eq (fun ⟨r, answer⟩ quiet => ?_) fun e e' mends => ?_
  · cases r with
    | guard => rfl
    | _ => cases quiet
  · cases mends with
    | count | lookup | write => rfl
    | keep worked same => cases same <;> rfl

/-- The same is reported, but for dates. -/
theorem Mended.reports {es es' : List (Exchange interface)} (h : Mended limit es es') :
    (publications es').map Report.undated = (publications es).map Report.undated := by
  rw [publications, publications, List.map_filterMap, List.map_filterMap]
  refine h.filterMap_eq (fun ⟨r, answer⟩ quiet => ?_) fun e e' mends => ?_
  · cases r with
    | guard => rfl
    | _ => cases quiet
  · cases mends with
    | count | lookup | write => rfl
    | keep worked same =>
        cases same with
        | publish same => exact congrArg some same.symm
        | now | send | sendMany | finished | same => rfl

end Delivery

end PushDelivery
