import PushDelivery.Proofs.Delivery.Resending

/-!
# The Report on a Dispatched Job

A dispatch ends in one report with an outcome for each device of its job. This module shows what the
outcomes have to do with what the gateway reported: a success counts whenever it came, a failure
counts if it was the last word, and a device on which there was no word at all failed for the reason
of the whole dispatch.

The ledger answers with the last outcome of a device. That a success is the last one rests on
`Steady`, the invariant by which devices that were reached are not asked for again.

## Main definitions

* `publications`: the reports that some exchanges publish.
* `Accounts`: what the report says about a device, by what the gateway reported on it.

## Main results

* `Attempts.covers`: a dispatch that succeeds has an outcome for every device.
* `Ledger.results_account`: the results of a ledger account for what the gateway reported.
* `report_accounts`: the delivery of a cleared job publishes one report, and it accounts for every
  valid token.
-/

namespace PushDelivery.Delivery

open Run (Exchange Exchanges)

/-! ### Publications -/

/-- The report that an exchange publishes. -/
def publication? : Exchange interface → Option Report
  | ⟨.publish report, _⟩ => some report
  | _ => none

/-- The reports that some exchanges publish, whether they are accepted or not. -/
def publications (es : List (Exchange interface)) : List Report := es.filterMap publication?

/-- The reports of two stretches. -/
theorem publications_append (es fs : List (Exchange interface)) :
    publications (es ++ fs) = publications es ++ publications fs := List.filterMap_append

/-- Checks publish nothing. -/
theorem publications_of_inChecks {es : List (Exchange interface)}
    (h : ∀ e ∈ es, e.1.inChecks = true) : publications es = [] := by
  refine List.filterMap_eq_nil_iff.mpr ?_
  rintro ⟨r, answer⟩ he
  have hr := h _ he
  cases r with
  | publish => cases hr
  | _ => rfl

/-- Attempts publish nothing. -/
theorem publications_of_inDispatch {es : List (Exchange interface)}
    (h : ∀ e ∈ es, e.1.inDispatch = true) : publications es = [] := by
  refine List.filterMap_eq_nil_iff.mpr ?_
  rintro ⟨r, answer⟩ he
  have hr := h _ he
  cases r with
  | publish => cases hr
  | _ => rfl

/-- One report is published after the attempts. -/
theorem Marks.publications_closing {job : Job} {marks : List (Exchange interface)}
    (h : Marks job marks) (report : Report) (started now : Instant) (accepted : Bool) :
    publications (closing report started now accepted marks) = [report] := by
  change report :: publications marks = [report]
  rw [publications_of_inChecks h.inChecks]

/-! ### Reasons -/

/-- A text goes on with the first character of its beginning. -/
theorem head?_toList_append {s : String} {c : Char} (h : s.toList.head? = some c) (t : String) :
    (s ++ t).toList.head? = some c := by
  rw [String.toList_append, List.head?_append, h, Option.some_or]

/-- The wording of a failure is never that of a device that was not attempted. -/
theorem message_ne_not_attempted (e : DeliveryError) : e.message ≠ "not attempted" := by
  have hhead : ∃ c, e.message.toList.head? = some c ∧ c ≠ 'n' := by
    cases e with
    | validation problem => exact ⟨'i', head?_toList_append rfl _, by decide⟩
    | rateLimited userId limit =>
        exact ⟨'r', head?_toList_append (head?_toList_append (head?_toList_append
          (head?_toList_append rfl _) _) _) _, by decide⟩
    | template error => exact ⟨'t', head?_toList_append rfl _, by decide⟩
    | gateway error => exact ⟨'p', head?_toList_append rfl _, by decide⟩
    | circuitOpen breaker =>
        exact ⟨'c', head?_toList_append (head?_toList_append rfl _) _, by decide⟩
    | allDevicesFailed failed lastError =>
        exact ⟨'a', head?_toList_append (head?_toList_append (head?_toList_append rfl _) _) _,
          by decide⟩
    | maxRetriesExceeded attempts =>
        exact ⟨'m', head?_toList_append (head?_toList_append rfl _) _, by decide⟩
    | cancelled => exact ⟨'r', rfl, by decide⟩
  obtain ⟨c, hc, hne⟩ := hhead
  intro h
  rw [h] at hc
  exact hne (Option.some.inj hc).symm

/-! ### Coverage -/

/-- A device without a last outcome has none in either of two stretches. -/
theorem latest_append_eq_none_iff {h os : List Outcome} {token : String} :
    latest (h ++ os) token = none ↔ latest h token = none ∧ latest os token = none := by
  rw [latest_append, Option.or_eq_none_iff, and_comm]

/-- An attempt that succeeds leaves no device without an outcome. -/
theorem Attempt.covers {breaker : String} {content : Content} {tokens : List String}
    {number spent : Nat} {q : Progress} {es : List (Exchange interface)} {h : List Outcome}
    {r : Except DeliveryError Unit} {correlationId : Option String}
    (tries : Attempt breaker content tokens number ⟨(Ledger.empty correlationId).record h, spent⟩
      es r q) (hr : r = .ok ()) (hf : ∀ e ∈ es, Faithful e) :
    ∀ token ∈ tokens, latest (h ++ reported es) token ≠ none := by
  cases tries with
  | refused => cases hr
  | failed => cases hr
  | @answered sent sends =>
      intro token ht hnone
      rw [latest_append_eq_none_iff] at hnone
      obtain ⟨hbefore, hafter⟩ := hnone
      have hpending : token ∈ ((Ledger.empty correlationId).record h).pending tokens := by
        refine List.mem_filter.mpr ⟨ht, ?_⟩
        rw [isReached_record_empty, hbefore]
        rfl
      have hall := sends.reports_all fun e he => hf e (by simp [he])
      rw [flatten_batches] at hall
      obtain ⟨o, ho, rfl⟩ := List.mem_map.mp (hall ▸ hpending)
      have hmem : o ∈ reported (⟨.permit, true⟩ :: (sent ++ [⟨.settle true, ()⟩])) := by
        simp [ho]
      exact latest_eq_none_iff.mp hafter o hmem rfl

/-- A dispatch that succeeds leaves no device without an outcome. -/
theorem Attempts.covers {policy : RetryPolicy} {breaker : String} {content : Content}
    {tokens : List String} {left number : Nat} {p s : Progress} {es : List (Exchange interface)}
    {r : Except DeliveryError Unit} {h : List Outcome} {correlationId : Option String}
    (tries : Attempts policy breaker content tokens left number p es r s)
    (hp : p.ledger = (Ledger.empty correlationId).record h) (hr : r = .ok ())
    (hf : ∀ e ∈ es, Faithful e) : ∀ token ∈ tokens, latest (h ++ reported es) token ≠ none := by
  induction tries generalizing h with
  | spent => cases hr
  | @last left number p q es r tries final =>
      obtain ⟨ledger, spent⟩ := p
      subst hp
      exact tries.covers hr hf
  | cancelled => cases hr
  | @again left number p q s es rest e r tries again more ih =>
      have hq : q.ledger = (Ledger.empty correlationId).record (h ++ reported es) := by
        rw [tries.ledger_eq, hp, record_record]
      have hrest := ih hq hr fun e he => hf e (by simp [he])
      simpa [List.append_assoc] using hrest

/-! ### Results -/

/-- What the report says about a device, by what the gateway reported on the devices and by the
result of the dispatch. -/
structure Accounts (correlationId : Option String) (h : List Outcome)
    (result : Except DeliveryError Unit) (token : String) (o : Outcome) : Prop where
  /-- It is about the device. -/
  device : o.deviceToken = token
  /-- It has the correlation of the job. -/
  correlation : o.correlationId = correlationId
  /-- It is a success if and only if some reply reported that the device was reached. -/
  success_iff : o.success = true ↔ Reached h token
  /-- Then it is the outcome of that reply. -/
  reply : ∀ g ∈ h, g.deviceToken = token → g.success = true → o = stamped correlationId g
  /-- Else it is the last outcome that was reported about the device. -/
  last : ¬ Reached h token → ∀ g, latest h token = some g → o = stamped correlationId g
  /-- If there is none, it failed for the reason of the dispatch. -/
  missing : latest h token = none → ∃ e, result = .error e ∧ o.error = some e.message ∧
    e.message ≠ "not attempted"

/-- The results of a ledger of steady outcomes account for them, if no device is without an outcome
after a success of the whole. -/
theorem results_account {h : List Outcome} (hs : Steady h) (correlationId : Option String)
    {tokens : List String} {result : Except DeliveryError Unit}
    (hcovers : result = .ok () → ∀ token ∈ tokens, latest h token ≠ none) (now : Moment) :
    List.Forall₂ (Accounts correlationId h result) tokens
      (((Ledger.empty correlationId).record h).results tokens
        (reason? result) now) := by
  refine List.forall₂_map_right_iff.mpr (List.forall₂_same.mpr fun token ht => ?_)
  rw [outcome?_record_empty]
  cases hl : latest h token with
  | some g =>
      obtain ⟨hm, hg⟩ := mem_of_latest hl
      have hreply : ∀ g' ∈ h, g'.deviceToken = token → g'.success = true → g' = g := by
        rintro g' hg' rfl hsucc
        exact Option.some.inj ((hs g' hg' hsucc).symm.trans hl)
      refine ⟨hg, rfl, ⟨fun hsucc => ⟨g, hm, hg, hsucc⟩, ?_⟩, ?_, ?_, ?_⟩
      · rintro ⟨g', hg', hdevice, hsucc⟩
        obtain rfl := hreply g' hg' hdevice hsucc
        exact hsucc
      · intro g' hg' hdevice hsucc
        rw [hreply g' hg' hdevice hsucc]
        rfl
      · intro _ g' hg'
        obtain rfl : g = g' := Option.some.inj (hl.symm.trans hg')
        rfl
      · intro hnone
        rw [hl] at hnone
        cases hnone
  | none =>
      have hnot := latest_eq_none_iff.mp hl
      cases result with
      | ok u => exact absurd hl (hcovers rfl token ht)
      | error e =>
          refine ⟨rfl, rfl, ⟨nofun, ?_⟩, ?_, ?_, ?_⟩
          · rintro ⟨g, hg, hdevice, -⟩
            exact absurd hdevice (hnot g hg)
          · intro g hg hdevice
            exact absurd hdevice (hnot g hg)
          · intro _ g hg
            rw [hl] at hg
            cases hg
          · intro _
            exact ⟨e, rfl, rfl, message_ne_not_attempted e⟩

/-- Results that account for what was reported have as many successes as devices were reached. -/
theorem Accounts.count_eq {correlationId : Option String} {h : List Outcome}
    {result : Except DeliveryError Unit} {tokens : List String} {results : List Outcome}
    (hall : List.Forall₂ (Accounts correlationId h result) tokens results) :
    (results.filter (·.success)).length = (tokens.filter fun t => Reached h t).length := by
  induction hall with
  | nil => rfl
  | @cons token o tokens results ho _ ih =>
      by_cases hr : Reached h token
      · simp [hr, ho.success_iff.mpr hr, ih]
      · have hfail : o.success = false := Bool.eq_false_iff.mpr (mt ho.success_iff.mp hr)
        simp [hr, hfail, ih]

/-! ### The report -/

/-- A report on a dispatch of steady outcomes accounts for them. -/
theorem dispatchReport_accounts {job : Job} {h : List Outcome} {result : Except DeliveryError Unit}
    {spent : Nat} (hs : Steady h)
    (hcovers : result = .ok () → ∀ token ∈ job.validTokens, latest h token ≠ none)
    (now : Instant) :
    let report := dispatchReport job result ⟨(Ledger.empty job.correlationId).record h, spent⟩ now
    List.Forall₂ (Accounts job.correlationId h result) job.validTokens report.results ∧
      report.sentCount = (job.validTokens.filter fun t => Reached h t).length ∧
      report.sentCount + report.failedCount = job.validTokens.length := by
  intro report
  have hall := results_account hs job.correlationId hcovers (.ofInstant now)
  refine ⟨hall, Accounts.count_eq hall, ?_⟩
  have hle : (report.results.filter (·.success)).length ≤ report.results.length :=
    List.length_filter_le _ _
  calc report.sentCount + report.failedCount = report.results.length := Nat.add_sub_cancel' hle
    _ = job.validTokens.length := hall.length_eq.symm

/-- **What the report on a dispatched job says.** However the breaker, the waits and the replies of
a gateway that keeps its promise turn out, the delivery of a cleared job with distinct valid tokens
publishes one report. It has one result for each valid token, in order, that accounts for what was
reported about it in the whole delivery, and its counts are the number of devices that were reached
and that of the others. -/
theorem report_accounts {c : Courier} {job : Job} {checks rest : List (Exchange interface)}
    {started : Instant} {content : Content} {res : Except DeliveryError Unit × Job}
    (cleared : Cleared c job checks started content)
    (run : Exchanges (c.process job) (checks ++ rest) res) (distinct : job.validTokens.Nodup)
    (faithful : ∀ e ∈ checks ++ rest, Faithful e) :
    ∃ tries closing result progress report,
      rest = tries ++ closing ∧
      Exchanges (dispatch c.retry c.breaker content job.validTokens job.correlationId
        job.attemptCount) tries (result, progress) ∧
      publications (checks ++ rest) = [report] ∧
      List.Forall₂ (Accounts job.correlationId (reported (checks ++ rest)) result) job.validTokens
        report.results ∧
      report.sentCount =
        (job.validTokens.filter fun t => Reached (reported (checks ++ rest)) t).length ∧
      report.sentCount + report.failedCount = job.validTokens.length := by
  obtain ⟨tries, result, ⟨ledger, spent⟩, now, accepted, marks, dispatched, rfl, hmarks, -⟩ :=
    exchanges_deliver_iff.mp (cleared.exchanges_iff.mp run)
  have attempts := exchanges_dispatch_iff.mp dispatched
  have htries : ∀ e ∈ tries, Faithful e := fun e he => faithful e (by simp [he])
  have hsteady : Steady (reported tries) :=
    (attempts.careful (fun e he => (htries e he).modest) distinct).2
  obtain rfl : ledger = (Ledger.empty job.correlationId).record (reported tries) :=
    attempts.ledger_eq
  have hcovers := fun hr => attempts.covers (record_nil _).symm hr htries
  let report := dispatchReport job result
    ⟨(Ledger.empty job.correlationId).record (reported tries), spent⟩ now
  have hreported : reported (checks ++ (tries ++ closing report started now accepted marks)) =
      reported tries := by
    have hchecks := reported_of_not_push fun e he =>
      Request.not_isPush_of_inChecks (cleared.inChecks e he)
    have hclosing := reported_of_not_push (hmarks.closing_not_push report started now accepted)
    rw [reported_append, reported_append, hchecks, hclosing, List.nil_append, List.append_nil]
  refine ⟨tries, _, result, _, report, rfl, dispatched, ?_, ?_⟩
  · rw [publications_append, publications_append, publications_of_inChecks cleared.inChecks,
      publications_of_inDispatch attempts.inDispatch, hmarks.publications_closing]
    rfl
  · rw [hreported]
    exact dispatchReport_accounts hsteady hcovers now

/-- A request for two devices that reaches the first one. -/
def pairAsked : List (Exchange interface) :=
  [⟨.sendMany ["a", "b"] (.ofJob (plainJob ["a", "b"])),
      .ok [.delivered "a" "m1" default, .failed "b" "unregistered" default]⟩,
    tally [.delivered "a" "m1" default, .failed "b" "unregistered" default]]

/-- An attempt at these devices. -/
def pairTried : List (Exchange interface) :=
  ⟨.permit, true⟩ :: (pairAsked ++ [⟨.settle true, ()⟩])

/-- A courier that makes one attempt. -/
def oneAttempt : Courier := { retry := { maxAttempts := 1 } }

/-- The attempt is a dispatch. -/
theorem pairTried_dispatch : ∃ r s, Exchanges (dispatch oneAttempt.retry oneAttempt.breaker
    (.ofJob (plainJob ["a", "b"])) (plainJob ["a", "b"]).validTokens none 0) pairTried (r, s) := by
  have sends : SendsTo (.ofJob (plainJob ["a", "b"])) ["a", "b"] pairAsked (.ok ()) := by
    rw [SendsTo, batches_of_length_le (by simp) (by simp [batchLimit])]
    exact .answered rfl rfl .nil
  have tries : ∃ r s, Attempts oneAttempt.retry oneAttempt.breaker
      (.ofJob (plainJob ["a", "b"])) ["a", "b"] 1 0 ⟨.empty none, 0⟩ pairTried r s :=
    ⟨_, _, .last (.answered sends) fun _ _ h => h.2 rfl⟩
  obtain ⟨r, s, tries⟩ := tries
  exact ⟨r, s, exchanges_dispatch_iff.mpr tries⟩

/-- The delivery of a job for these devices reports one of two as reached. -/
theorem report_accounts_pair : ∃ rest res report,
    Exchanges (oneAttempt.process (plainJob ["a", "b"])) (plainChecks ++ rest) res ∧
    publications (plainChecks ++ rest) = [report] ∧ report.results.length = 2 ∧
    report.sentCount = 1 ∧ report.failedCount = 1 := by
  have cleared := plainJob_cleared oneAttempt.retry
    (show (plainJob ["a", "b"]).problem? = none by decide)
  obtain ⟨r, s, dispatched⟩ := pairTried_dispatch
  let marks : List (Exchange interface) :=
    [⟨.guard (.write (Guard.markerKey "n1") Guard.markerText Guard.markerTtl), .ok ()⟩]
  have hmarks : Marks (plainJob ["a", "b"]) marks := by
    rw [Marks, if_neg (by decide)]
    exact .ask (.done _)
  let rest := pairTried ++
    closing (dispatchReport (plainJob ["a", "b"]) r s (0 : Nat)) (0 : Nat) (0 : Nat) true marks
  have delivered : Exchanges (oneAttempt.deliver (plainJob ["a", "b"]) (0 : Nat)
      (.ofJob (plainJob ["a", "b"]))) rest _ :=
    exchanges_deliver_iff.mpr
      ⟨pairTried, r, s, (0 : Nat), true, marks, dispatched, rfl, hmarks, rfl⟩
  have run := cleared.exchanges_iff.mpr delivered
  have faithful : ∀ e ∈ plainChecks ++ rest, Faithful e := by
    simp [plainChecks, rest, pairTried, pairAsked, closing, marks, tally, Faithful,
      Outcome.delivered, Outcome.failed]
  obtain ⟨_, _, _, _, report, -, -, hpub, hall, hsent, hsum⟩ :=
    report_accounts cleared run (by decide) faithful
  have hreported : reported (plainChecks ++ rest) =
      [.delivered "a" "m1" default, .failed "b" "unregistered" default] := rfl
  have hone : report.sentCount = 1 := by
    rw [hsent, hreported]
    decide
  have htwo : report.sentCount + report.failedCount = 2 := hsum
  exact ⟨rest, _, report, run, hpub, hall.length_eq.symm, hone, by omega⟩

end PushDelivery.Delivery
