import PushDelivery.Proofs.Delivery.Reporting

/-!
# How a Delivery Ends

A delivery leaves its course at one of six places: its user is past the limit, its job is not valid,
known or without content, the dispatch fails, or it succeeds. To whoever waits for it there are only
three ends. This module shows that every delivery comes to exactly one of them, and that the report,
the marker and the result agree about which one it is.

That a failed result goes with a report of no success rests on the ledger: a dispatch that succeeds
has found a success of one of its devices there, and the report is made from the same ledger.

## Main definitions

* `writes`: what some exchanges ask the guard's store to write.
* `ReportsOnce`: one report is published, and the job is marked after it.
* `Fate`, `Fate.Describes`: the three ends of a delivery.

## Main results

* `Attempts.exists_isReached`: a dispatch that succeeds has reached a device.
* `dispatchReport_cases`: the report on a dispatch has failed and counts no success, or it has not
  and counts some.
* `exists_unique_fate`: every delivery comes to one of the three ends.
* `suppressed_or_reportsOnce`: what a delivery reports, and the job that it gives back.
-/

namespace PushDelivery.Delivery

open Run (Exchange Exchanges OnlyAsks exchanges_ask_iff exchanges_bind_iff exchanges_done_iff
  exchanges_request_bind_iff)

/-! ### Writes -/

/-- Whether a request writes into the guard's store. -/
def Request.isWrite : Request → Bool
  | .guard (.write ..) => true
  | _ => false

/-- What some exchanges ask the guard's store to write, whether it does or not. -/
def writes (es : List (Exchange interface)) : List Request :=
  (es.map Sigma.fst).filter (·.isWrite)

/-- The writes of two stretches. -/
theorem writes_append (es fs : List (Exchange interface)) :
    writes (es ++ fs) = writes es ++ writes fs := by
  simp [writes]

/-- Exchanges none of which is a write have no writes. -/
theorem writes_eq_nil {es : List (Exchange interface)} (h : ∀ e ∈ es, e.1.isWrite = false) :
    writes es = [] := by
  rw [writes, List.filter_eq_nil_iff]
  intro r hr
  obtain ⟨e, he, rfl⟩ := List.mem_map.mp hr
  simp [h e he]

/-- Inquiries write nothing. -/
theorem Inquires.writes_eq_nil {notes : List Event} {es : List (Exchange interface)}
    (h : Inquires notes es) : writes es = [] := by
  cases h with
  | intro started inquire =>
      refine Delivery.writes_eq_nil ?_
      simp only [List.mem_cons, List.mem_append, List.mem_map]
      rintro ⟨r, answer⟩ (he | he | he | ⟨event, -, he⟩)
      · cases he
        rfl
      · cases he
        rfl
      · have hr := inquire _ he
        cases r with
        | guard r =>
            cases r with
            | write => cases hr
            | _ => rfl
        | _ => rfl
      · cases he
        rfl

/-- Attempts write nothing. -/
theorem writes_of_inDispatch {es : List (Exchange interface)}
    (h : ∀ e ∈ es, e.1.inDispatch = true) : writes es = [] := by
  refine writes_eq_nil fun ⟨r, answer⟩ he => ?_
  have hr := h _ he
  cases r with
  | guard => cases hr
  | _ => rfl

/-- The write of a job's marker. -/
def markerWrite (job : Job) : Request :=
  .guard (.write (Guard.markerKey job.id) Guard.markerText Guard.markerTtl)

/-- A job is marked by one write, unless its id is blank. -/
theorem Marks.writes_eq {job : Job} {es : List (Exchange interface)} (h : Marks job es) :
    writes es = if Text.isBlankText job.id then [] else [markerWrite job] := by
  unfold Marks at h
  split at h
  · rename_i hblank
    rw [h, if_pos hblank]
    rfl
  · rename_i hblank
    rw [if_neg hblank]
    obtain ⟨answer, rest, rfl, go⟩ := exchanges_ask_iff.mp h
    have quiet : ∀ e ∈ rest, e.1.isWrite = false := by
      refine OnlyAsks.of_exchanges (P := fun r : Request => r.isWrite = false) ?_ go
      cases answer with
      | ok => trivial
      | error => exact ⟨rfl, fun _ => trivial⟩
    exact congrArg (markerWrite job :: ·) (writes_eq_nil quiet)

/-! ### Reports -/

/-- One report is published, and after it, unless its id is blank, the job is marked. -/
inductive ReportsOnce (job : Job) (report : Report) : List (Exchange interface) → Prop
  | intro {before after : List (Exchange interface)} (accepted : Bool)
      (quiet : publications before = [] ∧ writes before = [])
      (last : publications after = [])
      (marks : writes after = if Text.isBlankText job.id then [] else [markerWrite job]) :
      ReportsOnce job report (before ++ ⟨.publish report, accepted⟩ :: after)

/-- It is the only report that is published. -/
theorem ReportsOnce.publications_eq {job : Job} {report : Report} {es : List (Exchange interface)}
    (h : ReportsOnce job report es) : publications es = [report] := by
  cases h with
  | intro accepted quiet last marks =>
      rw [publications_append, quiet.1]
      exact congrArg (report :: ·) last

/-- The end of a delivery makes it report once, if there was neither a report nor a write before. -/
theorem Marks.reportsOnce {job : Job} {marks : List (Exchange interface)} (h : Marks job marks)
    {before : List (Exchange interface)} (hpub : publications before = [])
    (hwrites : writes before = []) (report : Report) (started now : Instant) (accepted : Bool) :
    ReportsOnce job report (before ++ closing report started now accepted marks) := by
  have split : before ++ closing report started now accepted marks =
      (before ++ [⟨.now, now⟩, ⟨.note (.finished report.status (now - started)), ()⟩]) ++
        ⟨.publish report, accepted⟩ :: marks := by
    simp [closing]
  rw [split]
  refine .intro accepted ⟨?_, ?_⟩ (publications_of_inChecks h.inChecks) h.writes_eq
  · rw [publications_append, hpub]
    rfl
  · rw [writes_append, hwrites]
    rfl

/-- A job that is refused ends like one that was dispatched, with a report that names the reason. -/
theorem exchanges_refuse_iff {job : Job} {started : Instant} {message : String}
    {error : DeliveryError} {es : List (Exchange interface)}
    {res : Except DeliveryError Unit × Job} :
    Exchanges (Courier.refuse job started message error) es res ↔
      ∃ now accepted marks,
        es = closing (Courier.report job .failed message [] (some error) (.ofInstant now)) started
          now accepted marks ∧ Marks job marks ∧ res = (.error error, job) := by
  rw [Courier.refuse, exchanges_request_bind_iff]
  constructor
  · rintro ⟨now, es, rfl, go⟩
    obtain ⟨_, es₁, es₂, rfl, hfinish, hdone⟩ := exchanges_bind_iff.mp go
    obtain ⟨accepted, marks, rfl, hm⟩ := exchanges_finish_iff.mp hfinish
    obtain ⟨rfl, rfl⟩ := exchanges_done_iff.mp hdone
    exact ⟨now, accepted, marks, by rw [List.append_nil]; rfl, hm, rfl⟩
  · rintro ⟨now, accepted, marks, rfl, hm, rfl⟩
    refine ⟨now, _, rfl, exchanges_bind_iff.mpr ⟨(), _, [], (List.append_nil _).symm, ?_, ?_⟩⟩
    · exact exchanges_finish_iff.mpr ⟨accepted, marks, rfl, hm⟩
    · exact .done _

/-! ### Successes -/

/-- A success among the outcomes of some devices is that of a device that was reached. -/
theorem exists_isReached_of_verdict {l : Ledger} {tokens : List String}
    (h : verdict (l.outcomes tokens) = .ok ()) : ∃ token ∈ tokens, l.isReached token = true := by
  unfold verdict at h
  split at h
  · rename_i hany
    obtain ⟨o, ho, hsuccess⟩ := List.any_eq_true.mp hany
    obtain ⟨token, ht, hl⟩ := List.mem_filterMap.mp ho
    refine ⟨token, ht, ?_⟩
    rw [Ledger.isReached, hl]
    exact hsuccess
  · cases h

/-- An attempt that succeeds has reached a device. -/
theorem Attempt.exists_isReached {breaker : String} {content : Content} {tokens : List String}
    {number : Nat} {p q : Progress} {es : List (Exchange interface)}
    {r : Except DeliveryError Unit} (h : Attempt breaker content tokens number p es r q)
    (hr : r = .ok ()) : ∃ token ∈ tokens, q.ledger.isReached token = true := by
  cases h with
  | refused => cases hr
  | failed => cases hr
  | answered sends =>
      obtain ⟨token, ht, hreached⟩ := exists_isReached_of_verdict hr
      exact ⟨token, (List.mem_filter.mp ht).1, hreached⟩

/-- A dispatch that succeeds has reached a device, whatever the gateway reports. -/
theorem Attempts.exists_isReached {policy : RetryPolicy} {breaker : String} {content : Content}
    {tokens : List String} {left number : Nat} {p s : Progress} {es : List (Exchange interface)}
    {r : Except DeliveryError Unit}
    (h : Attempts policy breaker content tokens left number p es r s) (hr : r = .ok ()) :
    ∃ token ∈ tokens, s.ledger.isReached token = true := by
  induction h with
  | spent => cases hr
  | last tries _ => exact tries.exists_isReached hr
  | cancelled => cases hr
  | again _ _ _ ih => exact ih hr

/-- A report from a ledger counts a device that was reached. -/
theorem dispatchReport_sentCount_pos {job : Job} {result : Except DeliveryError Unit}
    {progress : Progress} {token : String} (ht : token ∈ job.validTokens)
    (hreached : progress.ledger.isReached token = true) (now : Instant) :
    0 < (dispatchReport job result progress now).sentCount := by
  refine List.length_pos_of_mem (List.mem_filter.mpr ⟨List.mem_map.mpr ⟨token, ht, rfl⟩, ?_⟩)
  unfold Ledger.isReached at hreached
  cases hl : progress.ledger.outcome? token with
  | none => simp [hl] at hreached
  | some o => simpa [hl] using hreached

/-- A report on a dispatch has failed and counts no success, or it has not and counts some. -/
theorem dispatchReport_cases (job : Job) (result : Except DeliveryError Unit) (progress : Progress)
    (now : Instant) :
    let report := dispatchReport job result progress now
    (report.status = .failed ∧ report.sentCount = 0) ∨
      ((report.status = .delivered ∨ report.status = .partiallyDelivered) ∧
        1 ≤ report.sentCount) := by
  intro report
  have hstatus : report.status = Status.ofCounts report.sentCount report.failedCount := rfl
  rw [hstatus, Status.ofCounts]
  by_cases hsent : report.sentCount = 0
  · exact .inl ⟨if_pos hsent, hsent⟩
  · rw [if_neg hsent]
    refine .inr ⟨?_, Nat.pos_of_ne_zero hsent⟩
    by_cases hfailed : report.failedCount = 0
    · exact .inl (if_pos hfailed)
    · exact .inr (if_neg hfailed)

/-! ### Ends -/

/-- The ends of a delivery: its job was known as completed, it failed, or it reached a device. -/
inductive Fate
  | suppressed
  | failed
  | delivered
  deriving DecidableEq, Repr

/-- What a delivery with this end has exchanged, and its result. -/
def Fate.Describes (job : Job) (es : List (Exchange interface))
    (result : Except DeliveryError Unit) : Fate → Prop
  | .suppressed =>
    result = .ok () ∧ publications es = [] ∧ writes es = [] ∧ ∀ e ∈ es, e.1.isPush = false
  | .failed =>
    (∃ error, result = .error error) ∧
      ∃ report, ReportsOnce job report es ∧ report.status = .failed ∧ report.sentCount = 0
  | .delivered =>
    result = .ok () ∧ ∃ report, ReportsOnce job report es ∧
      (report.status = .delivered ∨ report.status = .partiallyDelivered) ∧ 1 ≤ report.sentCount

/-- A delivery has no two ends. -/
theorem Fate.Describes.unique {job : Job} {es : List (Exchange interface)}
    {result : Except DeliveryError Unit} {f g : Fate} (hf : f.Describes job es result)
    (hg : g.Describes job es result) : f = g := by
  have reported : ∀ {report}, publications es = [] → ¬ ReportsOnce job report es :=
    fun hnone once => nomatch hnone.symm.trans once.publications_eq
  cases f with
  | suppressed =>
      obtain ⟨-, hnone, -⟩ := hf
      cases g with
      | suppressed => rfl
      | failed =>
          obtain ⟨-, report, once, -⟩ := hg
          exact absurd once (reported hnone)
      | delivered =>
          obtain ⟨-, report, once, -⟩ := hg
          exact absurd once (reported hnone)
  | failed =>
      obtain ⟨⟨error, rfl⟩, report, once, -⟩ := hf
      cases g with
      | suppressed => exact absurd once (reported hg.2.1)
      | failed => rfl
      | delivered => cases hg.1
  | delivered =>
      obtain ⟨rfl, report, once, -⟩ := hf
      cases g with
      | suppressed => exact absurd once (reported hg.2.1)
      | failed => exact nomatch hg.1
      | delivered => rfl

/-- A delivery that is refused has failed. -/
theorem Refused.describes {c : Courier} {job : Job} {checks rest : List (Exchange interface)}
    {started : Instant} {message : String} {error : DeliveryError}
    {res : Except DeliveryError Unit × Job}
    (h : Refused c job checks started message error)
    (go : Exchanges (Courier.refuse job started message error) rest res) :
    Fate.failed.Describes job (checks ++ rest) res.1 := by
  obtain ⟨now, accepted, marks, rfl, hm, rfl⟩ := exchanges_refuse_iff.mp go
  have hwrites : writes checks = [] :=
    h.inquires.elim Inquires.writes_eq_nil Inquires.writes_eq_nil
  have once := hm.reportsOnce (publications_of_inChecks h.inChecks) hwrites
    (Courier.report job .failed message [] (some error) (.ofInstant now)) started now accepted
  exact ⟨⟨error, rfl⟩, _, once, rfl, rfl⟩

/-- A delivery after the checks has failed or reached a device, by its report. -/
theorem Cleared.describes {c : Courier} {job : Job} {checks rest : List (Exchange interface)}
    {started : Instant} {content : Content} {res : Except DeliveryError Unit × Job}
    (h : Cleared c job checks started content)
    (go : Exchanges (c.deliver job started content) rest res) :
    Fate.failed.Describes job (checks ++ rest) res.1 ∨
      Fate.delivered.Describes job (checks ++ rest) res.1 := by
  obtain ⟨tries, result, progress, now, accepted, marks, dispatched, rfl, hm, rfl⟩ :=
    exchanges_deliver_iff.mp go
  have attempts := exchanges_dispatch_iff.mp dispatched
  let report := dispatchReport job result progress now
  have once : ReportsOnce job report
      (checks ++ (tries ++ closing report started now accepted marks)) := by
    rw [← List.append_assoc]
    refine hm.reportsOnce ?_ ?_ report started now accepted
    · rw [publications_append, publications_of_inChecks h.inChecks,
        publications_of_inDispatch attempts.inDispatch, List.append_nil]
    · rw [writes_append, h.inquires.writes_eq_nil, writes_of_inDispatch attempts.inDispatch,
        List.append_nil]
  rcases dispatchReport_cases job result progress now with ⟨hfailed, hnone⟩ | ⟨hstatus, hsent⟩
  · refine .inl ⟨?_, report, once, hfailed, hnone⟩
    dsimp only
    rw [if_pos hfailed]
    cases result with
    | error error => exact ⟨error, rfl⟩
    | ok =>
        -- A success of the dispatch is in the ledger that the report counts.
        obtain ⟨token, ht, hreached⟩ := attempts.exists_isReached rfl
        exact absurd hnone (Nat.ne_of_gt (dispatchReport_sentCount_pos ht hreached now))
  · refine .inr ⟨if_neg fun hfailed => ?_, report, once, hstatus, hsent⟩
    rw [hfailed] at hstatus
    exact hstatus.elim nofun nofun

/-- **A delivery comes to one of three ends.** A job that is known as completed ends in silence.
Else one report is published, and the job is marked after it unless its id is blank. Then the
delivery fails if the report counts no success, and succeeds if it counts some. -/
theorem exists_unique_fate {c : Courier} {job : Job} {es : List (Exchange interface)}
    {res : Except DeliveryError Unit × Job} (h : Exchanges (c.process job) es res) :
    ∃! fate : Fate, fate.Describes job es res.1 := by
  suffices some_end : ∃ fate : Fate, fate.Describes job es res.1 by
    obtain ⟨fate, hfate⟩ := some_end
    exact ⟨fate, hfate, fun other hother => hother.unique hfate⟩
  rcases exchanges_process_iff.mp h with
    ⟨hs, rfl⟩ | ⟨checks, rest, started, message, error, rfl, hr, go⟩ |
      ⟨checks, rest, started, content, rfl, hc, go⟩
  · refine ⟨.suppressed, rfl, publications_of_inChecks hs.inChecks, ?_, fun e he => ?_⟩
    · exact hs.inquires.writes_eq_nil
    · exact Request.not_isPush_of_inChecks (hs.inChecks e he)
  · exact ⟨.failed, hr.describes go⟩
  · rcases hc.describes go with hfailed | hdelivered
    · exact ⟨.failed, hfailed⟩
    · exact ⟨.delivered, hdelivered⟩

/-- A delivery that is not suppressed makes one report, which has failed if and only if the delivery
fails, and gives its job back with the attempts spent on it. -/
theorem suppressed_or_reportsOnce {c : Courier} {job : Job} {es : List (Exchange interface)}
    {res : Except DeliveryError Unit × Job} (h : Exchanges (c.process job) es res) :
    (Suppressed c job es ∧ res = (.ok (), job)) ∨
      ∃ report, ReportsOnce job report es ∧
        (report.status = .failed ↔ ∃ error, res.1 = .error error) ∧
        res.2 = { job with attemptCount := res.2.attemptCount } := by
  have reported : ∀ {es res},
      Fate.failed.Describes job es res ∨ Fate.delivered.Describes job es res →
        ∃ report, ReportsOnce job report es ∧
          (report.status = .failed ↔ ∃ error, res = .error error) := by
    rintro es res (⟨failed, report, once, hstatus, -⟩ | ⟨rfl, report, once, hstatus, -⟩)
    · exact ⟨report, once, fun _ => failed, fun _ => hstatus⟩
    · refine ⟨report, once, fun hfailed => ?_, nofun⟩
      rw [hfailed] at hstatus
      exact hstatus.elim nofun nofun
  rcases exchanges_process_iff.mp h with
    hs | ⟨checks, rest, started, message, error, rfl, hr, go⟩ |
      ⟨checks, rest, started, content, rfl, hc, go⟩
  · exact .inl hs
  · obtain ⟨report, once, hfailed⟩ := reported (.inl (hr.describes go))
    obtain ⟨now, accepted, marks, -, -, rfl⟩ := exchanges_refuse_iff.mp go
    exact .inr ⟨report, once, hfailed, rfl⟩
  · obtain ⟨report, once, hfailed⟩ := reported (hc.describes go)
    obtain ⟨tries, result, progress, now, accepted, marks, -, -, -, rfl⟩ :=
      exchanges_deliver_iff.mp go
    exact .inr ⟨report, once, hfailed, rfl⟩

end PushDelivery.Delivery
