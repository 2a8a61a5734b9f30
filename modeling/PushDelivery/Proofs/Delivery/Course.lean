import PushDelivery.Delivery.Courier
import PushDelivery.Proofs.Delivery.Attempts

/-!
# The Course of a Delivery

A job is dispatched only after it has passed the checks; a job that has not is refused or recognised
without a push. This module splits the exchanges of a delivery accordingly: the checks, the
attempts, and the report with the marker.

## Main definitions

* `Cleared`, `Refused`, `Suppressed`: the checks of a job by their ends.
* `Marks`: the exchanges by which a job is marked.
* `plainJob`, `plainChecks`: a job that names no template, and checks that it passes.
* `dispatchReport`, `closing`: the report on the attempts, and all exchanges after them.

## Main results

* `exchanges_process_iff`: a delivery is suppressed, or its job is refused, or it is cleared and
  delivered.
* `exchanges_process_cases`: a delivery makes no push, or its job was cleared and is delivered.
* `Cleared.exchanges_iff`: what follows the checks of a cleared job is its delivery.
* `looked_before_push`: a delivery that makes a push has looked for the marker of its job.
* `exchanges_deliver_iff`: a delivery after the checks consists of the attempts, one report on them,
  and the marker.
-/

namespace PushDelivery.Delivery

open Run (Exchange Exchanges Reaches OnlyAsks reaches_done_iff exchanges_done_iff exchanges_ask_iff
  exchanges_bind_iff exchanges_request_bind_iff)

/-! ### Ends -/

/-- The exchanges that mark a job: none for a blank id, and else those of the guard. -/
def Marks (job : Job) (es : List (Exchange interface)) : Prop :=
  if Text.isBlankText job.id then es = []
  else Exchanges (guarded (Guard.markProcessed job.id)) es ()

/-- Ending a delivery notes it, publishes the report, and marks the job. -/
theorem exchanges_finish_iff {job : Job} {report : Report} {elapsed : Duration}
    {es : List (Exchange interface)} {u : Unit} :
    Exchanges (Courier.finish job report elapsed) es u ↔
      ∃ accepted marks, es = ⟨.note (.finished report.status elapsed), ()⟩ ::
        ⟨.publish report, accepted⟩ :: marks ∧ Marks job marks := by
  rw [Courier.finish, exchanges_request_bind_iff]
  constructor
  · rintro ⟨_, es, rfl, go⟩
    obtain ⟨accepted, marks, rfl, hm⟩ := exchanges_request_bind_iff.mp go
    refine ⟨accepted, marks, rfl, ?_⟩
    unfold Marks
    split at hm
    · rename_i hblank
      rw [if_pos hblank]
      exact (exchanges_done_iff.mp hm).1
    · rename_i hblank
      rw [if_neg hblank]
      exact hm
  · rintro ⟨accepted, marks, rfl, hm⟩
    refine ⟨(), _, rfl, exchanges_request_bind_iff.mpr ⟨accepted, marks, rfl, ?_⟩⟩
    unfold Marks at hm
    split
    · rename_i hblank
      rw [if_pos hblank] at hm
      exact exchanges_done_iff.mpr ⟨hm, rfl⟩
    · rename_i hblank
      rw [if_neg hblank] at hm
      exact hm

/-- A decision of the guard inside a delivery asks for what it asks the guard for. -/
theorem onlyAsks_guarded {P : Request → Prop} {α : Type} {run : Run Guard.interface α}
    (h : OnlyAsks (fun r => P (.guard r)) run) : OnlyAsks P (guarded run) := by
  induction run with
  | done a => trivial
  | ask r next ih => exact ⟨h.1, fun answer => ih answer (h.2 answer)⟩

/-- Limiting the rate of a user asks for a count, and may let a failure pass. -/
theorem onlyAsks_checkRate {P : Request → Prop} {g : Guard} {userId : String}
    (count : P (.guard (.increment (Guard.counterKey userId) g.window)))
    (letPass : P (.guard (.letPass .rateLimit))) : OnlyAsks P (guarded (g.checkRate userId)) := by
  refine ⟨count, fun answer => ?_⟩
  cases answer with
  | ok => trivial
  | error => exact ⟨letPass, fun _ => trivial⟩

/-- Looking for a marker asks for a lookup, and may let a failure pass. -/
theorem onlyAsks_isDuplicate {P : Request → Prop} {jobId : String}
    (look : P (.guard (.lookup (Guard.markerKey jobId))))
    (letPass : P (.guard (.letPass .duplicateCheck))) :
    OnlyAsks P (guarded (Guard.isDuplicate jobId)) := by
  refine ⟨look, fun answer => ?_⟩
  cases answer with
  | ok => trivial
  | error => exact ⟨letPass, fun _ => trivial⟩

/-- Marking a job asks for a write, and may let a failure pass. -/
theorem onlyAsks_markProcessed {P : Request → Prop} {jobId : String}
    (mark : P (.guard (.write (Guard.markerKey jobId) Guard.markerText Guard.markerTtl)))
    (letPass : P (.guard (.letPass .markProcessed))) :
    OnlyAsks P (guarded (Guard.markProcessed jobId)) := by
  refine ⟨mark, fun answer => ?_⟩
  cases answer with
  | ok => trivial
  | error => exact ⟨letPass, fun _ => trivial⟩

/-- Ending a delivery asks for a note, a publication and the marker. -/
theorem onlyAsks_finish {P : Request → Prop} {job : Job} (hnote : ∀ e, P (.note e))
    (hpublish : ∀ r, P (.publish r)) (hmark : OnlyAsks P (guarded (Guard.markProcessed job.id)))
    (report : Report) (elapsed : Duration) : OnlyAsks P (Courier.finish job report elapsed) := by
  refine OnlyAsks.bind ⟨hnote _, fun _ => trivial⟩ fun _ => ?_
  refine OnlyAsks.bind ⟨hpublish _, fun _ => trivial⟩ fun _ => ?_
  split
  · trivial
  · exact hmark

/-- A refused job asks for the time and what ends its delivery. -/
theorem onlyAsks_refuse {P : Request → Prop} {job : Job} (hnow : P .now)
    (hnote : ∀ e, P (.note e)) (hpublish : ∀ r, P (.publish r))
    (hmark : OnlyAsks P (guarded (Guard.markProcessed job.id))) (started : Instant)
    (message : String) (error : DeliveryError) :
    OnlyAsks P (Courier.refuse job started message error) := by
  refine OnlyAsks.bind ⟨hnow, fun _ => trivial⟩ fun now => ?_
  exact (onlyAsks_finish hnote hpublish hmark _ _).bind fun _ => trivial

/-- Every request can be answered. -/
theorem nonempty_answer (r : Request) : Nonempty r.Answer := by
  cases r with
  | now => exact ⟨(0 : Nat)⟩
  | guard r =>
      cases r with
      | increment key window => exact ⟨.ok (0 : Nat)⟩
      | lookup key => exact ⟨.ok false⟩
      | write key value ttl => exact ⟨.ok ()⟩
      | letPass operation => exact ⟨()⟩
  | template code => exact ⟨.error (.notFound code)⟩
  | permit => exact ⟨true⟩
  | settle ok => exact ⟨()⟩
  | send token content => exact ⟨.error .timeout⟩
  | sendMany tokens content => exact ⟨.error .timeout⟩
  | pause duration => exact ⟨.elapsed⟩
  | publish report => exact ⟨true⟩
  | note event => exact ⟨()⟩

/-- A delivery that has begun can come to an end. -/
theorem exists_ending {α : Type} {run left : Run interface α} {es : List (Exchange interface)}
    (h : Reaches run es left) :
    ∃ rest a, Exchanges left rest a ∧ Exchanges run (es ++ rest) a := by
  obtain ⟨rest, a, ends, -⟩ := Run.exists_exchanges (P := fun _ => True)
    (fun r => (nonempty_answer r).elim fun answer => ⟨answer, trivial⟩) left
  exact ⟨rest, a, ends, h.exchanges ends⟩

/-! ### Checks -/

/-- Whether a request is one that checks consist of. -/
def Request.inChecks : Request → Bool
  | .now | .guard _ | .template _ | .note _ => true
  | _ => false

/-- The checks that a job passes before it is dispatched: its user is within the limit, it is valid,
the guard does not know it as completed, and its content can be had. -/
inductive Cleared (c : Courier) (job : Job) :
    List (Exchange interface) → Instant → Content → Prop
  | intro {started : Instant} {rate look prep : List (Exchange interface)} {content : Content}
      (allowed : Exchanges (guarded (c.guard.checkRate job.userId)) rate .allowed)
      (valid : job.problem? = none)
      (fresh : Exchanges (guarded (Guard.isDuplicate job.id)) look false)
      (prepared : Exchanges (Courier.prepare job) prep (.ok content)) :
      Cleared c job (⟨.now, started⟩ :: ⟨.note .received, ()⟩ :: (rate ++ (look ++ prep)))
        started content

/-- The checks after which a job is refused, with the message of the report and the reason: its user
is past the limit, it is not valid, or its content cannot be had. -/
inductive Refused (c : Courier) (job : Job) :
    List (Exchange interface) → Instant → String → DeliveryError → Prop
  | limited {started : Instant} {rate : List (Exchange interface)} {count limit : Nat}
      (exceeded : Exchanges (guarded (c.guard.checkRate job.userId)) rate
        (.exceeded count limit)) :
      Refused c job
        (⟨.now, started⟩ :: ⟨.note .received, ()⟩ :: (rate ++ [⟨.note .rateLimited, ()⟩]))
        started "Rate limit exceeded" (.rateLimited job.userId limit)
  | invalid {started : Instant} {rate : List (Exchange interface)} {problem : Job.Problem}
      (allowed : Exchanges (guarded (c.guard.checkRate job.userId)) rate .allowed)
      (invalid : job.problem? = some problem) :
      Refused c job (⟨.now, started⟩ :: ⟨.note .received, ()⟩ :: rate) started
        ("Validation failed: " ++ problem.message) (.validation problem)
  | unprepared {started : Instant} {rate look prep : List (Exchange interface)} {e : TemplateError}
      (allowed : Exchanges (guarded (c.guard.checkRate job.userId)) rate .allowed)
      (valid : job.problem? = none)
      (fresh : Exchanges (guarded (Guard.isDuplicate job.id)) look false)
      (unprepared : Exchanges (Courier.prepare job) prep (.error e)) :
      Refused c job (⟨.now, started⟩ :: ⟨.note .received, ()⟩ :: (rate ++ (look ++ prep))) started
        ("Failed to prepare notification: " ++ e.message) (.template e)

/-- The exchanges of a job that the guard knows as completed. -/
inductive Suppressed (c : Courier) (job : Job) : List (Exchange interface) → Prop
  | intro {started : Instant} {rate look : List (Exchange interface)}
      (allowed : Exchanges (guarded (c.guard.checkRate job.userId)) rate .allowed)
      (valid : job.problem? = none)
      (known : Exchanges (guarded (Guard.isDuplicate job.id)) look true) :
      Suppressed c job (⟨.now, started⟩ :: ⟨.note .received, ()⟩ ::
        (rate ++ (look ++ [⟨.note .duplicate, ()⟩])))

/-- After the checks a job is delivered. -/
theorem Cleared.reaches {c : Courier} {job : Job} {checks : List (Exchange interface)}
    {started : Instant} {content : Content} (h : Cleared c job checks started content) :
    Reaches (c.process job) checks (c.deliver job started content) := by
  cases h with
  | intro allowed valid fresh prepared =>
      refine .ask (.ask ((allowed.reaches_bind _).trans ?_))
      simp only [valid]
      exact (fresh.reaches_bind _).trans (prepared.reaches_bind _)

/-- What follows the checks of a cleared job is its delivery. -/
theorem Cleared.exchanges_iff {c : Courier} {job : Job} {checks rest : List (Exchange interface)}
    {started : Instant} {content : Content} {res : Except DeliveryError Unit × Job}
    (h : Cleared c job checks started content) :
    Exchanges (c.process job) (checks ++ rest) res ↔
      Exchanges (c.deliver job started content) rest res :=
  h.reaches.exchanges_iff

/-- After the checks a job is refused. -/
theorem Refused.reaches {c : Courier} {job : Job} {checks : List (Exchange interface)}
    {started : Instant} {message : String} {error : DeliveryError}
    (h : Refused c job checks started message error) :
    Reaches (c.process job) checks (Courier.refuse job started message error) := by
  cases h with
  | limited exceeded =>
      refine .ask (.ask ((exceeded.reaches_bind _).trans ?_))
      exact .ask (.here _)
  | @invalid _ rate _ allowed invalid =>
      rw [← List.append_nil rate]
      refine .ask (.ask ((allowed.reaches_bind _).trans ?_))
      simp only [invalid]
      exact .here _
  | unprepared allowed valid fresh unprepared =>
      refine .ask (.ask ((allowed.reaches_bind _).trans ?_))
      simp only [valid]
      exact (fresh.reaches_bind _).trans (unprepared.reaches_bind _)

/-- After the checks a job is done if it is suppressed. -/
theorem Suppressed.reaches {c : Courier} {job : Job} {es : List (Exchange interface)}
    (h : Suppressed c job es) : Reaches (c.process job) es (.done (.ok (), job)) := by
  cases h with
  | intro allowed valid known =>
      refine .ask (.ask ((allowed.reaches_bind _).trans ?_))
      simp only [valid]
      refine (known.reaches_bind _).trans ?_
      exact .ask (.here _)

/-- The content of a job takes at most the request for its template. -/
theorem onlyAsks_prepare {P : Request → Prop} (h : ∀ code, P (.template code)) (job : Job) :
    OnlyAsks P (Courier.prepare job) := by
  unfold Courier.prepare
  split
  · trivial
  · refine OnlyAsks.bind ⟨h _, fun _ => trivial⟩ fun answer => ?_
    cases answer <;> trivial

/-- Whether a request asks the guard or the template service for something and writes nothing. -/
def Request.isInquiry : Request → Bool
  | .guard (.write ..) => false
  | .guard _ | .template _ => true
  | _ => false

/-- Limiting the rate of a user is an inquiry. -/
theorem isInquiry_of_checkRate {g : Guard} {userId : String} {es : List (Exchange interface)}
    {d : Guard.Decision} (h : Exchanges (guarded (g.checkRate userId)) es d) :
    ∀ e ∈ es, e.1.isInquiry = true :=
  (onlyAsks_checkRate (P := fun r => r.isInquiry = true) rfl rfl).of_exchanges h

/-- Looking for a marker is an inquiry. -/
theorem isInquiry_of_isDuplicate {jobId : String} {es : List (Exchange interface)} {found : Bool}
    (h : Exchanges (guarded (Guard.isDuplicate jobId)) es found) :
    ∀ e ∈ es, e.1.isInquiry = true :=
  (onlyAsks_isDuplicate (P := fun r => r.isInquiry = true) rfl rfl).of_exchanges h

/-- Having the content of a job is an inquiry. -/
theorem isInquiry_of_prepare {job : Job} {es : List (Exchange interface)}
    {a : Except TemplateError Content} (h : Exchanges (Courier.prepare job) es a) :
    ∀ e ∈ es, e.1.isInquiry = true := by
  have asks := onlyAsks_prepare (P := fun r => r.isInquiry = true) (fun _ => rfl) job
  exact asks.of_exchanges h

/-- A delivery begins with the time and a note, goes on with inquiries, and makes some notes that
depend on what they come to. -/
inductive Inquires (notes : List Event) : List (Exchange interface) → Prop
  | intro (started : Instant) {inquiries : List (Exchange interface)}
      (inquire : ∀ e ∈ inquiries, e.1.isInquiry = true) :
      Inquires notes (⟨.now, started⟩ :: ⟨.note .received, ()⟩ ::
        (inquiries ++ notes.map fun event => ⟨.note event, ()⟩))

/-- A job is cleared by inquiries. -/
theorem Cleared.inquires {c : Courier} {job : Job} {checks : List (Exchange interface)}
    {started : Instant} {content : Content} (h : Cleared c job checks started content) :
    Inquires [] checks := by
  cases h with
  | @intro _ rate look prep _ allowed valid fresh prepared =>
      rw [← List.append_nil (rate ++ (look ++ prep))]
      refine .intro started fun e he => ?_
      rcases List.mem_append.mp he with he | he
      · exact isInquiry_of_checkRate allowed e he
      · rcases List.mem_append.mp he with he | he
        · exact isInquiry_of_isDuplicate fresh e he
        · exact isInquiry_of_prepare prepared e he

/-- A job is refused by inquiries, and it is noted if its user is past the limit. -/
theorem Refused.inquires {c : Courier} {job : Job} {checks : List (Exchange interface)}
    {started : Instant} {message : String} {error : DeliveryError}
    (h : Refused c job checks started message error) :
    Inquires [] checks ∨ Inquires [.rateLimited] checks := by
  cases h with
  | limited exceeded => exact .inr (.intro started (isInquiry_of_checkRate exceeded))
  | @invalid _ rate _ allowed invalid =>
      rw [← List.append_nil rate]
      exact .inl (.intro started (isInquiry_of_checkRate allowed))
  | @unprepared _ rate look prep _ allowed valid fresh unprepared =>
      rw [← List.append_nil (rate ++ (look ++ prep))]
      refine .inl (.intro started fun e he => ?_)
      rcases List.mem_append.mp he with he | he
      · exact isInquiry_of_checkRate allowed e he
      · rcases List.mem_append.mp he with he | he
        · exact isInquiry_of_isDuplicate fresh e he
        · exact isInquiry_of_prepare unprepared e he

/-- A job is suppressed by inquiries, and this is noted. -/
theorem Suppressed.inquires {c : Courier} {job : Job} {es : List (Exchange interface)}
    (h : Suppressed c job es) : Inquires [.duplicate] es := by
  cases h with
  | @intro started rate look allowed valid known =>
      rw [← List.append_assoc]
      refine .intro started fun e he => ?_
      rcases List.mem_append.mp he with he | he
      · exact isInquiry_of_checkRate allowed e he
      · exact isInquiry_of_isDuplicate known e he

/-- Inquiries and notes are checks. -/
theorem Inquires.inChecks {notes : List Event} {es : List (Exchange interface)}
    (h : Inquires notes es) : ∀ e ∈ es, e.1.inChecks = true := by
  have ofInquiry : ∀ {r : Request}, r.isInquiry = true → r.inChecks = true := fun {r} hr => by
    cases r with
    | guard | template => rfl
    | _ => cases hr
  cases h with
  | intro started inquire =>
      simp only [List.mem_cons, List.mem_append, List.mem_map]
      rintro e (rfl | rfl | he | ⟨event, -, rfl⟩)
      · rfl
      · rfl
      · exact ofInquiry (inquire e he)
      · rfl

/-- A job is cleared by checks. -/
theorem Cleared.inChecks {c : Courier} {job : Job} {checks : List (Exchange interface)}
    {started : Instant} {content : Content} (h : Cleared c job checks started content) :
    ∀ e ∈ checks, e.1.inChecks = true := h.inquires.inChecks

/-- A job is refused by checks. -/
theorem Refused.inChecks {c : Courier} {job : Job} {checks : List (Exchange interface)}
    {started : Instant} {message : String} {error : DeliveryError}
    (h : Refused c job checks started message error) : ∀ e ∈ checks, e.1.inChecks = true :=
  h.inquires.elim Inquires.inChecks Inquires.inChecks

/-- A job is suppressed by checks. -/
theorem Suppressed.inChecks {c : Courier} {job : Job} {es : List (Exchange interface)}
    (h : Suppressed c job es) : ∀ e ∈ es, e.1.inChecks = true := h.inquires.inChecks

/-- Checks push nothing. -/
theorem Request.not_isPush_of_inChecks {r : Request} (h : r.inChecks = true) :
    r.isPush = false := by
  cases r with
  | send | sendMany => cases h
  | _ => rfl

/-- A marker is found if and only if the lookup says so; a failure is let pass. -/
theorem exchanges_isDuplicate {jobId : String} {es : List (Exchange interface)} {found : Bool}
    (h : Exchanges (guarded (Guard.isDuplicate jobId)) es found) :
    ∃ (answer : Except GuardError Bool) (rest : List (Exchange interface)),
      es = ⟨.guard (.lookup (Guard.markerKey jobId)), answer⟩ :: rest ∧
        (found = true ↔ answer = .ok true) := by
  obtain ⟨answer, rest, rfl, go⟩ := exchanges_ask_iff.mp h
  refine ⟨answer, rest, rfl, ?_⟩
  cases answer with
  | ok known =>
      obtain ⟨-, rfl⟩ := exchanges_done_iff.mp go
      exact ⟨congrArg Except.ok, Except.ok.inj⟩
  | error =>
      obtain ⟨_, _, -, go⟩ := exchanges_ask_iff.mp go
      obtain ⟨-, rfl⟩ := exchanges_done_iff.mp go
      exact ⟨nofun, nofun⟩

/-- A job that was cleared was not found to be completed. -/
theorem Cleared.looked {c : Courier} {job : Job} {checks : List (Exchange interface)}
    {started : Instant} {content : Content} (h : Cleared c job checks started content) :
    ∃ answer, ⟨.guard (.lookup (Guard.markerKey job.id)), answer⟩ ∈ checks ∧ answer ≠ .ok true := by
  cases h with
  | intro allowed valid fresh prepared =>
      obtain ⟨answer, rest, rfl, hfound⟩ := exchanges_isDuplicate fresh
      exact ⟨answer, by simp, fun known => nomatch hfound.mpr known⟩

/-- A delivery is suppressed, or its job is refused, or it is cleared and delivered. -/
theorem exchanges_process_iff {c : Courier} {job : Job} {es : List (Exchange interface)}
    {res : Except DeliveryError Unit × Job} :
    Exchanges (c.process job) es res ↔
      (Suppressed c job es ∧ res = (.ok (), job)) ∨
      (∃ checks rest started message error, es = checks ++ rest ∧
        Refused c job checks started message error ∧
        Exchanges (Courier.refuse job started message error) rest res) ∨
      ∃ checks rest started content, es = checks ++ rest ∧ Cleared c job checks started content ∧
        Exchanges (c.deliver job started content) rest res := by
  constructor
  · intro h
    obtain ⟨started, es₁, rfl, go₁⟩ := exchanges_request_bind_iff.mp h
    obtain ⟨_, es₂, rfl, go₂⟩ := exchanges_request_bind_iff.mp go₁
    obtain ⟨decision, rate, es₃, rfl, hrate, go₃⟩ := exchanges_bind_iff.mp go₂
    cases decision with
    | exceeded count limit =>
        obtain ⟨_, es₄, rfl, go₄⟩ := exchanges_request_bind_iff.mp go₃
        exact .inr (.inl ⟨_, es₄, started, _, _, by simp, .limited hrate, go₄⟩)
    | allowed =>
        cases hp : job.problem? with
        | some problem =>
            simp only [hp] at go₃
            exact .inr (.inl ⟨_, es₃, started, _, _, rfl, .invalid hrate hp, go₃⟩)
        | none =>
            simp only [hp] at go₃
            obtain ⟨duplicate, look, es₄, rfl, hlook, go₄⟩ := exchanges_bind_iff.mp go₃
            cases duplicate with
            | true =>
                obtain ⟨_, es₅, rfl, go₅⟩ := exchanges_request_bind_iff.mp go₄
                obtain ⟨rfl, rfl⟩ := exchanges_done_iff.mp go₅
                exact .inl ⟨.intro hrate hp hlook, rfl⟩
            | false =>
                obtain ⟨prepared, prep, es₅, rfl, hprep, go₅⟩ := exchanges_bind_iff.mp go₄
                cases prepared with
                | error e =>
                    exact .inr (.inl ⟨_, es₅, started, _, _, by simp,
                      .unprepared hrate hp hlook hprep, go₅⟩)
                | ok content =>
                    exact .inr (.inr ⟨_, es₅, started, content, by simp,
                      .intro hrate hp hlook hprep, go₅⟩)
  · rintro (⟨hs, rfl⟩ | ⟨checks, rest, started, message, error, rfl, hr, go⟩ |
      ⟨checks, rest, started, content, rfl, hc, go⟩)
    · exact reaches_done_iff.mp hs.reaches
    · exact hr.reaches.exchanges go
    · exact hc.reaches.exchanges go

/-- The delivery of a job that is refused makes no push. -/
theorem not_isPush_of_refuse {job : Job} {started : Instant} {message : String}
    {error : DeliveryError} {es : List (Exchange interface)}
    {res : Except DeliveryError Unit × Job}
    (h : Exchanges (Courier.refuse job started message error) es res) :
    ∀ e ∈ es, e.1.isPush = false := by
  have asks : OnlyAsks (fun r : Request => r.isPush = false)
      (Courier.refuse job started message error) :=
    onlyAsks_refuse (P := fun r => r.isPush = false) rfl (fun _ => rfl) (fun _ => rfl)
      (onlyAsks_guarded (.of_forall (fun _ => rfl) _)) started message error
  exact asks.of_exchanges h

/-- A delivery makes no push, or its job was cleared and is delivered. -/
theorem exchanges_process_cases {c : Courier} {job : Job} {es : List (Exchange interface)}
    {res : Except DeliveryError Unit × Job} (h : Exchanges (c.process job) es res) :
    (∀ e ∈ es, e.1.isPush = false) ∨
      ∃ checks rest started content, es = checks ++ rest ∧ Cleared c job checks started content ∧
        Exchanges (c.deliver job started content) rest res := by
  rcases exchanges_process_iff.mp h with
    ⟨hs, -⟩ | ⟨checks, rest, started, message, error, rfl, hr, go⟩ | hcleared
  · exact .inl fun e he => Request.not_isPush_of_inChecks (hs.inChecks e he)
  · refine .inl fun e he => ?_
    rcases List.mem_append.mp he with he | he
    · exact Request.not_isPush_of_inChecks (hr.inChecks e he)
    · exact not_isPush_of_refuse go e he
  · exact .inr hcleared

/-- Before a push, a delivery has looked for the marker of its job and not found it. -/
theorem looked_before_push {c : Courier} {job : Job} {es : List (Exchange interface)} {r : Request}
    {next : r.Answer → Run interface (Except DeliveryError Unit × Job)}
    (go : Reaches (c.process job) es (.ask r next)) (push : r.isPush = true) :
    ∃ answer, ⟨.guard (.lookup (Guard.markerKey job.id)), answer⟩ ∈ es ∧ answer ≠ .ok true := by
  obtain ⟨rest, res, hrest, hrun⟩ := exists_ending go
  obtain ⟨answer, rest, rfl, -⟩ := exchanges_ask_iff.mp hrest
  rcases exchanges_process_cases hrun with hquiet | ⟨checks, rest', started, content, heq, hc, -⟩
  · have hnot := hquiet ⟨r, answer⟩ (by simp)
    rw [push] at hnot
    cases hnot
  · obtain ⟨looked, hmem, hne⟩ := hc.looked
    refine ⟨looked, ?_, hne⟩
    -- The push is none of the checks, so it comes after all of them.
    rcases List.append_eq_append_iff.mp heq with ⟨more, rfl, hmore⟩ | ⟨more, rfl, -⟩
    · cases more with
      | nil => simpa using hmem
      | cons x more =>
          obtain ⟨rfl, -⟩ := List.cons.inj hmore
          have hnot := Request.not_isPush_of_inChecks (hc.inChecks ⟨r, answer⟩ (by simp))
          rw [push] at hnot
          cases hnot
    · exact List.mem_append_left _ hmem

/-! ### A plain job -/

/-- A job with its own content for some devices. -/
def plainJob (tokens : List String) : Job :=
  { (default : Job) with id := "n1", userId := "u1", deviceTokens := tokens, title := "Title" }

/-- The checks of such a job when nothing was sent to its user before. -/
def plainChecks : List (Exchange interface) :=
  [⟨.now, (0 : Nat)⟩, ⟨.note .received, ()⟩,
    ⟨.guard (.increment (Guard.counterKey "u1") (Duration.ofSeconds 60)), .ok (1 : Nat)⟩,
    ⟨.guard (.lookup (Guard.markerKey "n1")), .ok false⟩]

/-- It passes them if one of its devices is not blank. -/
theorem plainJob_cleared (retry : RetryPolicy) {tokens : List String}
    (valid : (plainJob tokens).problem? = none) :
    Cleared { retry } (plainJob tokens) plainChecks (0 : Nat) (.ofJob (plainJob tokens)) := by
  have allowed : Exchanges (guarded (({} : Guard).checkRate (plainJob tokens).userId))
      [⟨.guard (.increment (Guard.counterKey "u1") (Duration.ofSeconds 60)), .ok (1 : Nat)⟩]
      .allowed := .ask (.done _)
  have fresh : Exchanges (guarded (Guard.isDuplicate (plainJob tokens).id))
      [⟨.guard (.lookup (Guard.markerKey "n1")), .ok false⟩] false := .ask (.done _)
  have prepared : Exchanges (Courier.prepare (plainJob tokens)) []
      (.ok (.ofJob (plainJob tokens))) := .done _
  exact @Cleared.intro { retry } (plainJob tokens) (0 : Nat) _ _ _ _ allowed valid fresh prepared

/-! ### The delivery after the checks -/

/-- Why a dispatch failed, if it did. -/
def reason? : Except DeliveryError Unit → Option DeliveryError
  | .error e => some e
  | .ok () => none

/-- The report on a job that was dispatched, at some time. -/
def dispatchReport (job : Job) (result : Except DeliveryError Unit) (progress : Progress)
    (now : Instant) : Report :=
  let results := progress.ledger.results job.validTokens (reason? result) (.ofInstant now)
  let sent := (results.filter (·.success)).length
  let status := Status.ofCounts sent (results.length - sent)
  Courier.report { job with attemptCount := progress.spent } status
    (Courier.summary sent (results.length - sent) status) results (reason? result) (.ofInstant now)

/-- The exchanges after the attempts of a delivery. -/
def closing (report : Report) (started now : Instant) (accepted : Bool)
    (marks : List (Exchange interface)) : List (Exchange interface) :=
  ⟨.now, now⟩ :: ⟨.note (.finished report.status (now - started)), ()⟩ ::
    ⟨.publish report, accepted⟩ :: marks

/-- A delivery after the checks consists of the attempts, one report on them, and the marker. -/
theorem exchanges_deliver_iff {c : Courier} {job : Job} {started : Instant} {content : Content}
    {es : List (Exchange interface)} {res : Except DeliveryError Unit × Job} :
    Exchanges (c.deliver job started content) es res ↔
      ∃ tries result progress now accepted marks,
        Exchanges (dispatch c.retry c.breaker content job.validTokens job.correlationId
          job.attemptCount) tries (result, progress) ∧
        es = tries ++ closing (dispatchReport job result progress now) started now accepted marks ∧
        Marks job marks ∧
        res = (if (dispatchReport job result progress now).status = .failed then result else .ok (),
          { job with attemptCount := progress.spent }) := by
  rw [Courier.deliver, exchanges_bind_iff]
  constructor
  · rintro ⟨⟨result, progress⟩, tries, es₁, rfl, htries, go₁⟩
    obtain ⟨now, es₂, rfl, go₂⟩ := exchanges_request_bind_iff.mp go₁
    obtain ⟨_, es₃, es₄, rfl, hfinish, hdone⟩ := exchanges_bind_iff.mp go₂
    obtain ⟨accepted, marks, rfl, hm⟩ := exchanges_finish_iff.mp hfinish
    obtain ⟨rfl, rfl⟩ := exchanges_done_iff.mp hdone
    refine ⟨tries, result, progress, now, accepted, marks, htries, ?_, hm, ?_⟩
    · rw [List.append_nil]
      cases result <;> rfl
    · cases result <;> rfl
  · rintro ⟨tries, result, progress, now, accepted, marks, htries, rfl, hm, rfl⟩
    refine ⟨(result, progress), tries, _, rfl, htries, ?_⟩
    refine exchanges_request_bind_iff.mpr ⟨now, _, rfl, exchanges_bind_iff.mpr ?_⟩
    refine ⟨(), _, [], (List.append_nil _).symm, ?_, exchanges_done_iff.mpr ⟨?_, ?_⟩⟩
    · cases result <;> exact exchanges_finish_iff.mpr ⟨accepted, marks, rfl, hm⟩
    · rfl
    · cases result <;> rfl

/-- Marking a job asks for operations of the guard. -/
theorem Marks.inChecks {job : Job} {es : List (Exchange interface)} (h : Marks job es) :
    ∀ e ∈ es, e.1.inChecks = true := by
  unfold Marks at h
  split at h
  · simp [h]
  · have asks := onlyAsks_guarded (P := fun r => r.inChecks = true)
      (.of_forall (fun _ => rfl) (Guard.markProcessed job.id))
    exact asks.of_exchanges h

/-- Nothing is pushed after the attempts. -/
theorem Marks.closing_not_push {job : Job} {marks : List (Exchange interface)}
    (h : Marks job marks) (report : Report) (started now : Instant) (accepted : Bool) :
    ∀ e ∈ closing report started now accepted marks, e.1.isPush = false := by
  simp only [closing, List.mem_cons]
  rintro e (rfl | rfl | rfl | he)
  · rfl
  · rfl
  · rfl
  · exact Request.not_isPush_of_inChecks (h.inChecks e he)

end PushDelivery.Delivery
