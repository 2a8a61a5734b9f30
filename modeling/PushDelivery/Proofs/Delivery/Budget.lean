import Mathlib.Algebra.Order.Floor.Div
import PushDelivery.Proofs.Delivery.Endings

/-!
# The Budget of a Delivery

A delivery makes no more attempts than its retry policy leaves to the job, and the job counts each
of them, also one that the breaker refuses. This module cuts the exchanges of a delivery into its
attempts and states what each of them costs: one request for admission, and at most one request to
the gateway for each batch that the devices of the job fill.

## Main definitions

* `Request.inAttempt`: the requests that attempts consist of.
* `pushes`: how often some exchanges ask the gateway for a push.
* `Economical`: what an attempt costs.
* `Tries`: attempts with consecutive numbers.
* `Rounds`: the same with what each of them leaves to the next.

## Main results

* `length_batches`: how many batches some devices fill.
* `Attempt.economical`: no attempt costs more.
* `Attempts.exists_rounds`: a dispatch consists of attempts with consecutive numbers.
* `attempts_within_budget`: what a delivery spends.
-/

namespace PushDelivery.Delivery

open Run (Exchange Exchanges OnlyAsks)

/-! ### Requests of attempts -/

/-- Whether a request is one that attempts consist of: admission and its settlement, and pushes with
the notes on them. -/
def Request.inAttempt : Request → Bool
  | .permit | .settle _ | .send .. | .sendMany .. => true
  | .note (.sent ..) => true
  | _ => false

/-- Whether a request asks the breaker for admission. -/
def Request.isPermit : Request → Bool
  | .permit => true
  | _ => false

/-- A push belongs to an attempt. -/
theorem Request.inAttempt_of_isPush {r : Request} (h : r.isPush = true) : r.inAttempt = true := by
  cases r with
  | send | sendMany => rfl
  | _ => cases h

/-- The number of batches that some devices fill. -/
theorem length_batches (tokens : List String) :
    (batches tokens).length = tokens.length ⌈/⌉ batchLimit := by
  induction tokens using batches.induct with
  | case1 => rw [batches, List.length_nil, List.length_nil, zero_ceilDiv]
  | case2 t rest ih =>
      rw [batches, List.length_cons, ih, List.length_drop, List.length_cons]
      simp only [Nat.ceilDiv_eq_add_pred_div, batchLimit]
      omega

/-- How often some exchanges ask the gateway for a push. -/
def pushes (es : List (Exchange interface)) : Nat := es.countP fun e => e.1.isPush

theorem pushes_cons (e : Exchange interface) (es : List (Exchange interface)) :
    pushes (e :: es) = pushes es + if e.1.isPush then 1 else 0 := List.countP_cons

theorem pushes_append (es fs : List (Exchange interface)) :
    pushes (es ++ fs) = pushes es + pushes fs := List.countP_append

/-- Sending makes pushes and notes on them, and no more pushes than there are batches. -/
theorem Sends.economical {content : Content} {alone : Bool} {bs : List (List String)}
    {es : List (Exchange interface)} {d : Except GatewayError Unit}
    (h : Sends content alone bs es d) :
    (∀ e ∈ es, e.1.inAttempt = true ∧ e.1.isPermit = false) ∧ pushes es ≤ bs.length := by
  have ofAsked : ∀ {batch : List String} {x : Exchange interface},
      x.1 = requestFor content alone batch →
        (x.1.inAttempt = true ∧ x.1.isPermit = false) ∧ x.1.isPush = true := by
    intro batch x asked
    rcases requestFor_eq_or content alone batch with ⟨token, -, hr⟩ | hr
    · rw [asked, hr]
      exact ⟨⟨rfl, rfl⟩, rfl⟩
    · rw [asked, hr]
      exact ⟨⟨rfl, rfl⟩, rfl⟩
  induction h with
  | nil => exact ⟨List.forall_mem_nil _, Nat.le_refl 0⟩
  | failed asked _ =>
      refine ⟨List.forall_mem_singleton.mpr (ofAsked asked).1, ?_⟩
      exact Nat.le_trans List.countP_le_length (Nat.succ_le_succ (Nat.zero_le _))
  | answered asked _ _ ih =>
      refine ⟨List.forall_mem_cons.mpr ⟨(ofAsked asked).1,
        List.forall_mem_cons.mpr ⟨⟨rfl, rfl⟩, ih.1⟩⟩, ?_⟩
      rw [pushes_cons, pushes_cons, if_pos (ofAsked asked).2]
      exact Nat.succ_le_succ ih.2

/-! ### Attempts -/

/-- An attempt at some devices asks for admission once. If it is refused it asks for nothing else;
and it makes no more pushes than its devices fill batches. -/
structure Economical (devices : Nat) (es : List (Exchange interface)) : Prop where
  admission : es.countP (fun e => e.1.isPermit) = 1
  refused : ⟨.permit, false⟩ ∈ es → es = [⟨.permit, false⟩]
  batched : pushes es ≤ devices ⌈/⌉ batchLimit

/-- The devices that are pending fill no more batches than all. -/
theorem length_batches_pending (l : Ledger) (tokens : List String) :
    (batches (l.pending tokens)).length ≤ tokens.length ⌈/⌉ batchLimit := by
  have few : (l.pending tokens).length ≤ tokens.length := List.length_filter_le _ _
  rw [length_batches, Nat.ceilDiv_eq_add_pred_div, Nat.ceilDiv_eq_add_pred_div]
  exact Nat.div_le_div_right (by omega)

/-- An attempt asks for nothing but what attempts consist of. -/
theorem Attempt.inAttempt {breaker : String} {content : Content} {tokens : List String}
    {number : Nat} {p q : Progress} {es : List (Exchange interface)}
    {r : Except DeliveryError Unit} (h : Attempt breaker content tokens number p es r q) :
    ∀ e ∈ es, e.1.inAttempt = true := by
  cases h with
  | refused => exact List.forall_mem_singleton.mpr rfl
  | failed sends | answered sends =>
      refine List.forall_mem_cons.mpr ⟨rfl, List.forall_mem_append.mpr ⟨fun e he => ?_, ?_⟩⟩
      · exact (sends.economical.1 e he).1
      · exact List.forall_mem_singleton.mpr rfl

/-- No attempt costs more. -/
theorem Attempt.economical {breaker : String} {content : Content} {tokens : List String}
    {number : Nat} {p q : Progress} {es : List (Exchange interface)}
    {r : Except DeliveryError Unit} (h : Attempt breaker content tokens number p es r q) :
    Economical tokens.length es := by
  cases h with
  | refused => exact ⟨rfl, fun _ => rfl, Nat.zero_le _⟩
  | failed sends | answered sends =>
      obtain ⟨asks, few⟩ := sends.economical
      refine ⟨?_, fun refused => ?_, ?_⟩
      · rw [List.countP_cons_of_pos rfl, List.countP_append, List.countP_eq_zero.mpr]
        · rfl
        · exact fun e he => Bool.not_eq_true _ ▸ (asks e he).2
      · rcases List.mem_cons.mp refused with same | refused
        · cases same
        · rcases List.mem_append.mp refused with sent | settled
          · cases (asks _ sent).2
          · cases List.mem_singleton.mp settled
      · rw [pushes_cons, pushes_append]
        exact Nat.le_trans few (length_batches_pending p.ledger tokens)

/-- An attempt is counted. -/
theorem Attempt.spent_eq {breaker : String} {content : Content} {tokens : List String}
    {number : Nat} {p q : Progress} {es : List (Exchange interface)}
    {r : Except DeliveryError Unit} (h : Attempt breaker content tokens number p es r q) :
    q.spent = number + 1 := by
  cases h <;> rfl

/-- Attempts with consecutive numbers. -/
inductive Tries (breaker : String) (content : Content) (tokens : List String) :
    Nat → List (List (Exchange interface)) → Prop
  | nil {number : Nat} : Tries breaker content tokens number []
  | cons {number : Nat} {p q : Progress} {es : List (Exchange interface)}
      {r : Except DeliveryError Unit} {rest : List (List (Exchange interface))}
      (first : Attempt breaker content tokens number p es r q)
      (more : Tries breaker content tokens (number + 1) rest) :
      Tries breaker content tokens number (es :: rest)

/-- Attempts with consecutive numbers, each from what the dispatch has come to with the ones before
it, and what it comes to in the end. -/
inductive Rounds (breaker : String) (content : Content) (tokens : List String) :
    Nat → Progress → List (List (Exchange interface)) → Progress → Prop
  | nil {number : Nat} {p : Progress} : Rounds breaker content tokens number p [] p
  | cons {number : Nat} {p q s : Progress} {es : List (Exchange interface)}
      {r : Except DeliveryError Unit} {rest : List (List (Exchange interface))}
      (first : Attempt breaker content tokens number p es r q)
      (more : Rounds breaker content tokens (number + 1) q rest s) :
      Rounds breaker content tokens number p (es :: rest) s

/-- Rounds are attempts with consecutive numbers. -/
theorem Rounds.tries {breaker : String} {content : Content} {tokens : List String} {number : Nat}
    {p s : Progress} {tries : List (List (Exchange interface))}
    (h : Rounds breaker content tokens number p tries s) :
    Tries breaker content tokens number tries := by
  induction h with
  | nil => exact .nil
  | cons first _ ih => exact .cons first ih

/-- A dispatch consists of rounds, no more than attempts are left, and counts each of them. -/
theorem Attempts.exists_rounds {policy : RetryPolicy} {breaker : String} {content : Content}
    {tokens : List String} {left number : Nat} {p s : Progress} {es : List (Exchange interface)}
    {r : Except DeliveryError Unit}
    (h : Attempts policy breaker content tokens left number p es r s) (counted : p.spent = number) :
    ∃ tries, Rounds breaker content tokens number p tries s ∧ tries.length ≤ left ∧
      s.spent = number + tries.length ∧ es.filter (fun e => e.1.inAttempt) = tries.flatten := by
  have waits : ∀ {d : Duration} {how : Pause},
      (waiting d how).filter (fun e => e.1.inAttempt) = [] := rfl
  have whole : ∀ {number : Nat} {p q : Progress} {es : List (Exchange interface)}
      {r : Except DeliveryError Unit}, Attempt breaker content tokens number p es r q →
        es.filter (fun e => e.1.inAttempt) = es := fun tries =>
    List.filter_eq_self.mpr tries.inAttempt
  induction h with
  | spent => exact ⟨[], .nil, Nat.le_refl 0, counted, rfl⟩
  | @last left number p q es r tries _ =>
      refine ⟨[es], .cons tries .nil, Nat.succ_le_succ (Nat.zero_le _), tries.spent_eq, ?_⟩
      rw [whole tries, List.flatten_singleton]
  | @cancelled left number p q es e tries _ =>
      refine ⟨[es], .cons tries .nil, Nat.succ_le_succ (Nat.zero_le _), tries.spent_eq, ?_⟩
      rw [List.filter_append, whole tries, waits, List.append_nil, List.flatten_singleton]
  | @again left number p q s es rest e r tries _ _ ih =>
      obtain ⟨more, hmore, few, spent, hflat⟩ := ih tries.spent_eq
      refine ⟨es :: more, .cons tries hmore, Nat.succ_le_succ few, ?_, ?_⟩
      · rw [spent, List.length_cons]
        omega
      · rw [List.filter_append, List.filter_append, whole tries, waits, List.append_nil, hflat,
          List.flatten_cons]

/-- Attempts with consecutive numbers cost what each of them costs. -/
theorem Tries.economical {breaker : String} {content : Content} {tokens : List String}
    {number : Nat} {tries : List (List (Exchange interface))}
    (h : Tries breaker content tokens number tries) :
    ∀ es ∈ tries, Economical tokens.length es := by
  induction h with
  | nil => exact List.forall_mem_nil _
  | cons first _ ih => exact List.forall_mem_cons.mpr ⟨first.economical, ih⟩

/-- All pushes are made in attempts. -/
theorem pushes_filter (es : List (Exchange interface)) :
    pushes (es.filter fun e => e.1.inAttempt) = pushes es := by
  rw [pushes, List.countP_filter]
  refine List.countP_congr fun e _ => ?_
  simpa using Request.inAttempt_of_isPush

/-- If none of some attempts makes more than so many pushes, all of them make at most that many
times their number. -/
theorem pushes_flatten_le {tries : List (List (Exchange interface))} {most : Nat}
    (each : ∀ es ∈ tries, pushes es ≤ most) : pushes tries.flatten ≤ tries.length * most := by
  induction tries with
  | nil => exact Nat.zero_le _
  | cons es rest ih =>
      obtain ⟨first, others⟩ := List.forall_mem_cons.mp each
      rw [List.flatten_cons, pushes_append, List.length_cons, Nat.succ_mul, Nat.add_comm]
      exact Nat.add_le_add (ih others) first

/-! ### Deliveries -/

/-- Inquiries are outside the attempts, and so are the notes on them. -/
theorem Inquires.filter_inAttempt {notes : List Event} {es : List (Exchange interface)}
    (h : Inquires notes es) (plain : ∀ n ∈ notes, (Request.note n).inAttempt = false) :
    es.filter (fun e => e.1.inAttempt) = [] := by
  have ofInquiry : ∀ {r : Request}, r.isInquiry = true → r.inAttempt = false := fun {r} hr => by
    cases r with
    | guard | template => rfl
    | _ => cases hr
  cases h with
  | intro started inquire =>
      refine List.filter_eq_nil_iff.mpr ?_
      simp only [List.mem_cons, List.mem_append, List.mem_map, Bool.not_eq_true]
      rintro e (rfl | rfl | he | ⟨event, hevent, rfl⟩)
      · rfl
      · rfl
      · exact ofInquiry (inquire e he)
      · exact plain event hevent

/-- The report and the marker are outside the attempts. -/
theorem Marks.filter_inAttempt {job : Job} {marks : List (Exchange interface)}
    (h : Marks job marks) (report : Report) (started now : Instant) (accepted : Bool) :
    (closing report started now accepted marks).filter (fun e => e.1.inAttempt) = [] := by
  have outside : ∀ e ∈ marks, e.1.inAttempt = false := by
    unfold Marks at h
    split at h
    · exact h ▸ List.forall_mem_nil _
    · have asks := onlyAsks_guarded (P := fun r => r.inAttempt = false)
        (.of_forall (fun _ => rfl) (Guard.markProcessed job.id))
      exact asks.of_exchanges h
  refine List.filter_eq_nil_iff.mpr ?_
  simp only [closing, List.mem_cons, Bool.not_eq_true]
  rintro e (rfl | rfl | rfl | he)
  · rfl
  · rfl
  · rfl
  · exact outside e he

/-- A delivery makes no attempt, or the rounds of a dispatch. -/
theorem exists_rounds {c : Courier} {job : Job} {es : List (Exchange interface)}
    {res : Except DeliveryError Unit × Job} (run : Exchanges (c.process job) es res) :
    ∃ content tries progress, Rounds c.breaker content job.validTokens job.attemptCount
        ⟨.empty job.correlationId, job.attemptCount⟩ tries progress ∧
      tries.length ≤ c.retry.maxAttempts - job.attemptCount ∧
      res.2 = { job with attemptCount := job.attemptCount + tries.length } ∧
      es.filter (fun e => e.1.inAttempt) = tries.flatten := by
  rcases exchanges_process_iff.mp run with
    ⟨hs, rfl⟩ | ⟨checks, rest, started, message, error, rfl, hr, go⟩ |
      ⟨checks, rest, started, content, rfl, hc, go⟩
  · refine ⟨.ofJob job, [], _, .nil, Nat.zero_le _, rfl, ?_⟩
    exact hs.inquires.filter_inAttempt (List.forall_mem_singleton.mpr rfl)
  · obtain ⟨now, accepted, marks, rfl, hm, rfl⟩ := exchanges_refuse_iff.mp go
    refine ⟨.ofJob job, [], _, .nil, Nat.zero_le _, rfl, ?_⟩
    rw [List.filter_append, hm.filter_inAttempt, List.append_nil]
    rcases hr.inquires with quiet | noted
    · exact quiet.filter_inAttempt nofun
    · exact noted.filter_inAttempt (List.forall_mem_singleton.mpr rfl)
  · obtain ⟨tried, result, progress, now, accepted, marks, dispatched, rfl, hm, rfl⟩ :=
      exchanges_deliver_iff.mp go
    obtain ⟨tries, rounds, few, spent, hflat⟩ :=
      (exchanges_dispatch_iff.mp dispatched).exists_rounds rfl
    refine ⟨content, tries, progress, rounds, few, by rw [spent], ?_⟩
    rw [List.filter_append, List.filter_append, hc.inquires.filter_inAttempt nofun, hflat,
      hm.filter_inAttempt, List.nil_append, List.append_nil]

/-- So it makes attempts with consecutive numbers. -/
theorem exists_tries {c : Courier} {job : Job} {es : List (Exchange interface)}
    {res : Except DeliveryError Unit × Job} (run : Exchanges (c.process job) es res) :
    ∃ content tries, Tries c.breaker content job.validTokens job.attemptCount tries ∧
      tries.length ≤ c.retry.maxAttempts - job.attemptCount ∧
      res.2 = { job with attemptCount := job.attemptCount + tries.length } ∧
      es.filter (fun e => e.1.inAttempt) = tries.flatten := by
  obtain ⟨content, tries, progress, rounds, few, counted, hflat⟩ := exists_rounds run
  exact ⟨content, tries, rounds.tries, few, counted, hflat⟩

/-- **What a delivery spends.** Whatever its surroundings answer, a delivery consists of attempts
with consecutive numbers from those spent on the job before, no more than its policy leaves, and of
requests that are outside of attempts. Afterwards the job counts these attempts too and is otherwise
the same. Each of them asks the breaker for admission once, sends nothing if it is refused, and
makes no more pushes than the devices of the job fill batches; so the delivery makes at most that
many times its attempts. -/
theorem attempts_within_budget (c : Courier) (job : Job)
    (answer : List (Exchange interface) → (r : Request) → r.Answer) :
    let es := ((c.process job).against answer).1
    let job' := ((c.process job).against answer).2.2
    ∃ content tries, Tries c.breaker content job.validTokens job.attemptCount tries ∧
      tries.length ≤ c.retry.maxAttempts - job.attemptCount ∧
      job' = { job with attemptCount := job.attemptCount + tries.length } ∧
      es.filter (fun e => e.1.inAttempt) = tries.flatten ∧
      (∀ t ∈ tries, Economical job.validTokens.length t) ∧
      pushes es ≤ tries.length * (job.validTokens.length ⌈/⌉ batchLimit) := by
  have run := Run.exchanges_against (c.process job) answer
  obtain ⟨content, tries, htries, few, counted, hflat⟩ := exists_tries run
  refine ⟨content, tries, htries, few, counted, hflat, htries.economical, ?_⟩
  rw [← pushes_filter, hflat]
  exact pushes_flatten_le fun t ht => (htries.economical t ht).batched

end PushDelivery.Delivery
