import Mathlib.Data.List.Duplicate
import PushDelivery.Proofs.Delivery.Resending

/-!
# Jobs with Repeated Tokens

An attempt that names a device twice may reach it with the first mention and fail it with the
second. The ledger then holds a failure as its last outcome, and the next attempt asks for the
device again. If the two mentions fall into different batches, the second batch already does. This
module shows that every job with a repeated token can come to that with a gateway that keeps its
promise, and so settles which jobs are never sent to a device again.

## Main definitions

* `Answers`: surroundings that let a job through, with a fixed reply to every list of devices.
* `sparing`: replies that reach a given device at its first mention, and no other device.
* `fickle`: replies that a given device was reached and was not.

## Main results

* `Attempts.not_reached_of_careful`: if every last outcome is a failure, two attempts ask for every
  device twice.
* `exists_not_careful`: a job with a repeated token has a delivery that is not careful.
* `never_again_iff`: the jobs whose deliveries are always careful.
-/

namespace PushDelivery.Delivery

open Run (Exchange Exchanges Reaches)

/-! ### Repeated devices -/

/-- Surroundings that let a job through and answer every request for several devices alike. -/
def Answers (reply : List String → List Outcome) : Exchange interface → Prop
  | ⟨.permit, admitted⟩ => admitted = true
  | ⟨.pause _, how⟩ => how = .elapsed
  | ⟨.send .., answer⟩ => answer = .error .timeout
  | ⟨.sendMany tokens _, answer⟩ => answer = .ok (reply tokens)
  | _ => True

/-- There is an answer of this kind to every request. -/
theorem exists_answers (reply : List String → List Outcome) (r : Request) :
    ∃ answer, Answers reply ⟨r, answer⟩ := by
  cases r with
  | now => exact ⟨(0 : Nat), trivial⟩
  | guard r =>
      cases r with
      | increment key window => exact ⟨.ok (0 : Nat), trivial⟩
      | lookup key => exact ⟨.ok false, trivial⟩
      | write key value ttl => exact ⟨.ok (), trivial⟩
      | letPass operation => exact ⟨(), trivial⟩
  | template code => exact ⟨.error (.notFound code), trivial⟩
  | permit => exact ⟨true, rfl⟩
  | settle ok => exact ⟨(), trivial⟩
  | send token content => exact ⟨.error .timeout, rfl⟩
  | sendMany tokens content => exact ⟨.ok (reply tokens), rfl⟩
  | pause duration => exact ⟨.elapsed, rfl⟩
  | publish report => exact ⟨true, trivial⟩
  | note event => exact ⟨(), trivial⟩

/-- Every request for several devices succeeds, with the replies in a row. -/
theorem Sends.of_answers {reply : List String → List Outcome} {content : Content}
    {bs : List (List String)} {es : List (Exchange interface)} {d : Except GatewayError Unit}
    (sends : Sends content false bs es d) (ha : ∀ e ∈ es, Answers reply e) :
    d = .ok () ∧ reported es = bs.flatMap reply := by
  induction sends with
  | nil => exact ⟨rfl, rfl⟩
  | @failed batch rest x e asked failure =>
      obtain ⟨r, answer⟩ := x
      obtain rfl : r = .sendMany batch content := asked
      obtain rfl : answer = .ok (reply batch) := ha ⟨_, answer⟩ (by simp)
      cases failure
  | @answered batch rest x es d asked success more ih =>
      obtain ⟨r, answer⟩ := x
      obtain rfl : r = .sendMany batch content := asked
      obtain rfl : answer = .ok (reply batch) := ha ⟨_, answer⟩ (by simp)
      obtain ⟨hd, hrest⟩ := ih fun e he => ha e (by simp [he])
      refine ⟨hd, ?_⟩
      rw [reported_cons, reported_cons, outcomes_tally, List.nil_append, hrest, List.flatMap_cons]
      rfl

/-- If all batches are sent to with care, none names a device that was reached before. -/
theorem Sends.not_mem_of_careful {content : Content} {alone : Bool} {bs : List (List String)}
    {es : List (Exchange interface)} (sends : Sends content alone bs es (.ok ()))
    {h : List Outcome} (hc : Careful h es) {token : String} (hr : Reached h token) :
    token ∉ bs.flatten := by
  generalize hd : (Except.ok () : Except GatewayError Unit) = d at sends
  induction sends generalizing h with
  | nil => simp
  | failed => cases hd
  | @answered batch rest x es d asked success more ih =>
      rw [List.flatten_cons, List.mem_append, not_or]
      refine ⟨?_, ?_⟩
      · intro ht
        exact hc.1 token (by rwa [targets_of_asked asked]) hr
      · exact ih hc.2.2 (reached_append.mpr (.inl (reached_append.mpr (.inl hr)))) hd

/-- An empty ledger leaves all devices. -/
theorem pending_empty (correlationId : Option String) (tokens : List String) :
    (Ledger.empty correlationId).pending tokens = tokens := by
  have h := steady_nil.pending_eq correlationId tokens
  simpa using h

/-- A dispatch that has an attempt left begins with it. -/
theorem Attempts.begins {policy : RetryPolicy} {breaker : String} {content : Content}
    {tokens : List String} {left number : Nat} {p s : Progress} {es : List (Exchange interface)}
    {r : Except DeliveryError Unit}
    (h : Attempts policy breaker content tokens (left + 1) number p es r s) :
    ∃ first rest r' q, es = first ++ rest ∧ Attempt breaker content tokens number p first r' q := by
  cases h with
  | last tries _ => exact ⟨_, [], _, _, (List.append_nil _).symm, tries⟩
  | cancelled tries _ => exact ⟨_, _, _, _, rfl, tries⟩
  | again tries _ _ => exact ⟨_, _, _, _, List.append_assoc _ _ _, tries⟩

/-- An attempt at several devices that were not reached gets the reply to each of their batches. -/
theorem Attempt.of_answers {reply : List String → List Outcome} {breaker : String}
    {content : Content} {tokens : List String} {number : Nat} {p q : Progress}
    {es : List (Exchange interface)} {r : Except DeliveryError Unit}
    (tries : Attempt breaker content tokens number p es r q) (ha : ∀ e ∈ es, Answers reply e)
    (hpending : p.ledger.pending tokens = tokens) (hlen : 1 < tokens.length) :
    ∃ sent, es = ⟨.permit, true⟩ :: (sent ++ [⟨.settle true, ()⟩]) ∧
      Sends content false (batches tokens) sent (.ok ()) ∧
      reported es = (batches tokens).flatMap reply ∧
      r = verdict ((p.ledger.record (reported es)).outcomes tokens) := by
  have halone : decide (tokens.length = 1) = false := decide_eq_false (by omega)
  cases tries with
  | refused => cases (ha ⟨.permit, false⟩ (by simp) : false = true)
  | @failed sent e sends =>
      rw [hpending, SendsTo, halone] at sends
      cases (sends.of_answers fun e he => ha e (by simp [he])).1
  | @answered sent sends =>
      have hrep : reported (⟨.permit, true⟩ :: (sent ++ [⟨.settle true, ()⟩])) = reported sent := by
        simp [outcomes]
      rw [hpending] at sends ⊢
      rw [SendsTo, halone] at sends
      rw [hrep]
      exact ⟨sent, rfl, sends, (sends.of_answers fun e he => ha e (by simp [he])).2, rfl⟩

/-- An attempt without a success fails, and another one could succeed. -/
theorem verdict_of_failures {os : List Outcome} (h : ∀ o ∈ os, o.success = false) :
    ∃ e, verdict os = .error e ∧ e.isRetryable = true := by
  have hany : os.any (·.success) = false := by
    rw [List.any_eq_false]
    intro o ho
    simp [h o ho]
  exact ⟨_, by rw [verdict, if_neg (by simp [hany])], rfl⟩

/-- A ledger in which every last outcome is a failure reports failures only. -/
theorem outcomes_fail {h : List Outcome}
    (hlast : ∀ token o, latest h token = some o → o.success = false)
    (correlationId : Option String) (tokens : List String) :
    ∀ o ∈ ((Ledger.empty correlationId).record h).outcomes tokens, o.success = false := by
  intro o ho
  obtain ⟨token, -, ho⟩ := List.mem_filterMap.mp ho
  rw [outcome?_record_empty, Option.map_eq_some_iff] at ho
  obtain ⟨last, hl, rfl⟩ := ho
  exact hlast token last hl

/-- All devices are pending in such a ledger. -/
theorem pending_eq_of_fails {h : List Outcome}
    (hlast : ∀ token o, latest h token = some o → o.success = false)
    (correlationId : Option String) (tokens : List String) :
    ((Ledger.empty correlationId).record h).pending tokens = tokens := by
  refine List.filter_eq_self.mpr fun token _ => ?_
  rw [isReached_record_empty]
  cases ho : latest h token with
  | none => rfl
  | some o => simp [hlast token o ho]

/-- If after the replies no device has a success as its last outcome, a dispatch that stays careful
for two attempts has had no reply that a device was reached. -/
theorem Attempts.not_reached_of_careful {reply : List String → List Outcome}
    {policy : RetryPolicy} {breaker : String} {content : Content} {tokens : List String}
    {left number spent : Nat} {s : Progress} {es : List (Exchange interface)}
    {r : Except DeliveryError Unit} {correlationId : Option String}
    (tries : Attempts policy breaker content tokens (left + 2) number
      ⟨.empty correlationId, spent⟩ es r s)
    (ha : ∀ e ∈ es, Answers reply e) (hc : Careful [] es) (hlen : 1 < tokens.length)
    (hlast : ∀ token o, latest ((batches tokens).flatMap reply) token = some o →
      o.success = false) :
    ∀ token ∈ tokens, ¬ Reached ((batches tokens).flatMap reply) token := by
  have hnone := pending_empty correlationId tokens
  cases tries with
  | @last _ _ _ q es r tries final =>
      obtain ⟨sent, -, -, hrep, hr⟩ := tries.of_answers ha hnone hlen
      rw [hrep] at hr
      obtain ⟨e, he, hretry⟩ := verdict_of_failures (outcomes_fail hlast correlationId tokens)
      exact absurd ⟨hretry, Nat.succ_ne_zero left⟩ (final e (hr.trans he))
  | @cancelled _ _ _ q es e tries again =>
      cases (ha ⟨.pause (policy.backoff number), .cancelled⟩ (by simp [waiting]) :
        Pause.cancelled = .elapsed)
  | @again _ _ _ q s es rest e r tries again more =>
      obtain ⟨-, -, -, hrep, -⟩ := tries.of_answers (fun e he => ha e (by simp [he])) hnone hlen
      have hq := tries.ledger_eq
      obtain ⟨first, rest, r', q', rfl, second⟩ := more.begins
      rw [hrep] at hq
      obtain ⟨sent, rfl, sends, -, -⟩ :=
        second.of_answers (fun e he => ha e (by simp [he]))
          (by rw [hq, pending_eq_of_fails hlast]) hlen
      rw [careful_append, careful_append, reported_append, reported_waiting, hrep,
        careful_append] at hc
      have hsent := (careful_append.mp hc.2.1.2).1
      intro token ht hr
      have hmem := sends.not_mem_of_careful hsent (by simpa [outcomes] using hr)
      rw [flatten_batches] at hmem
      exact hmem ht

/-! ### Replies that reach a device and fail it -/

/-- Reaches a device at its first mention, and no other device. -/
def sparing (token : String) : List String → List Outcome
  | [] => []
  | t :: rest =>
    if t = token then .delivered t "" default :: rest.map (.failed · "" default)
    else .failed t "" default :: sparing token rest

/-- There is an outcome for each device, in order. -/
theorem map_sparing (token : String) (tokens : List String) :
    (sparing token tokens).map (·.deviceToken) = tokens := by
  induction tokens with
  | nil => rfl
  | cons t rest ih =>
      rw [sparing]
      split
      · simp [Outcome.delivered, Outcome.failed, Function.comp_def]
      · rw [List.map_cons, ih]
        rfl

/-- The device is reached if it is mentioned. -/
theorem reached_sparing {token : String} {tokens : List String} (h : token ∈ tokens) :
    Reached (sparing token tokens) token := by
  induction tokens with
  | nil => cases h
  | cons t rest ih =>
      rw [sparing]
      split
      · rename_i ht
        exact ⟨_, List.mem_cons_self, ht, rfl⟩
      · rename_i ht
        obtain ⟨o, ho, hot, hsucc⟩ := ih ((List.mem_cons.mp h).resolve_left (Ne.symm ht))
        exact ⟨o, List.mem_cons_of_mem _ ho, hot, hsucc⟩

/-- The last outcome of two stretches fails if it does in each. -/
theorem latest_append_fails {h os : List Outcome} {token : String}
    (hh : ∀ o, latest h token = some o → o.success = false)
    (hos : ∀ o, latest os token = some o → o.success = false) :
    ∀ o, latest (h ++ os) token = some o → o.success = false := by
  intro o ho
  rw [latest_append] at ho
  cases hl : latest os token with
  | none =>
      rw [hl, Option.none_or] at ho
      exact hh o ho
  | some p =>
      rw [hl, Option.some_or] at ho
      exact hos o (hl.trans ho)

/-- These replies keep the promise of the gateway. -/
theorem faithful_of_answers {token : String} {e : Exchange interface}
    (h : Answers (sparing token) e) : Faithful e := by
  obtain ⟨r, answer⟩ := e
  cases r with
  | send t content =>
      obtain rfl : answer = .error .timeout := h
      trivial
  | sendMany tokens content =>
      obtain rfl : answer = .ok (sparing token tokens) := h
      exact map_sparing token tokens
  | _ => trivial

/-- No device is reached if the device is not mentioned. -/
theorem sparing_fails {token : String} {tokens : List String} (h : token ∉ tokens) :
    ∀ o ∈ sparing token tokens, o.success = false := by
  induction tokens with
  | nil => simp [sparing]
  | cons t rest ih =>
      rw [List.mem_cons, not_or] at h
      rw [sparing, if_neg (Ne.symm h.1)]
      intro o ho
      rcases List.mem_cons.mp ho with rfl | ho
      · rfl
      · exact ih h.2 o ho

/-- If the device is mentioned twice, the last outcome of every device is a failure. -/
theorem latest_sparing_fails {token : String} {tokens : List String}
    (h : 2 ≤ tokens.count token) (t : String) :
    ∀ o, latest (sparing token tokens) t = some o → o.success = false := by
  induction tokens with
  | nil => simp at h
  | cons a rest ih =>
      rw [sparing]
      split
      · rename_i ha
        subst ha
        have hmem : a ∈ rest := List.count_pos_iff.mp (by simpa using h)
        intro o ho
        rw [show ∀ x : Outcome, ∀ xs, x :: xs = [x] ++ xs from fun _ _ => rfl, latest_append] at ho
        cases hl : latest (rest.map (Outcome.failed · "" default)) t with
        | some p =>
            rw [hl, Option.some_or] at ho
            obtain rfl : p = o := Option.some.inj ho
            obtain ⟨u, -, rfl⟩ := List.mem_map.mp (mem_of_latest hl).1
            rfl
        | none =>
            rw [hl, Option.none_or] at ho
            obtain ⟨hm, rfl⟩ := mem_of_latest ho
            obtain rfl : o = Outcome.delivered a "" default := List.mem_singleton.mp hm
            exact absurd rfl (latest_eq_none_iff.mp hl (.failed a "" default)
              (List.mem_map_of_mem hmem))
      · rename_i ha
        rw [List.count_cons_of_ne ha] at h
        rw [show ∀ x : Outcome, ∀ xs, x :: xs = [x] ++ xs from fun _ _ => rfl]
        refine latest_append_fails ?_ (ih h)
        intro o ho
        obtain rfl := List.mem_singleton.mp (mem_of_latest ho).1
        rfl

/-- A device that is mentioned twice in careful requests is mentioned twice in one of them, so the
last outcome of every device is a failure. -/
theorem Sends.latest_fails {token : String} {content : Content} {bs : List (List String)}
    {es : List (Exchange interface)} {d : Except GatewayError Unit} {h : List Outcome}
    (sends : Sends content false bs es d) (ha : ∀ e ∈ es, Answers (sparing token) e)
    (hc : Careful h es) (hcount : 2 ≤ bs.flatten.count token) (t : String) :
    ∀ o, latest (bs.flatMap (sparing token)) t = some o → o.success = false := by
  induction sends generalizing h with
  | nil => simp at hcount
  | @failed batch rest x e asked failure =>
      obtain ⟨r, answer⟩ := x
      obtain rfl : r = .sendMany batch content := asked
      obtain rfl : answer = .ok (sparing token batch) := ha ⟨_, answer⟩ (by simp)
      cases failure
  | @answered batch rest x es d asked success more ih =>
      obtain ⟨r, answer⟩ := x
      obtain rfl : r = .sendMany batch content := asked
      obtain rfl : answer = .ok (sparing token batch) := ha ⟨_, answer⟩ (by simp)
      have hrest : ∀ e ∈ es, Answers (sparing token) e := fun e he => ha e (by simp [he])
      rw [List.flatten_cons, List.count_append] at hcount
      rw [List.flatMap_cons]
      by_cases hmem : token ∈ batch
      · have hreached : Reached (h ++ sparing token batch ++ []) token := by
          simpa using .inr (reached_sparing hmem)
        obtain ⟨rfl, -⟩ := more.of_answers hrest
        have hnot : token ∉ rest.flatten := more.not_mem_of_careful hc.2.2 hreached
        rw [List.count_eq_zero_of_not_mem hnot, Nat.add_zero] at hcount
        refine latest_append_fails (latest_sparing_fails hcount t) ?_
        intro o ho
        obtain ⟨b, hb, ho⟩ := List.mem_flatMap.mp (mem_of_latest ho).1
        exact sparing_fails (fun hm => hnot (List.mem_flatten.mpr ⟨b, hb, hm⟩)) o ho
      · rw [List.count_eq_zero_of_not_mem hmem, Nat.zero_add] at hcount
        refine latest_append_fails ?_ (ih hrest hc.2.2 hcount)
        intro o ho
        exact sparing_fails hmem o (mem_of_latest ho).1

/-- Reports that a device was reached and that it was not, whatever was asked. -/
def fickle (token : String) (_ : List String) : List Outcome :=
  [.delivered token "" default, .failed token "" default]

/-- No device has a success as its last outcome. -/
theorem latest_fickle_fails (token : String) (bs : List (List String)) (t : String) :
    ∀ o, latest (bs.flatMap (fickle token)) t = some o → o.success = false := by
  induction bs with
  | nil => simp [latest]
  | cons batch rest ih =>
      rw [List.flatMap_cons]
      refine latest_append_fails ?_ ih
      intro o ho
      by_cases ht : token = t
      · have hlast : latest (fickle token batch) t = some (.failed token "" default) := by
          simp [latest, fickle, Outcome.failed, ht]
        rw [hlast] at ho
        obtain rfl := Option.some.inj ho
        rfl
      · obtain ⟨hm, rfl⟩ := mem_of_latest ho
        simp only [fickle, List.mem_cons, List.not_mem_nil, or_false] at hm
        rcases hm with rfl | rfl
        · exact absurd rfl ht
        · rfl

/-! ### Deliveries -/

/-- A valid job passes the checks of some courier. -/
theorem exists_cleared (c : Courier) {job : Job} (valid : job.problem? = none) :
    ∃ checks started content, Cleared c job checks started content := by
  have allowed : Exchanges (guarded (c.guard.checkRate job.userId))
      [⟨.guard (.increment (Guard.counterKey job.userId) c.guard.window),
          .error (.unavailable "")⟩, ⟨.guard (.letPass .rateLimit), ()⟩] .allowed :=
    .ask (.ask (.done _))
  have fresh : Exchanges (guarded (Guard.isDuplicate job.id))
      [⟨.guard (.lookup (Guard.markerKey job.id)), .ok false⟩] false := .ask (.done _)
  have prepared : ∃ prep content, Exchanges (Courier.prepare job) prep (.ok content) := by
    unfold Courier.prepare
    split
    · exact ⟨[], _, .done _⟩
    · rename_i code _
      exact ⟨[⟨.template code, .ok default⟩], _, .ask (.done _)⟩
  obtain ⟨prep, content, prepared⟩ := prepared
  exact ⟨_, 0, content, .intro allowed valid fresh prepared⟩

/-- A valid job can be delivered with two attempts and any replies. -/
theorem exists_dispatched {job : Job} (valid : job.problem? = none)
    (reply : List String → List Outcome) :
    ∃ (c : Courier) (es tries : List (Exchange interface)) (content : Content)
      (r : Except DeliveryError Unit) (s : Progress) (res : Except DeliveryError Unit × Job),
      Exchanges (c.process job) es res ∧ (∀ e ∈ es, Answers reply e) ∧ (∀ e ∈ tries, e ∈ es) ∧
      Attempts c.retry c.breaker content job.validTokens 2 job.attemptCount
        ⟨.empty job.correlationId, job.attemptCount⟩ tries r s ∧
      (Careful [] es → Careful [] tries) := by
  let c : Courier := { retry := { maxAttempts := job.attemptCount + 2 } }
  obtain ⟨checks, started, content, hc⟩ := exists_cleared c valid
  obtain ⟨rest, res, go, ha⟩ :=
    Run.exists_exchanges (exists_answers reply) (c.deliver job started content)
  obtain ⟨tries, r, s, hmem, htries, hiff⟩ := hc.careful_iff go
  have hleft : c.retry.maxAttempts - job.attemptCount = 2 := Nat.add_sub_cancel_left _ _
  rw [hleft] at htries
  refine ⟨c, checks ++ rest, tries, content, r, s, res, hc.exchanges_iff.mpr go, ?_, ?_, htries,
    hiff.mp⟩
  · intro e he
    rcases List.mem_append.mp he with he | he
    · obtain ⟨q, answer⟩ := e
      have hq := hc.inChecks _ he
      cases q with
      | permit | settle | send | sendMany | pause | publish => cases hq
      | _ => trivial
    · exact ha e he
  · exact fun e he => List.mem_append_right _ (hmem e he)

/-- A valid job with a repeated token has a delivery, with replies that keep the promise of the
gateway, that is not careful. -/
theorem exists_not_careful {job : Job} (valid : job.problem? = none)
    (hnd : ¬ job.validTokens.Nodup) :
    ∃ (c : Courier) (es : List (Exchange interface)) (res : Except DeliveryError Unit × Job),
      Exchanges (c.process job) es res ∧ (∀ e ∈ es, Faithful e) ∧ ¬ Careful [] es := by
  obtain ⟨token, hdup⟩ := List.exists_duplicate_iff_not_nodup.mpr hnd
  have hcount := List.duplicate_iff_two_le_count.mp hdup
  have hlen : 1 < job.validTokens.length := Nat.le_trans hcount List.count_le_length
  obtain ⟨c, es, tries, content, r, s, res, hrun, ha, hmem, htries, hcareful⟩ :=
    exists_dispatched valid (sparing token)
  refine ⟨c, es, res, hrun, fun e he => faithful_of_answers (ha e he), fun hc => ?_⟩
  have hall := fun e he => ha e (hmem e he)
  have hfirst : ∀ t o, latest ((batches job.validTokens).flatMap (sparing token)) t = some o →
      o.success = false := by
    intro t
    obtain ⟨first, rest, r', q, rfl, hattempt⟩ := htries.begins
    obtain ⟨sent, rfl, sends, -, -⟩ :=
      hattempt.of_answers (fun e he => hall e (by simp [he])) (pending_empty _ _) hlen
    have hsent := (careful_append.mp (careful_append.mp (hcareful hc)).1.2).1
    refine sends.latest_fails (fun e he => hall e (by simp [he])) hsent ?_ t
    rwa [flatten_batches]
  refine htries.not_reached_of_careful hall (hcareful hc) hlen hfirst token hdup.mem ?_
  have hflat : token ∈ (batches job.validTokens).flatten := by
    rw [flatten_batches]
    exact hdup.mem
  obtain ⟨batch, hb, ht⟩ := List.mem_flatten.mp hflat
  obtain ⟨o, ho, hot, hsucc⟩ := reached_sparing ht
  exact ⟨o, List.mem_flatMap.mpr ⟨batch, hb, ho⟩, hot, hsucc⟩

/-- A valid job for several devices has a delivery, with contradictory replies, that is not
careful. -/
theorem exists_not_careful_of_length {job : Job} (valid : job.problem? = none)
    (hlen : 1 < job.validTokens.length) :
    ∃ (c : Courier) (es : List (Exchange interface)) (res : Except DeliveryError Unit × Job),
      Exchanges (c.process job) es res ∧ ¬ Careful [] es := by
  obtain ⟨token, ht⟩ := List.exists_mem_of_length_pos (Nat.lt_of_succ_lt hlen)
  obtain ⟨c, es, tries, content, r, s, res, hrun, ha, hmem, htries, hcareful⟩ :=
    exists_dispatched valid (fickle token)
  refine ⟨c, es, res, hrun, fun hc => ?_⟩
  refine htries.not_reached_of_careful (fun e he => ha e (hmem e he)) (hcareful hc) hlen
    (latest_fickle_fails token _) token ht ?_
  have hflat : token ∈ (batches job.validTokens).flatten := by rwa [flatten_batches]
  obtain ⟨batch, hb, -⟩ := List.mem_flatten.mp hflat
  exact ⟨.delivered token "" default, List.mem_flatMap.mpr ⟨batch, hb, by simp [fickle]⟩, rfl, rfl⟩

/-! ### The jobs that are never sent again -/

/-- There is a modest answer to every request. -/
theorem exists_modest (r : Request) : ∃ answer, Modest ⟨r, answer⟩ := by
  obtain ⟨answer, ha⟩ := exists_answers (sparing "") r
  exact ⟨answer, (faithful_of_answers ha).modest⟩

/-- **Which jobs are never sent again.** Whatever the courier, the breaker and the surroundings do,
no delivery of a job asks the gateway for a device after a reply that it was reached, at any time of
the delivery: for a gateway that reports on no device more often than it is asked for it, if and
only if the valid tokens of the job are distinct or the job is not valid; for a gateway that may
reply anything, if and only if there is at most one of them or the job is not valid. -/
theorem never_again_iff (job : Job) :
    ((∀ (c : Courier) (es : List (Exchange interface))
        (left : Run interface (Except DeliveryError Unit × Job)),
        Reaches (c.process job) es left → (∀ e ∈ es, Modest e) → NeverAgain es) ↔
      (job.problem? = none → job.validTokens.Nodup)) ∧
    ((∀ (c : Courier) (es : List (Exchange interface))
        (left : Run interface (Except DeliveryError Unit × Job)),
        Reaches (c.process job) es left → NeverAgain es) ↔
      (job.problem? = none → job.validTokens.length ≤ 1)) := by
  refine ⟨⟨fun hall valid => ?_, fun hnd c es left go hm => ?_⟩,
    ⟨fun hall valid => ?_, fun hlen c es left go => ?_⟩⟩
  · by_contra hnd
    obtain ⟨c, es, res, hrun, hf, hnot⟩ := exists_not_careful valid hnd
    refine hnot (careful_nil_iff.mpr ?_)
    exact hall c es _ (Run.reaches_done_iff.mpr hrun) fun e he => (hf e he).modest
  · obtain ⟨rest, res, hrun, hrest⟩ := go.exists_exchanges exists_modest
    have hmodest : ∀ e ∈ es ++ rest, Modest e := fun e he =>
      (List.mem_append.mp he).elim (hm e) (hrest e)
    refine careful_nil_iff.mp (careful_append.mp (careful_of_process hrun ?_)).1
    intro valid content tries r s hmem htries
    exact (htries.careful (fun e he => hmodest e (hmem e he)) (hnd valid)).1
  · by_contra hlen
    obtain ⟨c, es, res, hrun, hnot⟩ := exists_not_careful_of_length valid (Nat.lt_of_not_le hlen)
    exact hnot (careful_nil_iff.mpr (hall c es _ (Run.reaches_done_iff.mpr hrun)))
  · obtain ⟨rest, res, hrun, -⟩ := go.exists_exchanges exists_modest
    refine careful_nil_iff.mp (careful_append.mp (careful_of_process hrun ?_)).1
    intro valid content tries r s hmem htries
    exact htries.careful_of_length_le_one (hlen valid)

/-- A request for a job that names one device twice, with a reply that reaches the device at its
first mention. -/
def twiceAsked : List (Exchange interface) :=
  [⟨.sendMany ["a", "a"] (.ofJob (plainJob ["a", "a"])), .ok (sparing "a" ["a", "a"])⟩,
    tally (sparing "a" ["a", "a"])]

/-- An attempt at such a job. -/
def twiceTried : List (Exchange interface) :=
  ⟨.permit, true⟩ :: (twiceAsked ++ [⟨.settle true, ()⟩])

/-- A courier that makes two attempts. -/
def twoAttempts : Courier := { retry := { maxAttempts := 2 } }

/-- The delivery of the job until the end of the second attempt. -/
def twiceSent : List (Exchange interface) :=
  plainChecks ++ (twiceTried ++ waiting (twoAttempts.retry.backoff 0) .elapsed ++ twiceTried)

/-- The first attempt fails, and the second one sends the same. -/
theorem twiceTried_attempts : ∃ r s, Attempts twoAttempts.retry twoAttempts.breaker
    (.ofJob (plainJob ["a", "a"])) ["a", "a"] 2 0 ⟨.empty none, 0⟩
    (twiceTried ++ waiting (twoAttempts.retry.backoff 0) .elapsed ++ twiceTried) r s := by
  have sends : SendsTo (.ofJob (plainJob ["a", "a"])) ["a", "a"] twiceAsked (.ok ()) := by
    rw [SendsTo, batches_of_length_le (by simp) (by simp [batchLimit])]
    exact .answered rfl rfl .nil
  have first : Attempt twoAttempts.breaker (.ofJob (plainJob ["a", "a"])) ["a", "a"] 0
      ⟨.empty none, 0⟩ twiceTried
      (verdict (((Ledger.empty none).record (sparing "a" ["a", "a"])).outcomes ["a", "a"]))
      ⟨(Ledger.empty none).record (sparing "a" ["a", "a"]), 1⟩ := .answered sends
  rw [show verdict (((Ledger.empty none).record (sparing "a" ["a", "a"])).outcomes ["a", "a"]) =
    .error (.allDevicesFailed 2 (some "")) by decide] at first
  have second : ∃ r s, Attempt twoAttempts.breaker (.ofJob (plainJob ["a", "a"])) ["a", "a"] 1
      ⟨(Ledger.empty none).record (sparing "a" ["a", "a"]), 1⟩ twiceTried r s :=
    ⟨_, _, .answered sends⟩
  obtain ⟨r, s, second⟩ := second
  exact ⟨r, s, .again first ⟨rfl, Nat.succ_ne_zero 0⟩ (.last second fun _ _ h => h.2 rfl)⟩

/-- The second attempt asks for a device that the first one has reached. -/
theorem twiceSent_asks_again :
    (∃ left, Reaches (twoAttempts.process (plainJob ["a", "a"])) twiceSent left) ∧
      (∀ e ∈ twiceSent, Faithful e) ∧ ¬ NeverAgain twiceSent := by
  refine ⟨?_, ?_, ?_⟩
  · obtain ⟨r, s, tries⟩ := twiceTried_attempts
    have cleared := plainJob_cleared twoAttempts.retry
      (show (plainJob ["a", "a"]).problem? = none by decide)
    have dispatched : Exchanges (dispatch twoAttempts.retry twoAttempts.breaker
        (.ofJob (plainJob ["a", "a"])) (plainJob ["a", "a"]).validTokens none 0) _ (r, s) :=
      exchanges_dispatch_iff.mpr tries
    exact ⟨_, cleared.reaches.trans (dispatched.reaches_bind _)⟩
  · simp [twiceSent, plainChecks, twiceTried, twiceAsked, waiting, tally, Faithful, sparing,
      Outcome.delivered, Outcome.failed]
  · intro h
    refine h (twiceSent.take 11) _ [tally (sparing "a" ["a", "a"]), ⟨.settle true, ()⟩] rfl "a"
      (by simp [targets]) ?_
    refine ⟨.delivered "a" "" default, ?_, rfl, rfl⟩
    simp [twiceSent, plainChecks, twiceTried, twiceAsked, outcomes, reported, sparing]

end PushDelivery.Delivery
