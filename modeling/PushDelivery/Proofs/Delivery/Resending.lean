import PushDelivery.Proofs.Delivery.Course

/-!
# Devices That Were Reached

A dispatch should ask for no device that was reached before. Each attempt asks for the devices that
the ledger does not take as reached when it begins, all of them at once, and the ledger knows a
device by its token. So an attempt asks for a device once if the tokens of its job are distinct, and
then an invariant of the exchanges so far, `Steady`, keeps every request to devices that were not
reached.

The invariant needs a gateway that reports on a device no more often than it is asked for it. A
delivery to a single device needs no such promise.

## Main definitions

* `Careful`: the requests of some exchanges are for devices that were not reached before.
* `NeverAgain`: the same, read off any position in the exchanges.

## Main results

* `Attempts.keeps`: what every attempt keeps, a dispatch keeps.
* `Attempts.careful`: a dispatch to distinct devices is careful if the gateway is modest.
* `Attempts.careful_of_length_le_one`: a dispatch to a single device is careful.
* `careful_of_process`: a delivery is careful if its dispatch is.
-/

namespace PushDelivery.Delivery

open Run (Exchange Exchanges Reaches exchanges_ask_iff exchanges_done_iff)

/-! ### Careful exchanges -/

/-- No request is for a device that was reached before, after the outcomes so far. -/
def Careful : List Outcome → List (Exchange interface) → Prop
  | _, [] => True
  | h, e :: es => (∀ token ∈ targets e, ¬ Reached h token) ∧ Careful (h ++ outcomes e) es

/-- Two stretches of careful exchanges. -/
theorem careful_append {h : List Outcome} {es fs : List (Exchange interface)} :
    Careful h (es ++ fs) ↔ Careful h es ∧ Careful (h ++ reported es) fs := by
  induction es generalizing h with
  | nil => simp [Careful]
  | cons e es ih =>
      rw [List.cons_append, Careful, Careful, ih, reported_cons, List.append_assoc, and_assoc]

/-- In careful exchanges every request is for devices that no reply before it reports as reached. -/
theorem careful_iff {h : List Outcome} {es : List (Exchange interface)} :
    Careful h es ↔ ∀ before e after, es = before ++ e :: after →
      ∀ token ∈ targets e, ¬ Reached (h ++ reported before) token := by
  induction es generalizing h with
  | nil => simp [Careful]
  | cons e es ih =>
      rw [Careful, ih]
      constructor
      · rintro ⟨hfirst, hrest⟩ before x after heq
        cases before with
        | nil =>
            obtain ⟨rfl, rfl⟩ := List.cons.inj heq
            simpa using hfirst
        | cons b before =>
            obtain ⟨rfl, rfl⟩ := List.cons.inj heq
            rw [reported_cons, ← List.append_assoc]
            exact hrest before x after rfl
      · intro hall
        refine ⟨?_, ?_⟩
        · simpa using hall [] e es rfl
        · intro before x after heq
          rw [List.append_assoc, ← reported_cons]
          exact hall (e :: before) x after (by rw [heq, List.cons_append])

/-- No push is for a device that a reply before it reports as reached. -/
def NeverAgain (es : List (Exchange interface)) : Prop :=
  ∀ before e after, es = before ++ e :: after →
    ∀ token ∈ targets e, ¬ Reached (reported before) token

/-- Exchanges are careful from the beginning if no push is for a device that was reached. -/
theorem careful_nil_iff {es : List (Exchange interface)} : Careful [] es ↔ NeverAgain es :=
  careful_iff

/-- Exchanges without a push are careful. -/
theorem careful_of_not_push {h : List Outcome} {es : List (Exchange interface)}
    (hes : ∀ e ∈ es, e.1.isPush = false) : Careful h es := by
  induction es generalizing h with
  | nil => trivial
  | cons e es ih =>
      refine ⟨?_, ih fun x hx => hes x (by simp [hx])⟩
      simp [targets_of_not_push (hes e (by simp))]

/-! ### Distinct devices -/

/-- A ledger of steady outcomes leaves the devices that were not reached. -/
theorem Steady.pending_eq {h : List Outcome} (hs : Steady h) (correlationId : Option String)
    (tokens : List String) :
    ((Ledger.empty correlationId).record h).pending tokens =
      tokens.filter fun token => ¬ Reached h token := by
  refine List.filter_congr fun token _ => ?_
  have hiff := hs.isReached_iff correlationId token
  by_cases hr : Reached h token
  · simp [hr, hiff.mpr hr]
  · simp [hr, Bool.eq_false_iff.mpr (mt hiff.mp hr)]

/-- Sending to distinct devices that were not reached is careful, and devices stay reached. -/
theorem Sends.careful {content : Content} {alone : Bool} {bs : List (List String)}
    {es : List (Exchange interface)} {d : Except GatewayError Unit} {h : List Outcome}
    (sends : Sends content alone bs es d) (hm : ∀ e ∈ es, Modest e) (hs : Steady h)
    (hnd : bs.flatten.Nodup) (hfresh : ∀ token ∈ bs.flatten, ¬ Reached h token) :
    Careful h es ∧ Steady (h ++ reported es) := by
  induction sends generalizing h with
  | nil => exact ⟨trivial, by simpa using hs⟩
  | @failed batch rest x e asked failure =>
      refine ⟨⟨?_, trivial⟩, ?_⟩
      · intro token ht
        rw [targets_of_asked asked] at ht
        exact hfresh token (by simp [ht])
      · simpa [outcomes_of_failure failure] using hs
  | @answered batch rest x es d asked success more ih =>
      have hx : List.Subperm ((outcomes x).map (·.deviceToken)) batch :=
        targets_of_asked asked ▸ hm x (by simp)
      rw [List.flatten_cons, List.nodup_append] at hnd
      obtain ⟨hbatch, hrest, hdisj⟩ := hnd
      have hmem : ∀ o ∈ outcomes x, o.deviceToken ∈ batch := fun o ho =>
        hx.subset (List.mem_map_of_mem ho)
      have hs' : Steady (h ++ outcomes x) := by
        refine hs.append ?_ ?_
        · obtain ⟨l, hperm, hsub⟩ := hx
          exact hperm.nodup_iff.mp (hbatch.sublist hsub)
        · intro o ho
          exact hfresh _ (by simp [hmem o ho])
      have hfresh' : ∀ token ∈ rest.flatten, ¬ Reached (h ++ outcomes x) token := by
        intro token ht hr
        rcases reached_append.mp hr with hr | ⟨o, ho, rfl, -⟩
        · exact hfresh token (by simp [List.mem_flatten.mp ht]) hr
        · exact hdisj _ (hmem o ho) _ ht rfl
      obtain ⟨hcareful, hsteady⟩ :=
        ih (fun e he => hm e (by simp [he])) hs' hrest hfresh'
      refine ⟨⟨?_, ?_⟩, ?_⟩
      · intro token ht
        rw [targets_of_asked asked] at ht
        exact hfresh token (by simp [ht])
      · exact ⟨by simp, by simpa using hcareful⟩
      · simpa [List.append_assoc] using hsteady

/-- An attempt at distinct devices is careful, and devices stay reached. -/
theorem Attempt.careful {breaker : String} {content : Content} {tokens : List String}
    {number spent : Nat} {q : Progress} {es : List (Exchange interface)}
    {r : Except DeliveryError Unit} {h : List Outcome} {correlationId : Option String}
    (tries : Attempt breaker content tokens number ⟨(Ledger.empty correlationId).record h, spent⟩
      es r q) (hm : ∀ e ∈ es, Modest e) (hnd : tokens.Nodup) (hs : Steady h) :
    Careful h es ∧ Steady (h ++ reported es) := by
  have ofSends : ∀ {sent : List (Exchange interface)} {d : Except GatewayError Unit} (ok : Bool),
      SendsTo content (((Ledger.empty correlationId).record h).pending tokens) sent d →
      (∀ e ∈ sent, Modest e) →
      Careful h (⟨.permit, true⟩ :: (sent ++ [⟨.settle ok, ()⟩])) ∧
        Steady (h ++ reported (⟨.permit, true⟩ :: (sent ++ [⟨.settle ok, ()⟩]))) := by
    intro sent d ok sends hsent
    rw [hs.pending_eq] at sends
    obtain ⟨hcareful, hsteady⟩ := Sends.careful sends hsent hs
      (by rw [flatten_batches]; exact hnd.filter _)
      (by simp [flatten_batches])
    refine ⟨⟨by simp [targets], ?_⟩, ?_⟩
    · rw [careful_append]
      exact ⟨by simpa [outcomes] using hcareful, by simp [targets, Careful]⟩
    · simpa [outcomes] using hsteady
  cases tries with
  | refused => exact ⟨by simp [Careful, targets], by simpa [outcomes] using hs⟩
  | failed sends => exact ofSends false sends fun e he => hm e (by simp [he])
  | answered sends => exact ofSends true sends fun e he => hm e (by simp [he])

/-- A wait is careful. -/
theorem careful_waiting {h : List Outcome} (duration : Duration) (how : Pause) :
    Careful h (waiting duration how) :=
  careful_of_not_push (by simp [waiting, Request.isPush])

/-- What every attempt keeps, a dispatch keeps: `Inv` holds of the outcomes whenever an attempt
begins, and `Post` of the outcomes whenever one ends. -/
theorem Attempts.keeps {policy : RetryPolicy} {breaker : String} {content : Content}
    {tokens : List String} {correlationId : Option String} {P : Exchange interface → Prop}
    (Inv Post : List Outcome → Prop) (hpost : ∀ h, Inv h → Post h)
    (hstep : ∀ {number spent : Nat} {h : List Outcome} {es : List (Exchange interface)}
      {r : Except DeliveryError Unit} {q : Progress},
      Attempt breaker content tokens number ⟨(Ledger.empty correlationId).record h, spent⟩ es r q →
        (∀ e ∈ es, P e) → Inv h → Careful h es ∧ Post (h ++ reported es) ∧
          ∀ e, r = .error e → Inv (h ++ reported es))
    {left number : Nat} {p s : Progress} {es : List (Exchange interface)}
    {r : Except DeliveryError Unit} {h : List Outcome}
    (tries : Attempts policy breaker content tokens left number p es r s)
    (hp : p.ledger = (Ledger.empty correlationId).record h) (hP : ∀ e ∈ es, P e) (hinv : Inv h) :
    Careful h es ∧ Post (h ++ reported es) := by
  induction tries generalizing h with
  | spent => exact ⟨trivial, by simpa using hpost h hinv⟩
  | @last left number p q es r tries final =>
      obtain ⟨ledger, spent⟩ := p
      subst hp
      obtain ⟨hcareful, hend, -⟩ := hstep tries hP hinv
      exact ⟨hcareful, hend⟩
  | @cancelled left number p q es e tries again =>
      obtain ⟨ledger, spent⟩ := p
      subst hp
      obtain ⟨hcareful, hend, -⟩ := hstep tries (fun e he => hP e (by simp [he])) hinv
      refine ⟨careful_append.mpr ⟨hcareful, careful_waiting _ _⟩, ?_⟩
      simpa using hend
  | @again left number p q s es rest e r tries again more ih =>
      have hq := tries.ledger_eq
      obtain ⟨ledger, spent⟩ := p
      subst hp
      obtain ⟨hcareful, -, hinv'⟩ := hstep tries (fun e he => hP e (by simp [he])) hinv
      rw [record_record] at hq
      obtain ⟨hrest, hend⟩ := ih hq (fun e he => hP e (by simp [he])) (hinv' e rfl)
      refine ⟨?_, ?_⟩
      · rw [careful_append, careful_append]
        refine ⟨⟨hcareful, careful_waiting _ _⟩, ?_⟩
        simpa using hrest
      · simpa [List.append_assoc] using hend

/-- Attempts at distinct devices are careful, and devices stay reached. -/
theorem Attempts.careful {policy : RetryPolicy} {breaker : String} {content : Content}
    {tokens : List String} {left number spent : Nat} {s : Progress}
    {es : List (Exchange interface)} {r : Except DeliveryError Unit}
    {correlationId : Option String}
    (tries : Attempts policy breaker content tokens left number ⟨.empty correlationId, spent⟩
      es r s)
    (hm : ∀ e ∈ es, Modest e) (hnd : tokens.Nodup) : Careful [] es ∧ Steady (reported es) := by
  refine Attempts.keeps Steady Steady (fun _ hs => hs) ?_ tries (record_nil _).symm hm steady_nil
  intro number spent h es r q tries hm hs
  obtain ⟨hcareful, hsteady⟩ := tries.careful hm hnd hs
  exact ⟨hcareful, hsteady, fun _ _ => hsteady⟩

/-! ### A single device -/

/-- Sending to a single device that was not reached is careful. If it is reached, its last outcome
is a success. -/
theorem SendsTo.careful_of_length_le_one {content : Content} {tokens : List String}
    {es : List (Exchange interface)} {d : Except GatewayError Unit} {h : List Outcome}
    (sends : SendsTo content tokens es d) (hlen : tokens.length ≤ 1)
    (hfresh : ∀ token ∈ tokens, ¬ Reached h token) :
    Careful h es ∧ ∀ token ∈ tokens, Reached (h ++ reported es) token →
      d = .ok () ∧ ∃ o, latest (h ++ reported es) token = some o ∧ o.success = true := by
  match tokens, hlen with
  | [], _ =>
      rw [SendsTo, batches] at sends
      cases sends
      exact ⟨trivial, by simp⟩
  | [token], _ =>
      have hnot := hfresh token (by simp)
      rw [SendsTo, batches_singleton] at sends
      cases sends with
      | @failed _ _ x e asked failure =>
          refine ⟨⟨?_, trivial⟩, ?_⟩
          · simpa [targets_of_asked asked] using hnot
          · simp [outcomes_of_failure failure, hnot]
      | @answered _ _ x es _ asked success more =>
          obtain ⟨r, answer⟩ := x
          obtain rfl : r = .send token content := asked
          cases more
          cases answer with
          | error e => cases success
          | ok o =>
              refine ⟨⟨by simpa [targets] using hnot, by simp, trivial⟩, ?_⟩
              intro t ht hr
              obtain rfl : t = token := List.mem_singleton.mp ht
              change Reached (h ++ [o]) t at hr
              obtain ⟨o', ho', rfl, hsucc⟩ := (reached_append.mp hr).resolve_left hnot
              obtain rfl : o' = o := List.mem_singleton.mp ho'
              refine ⟨rfl, o', ?_, hsucc⟩
              change latest (h ++ [o']) o'.deviceToken = some o'
              rw [latest_append, latest_of_nodup (by simp) ho', Option.some_or]

/-- An attempt at a single device that was not reached is careful, and reaches it unless it
fails. -/
theorem Attempt.careful_of_length_le_one {breaker : String} {content : Content}
    {tokens : List String} {number spent : Nat} {q : Progress} {es : List (Exchange interface)}
    {r : Except DeliveryError Unit} {h : List Outcome} {correlationId : Option String}
    (tries : Attempt breaker content tokens number ⟨(Ledger.empty correlationId).record h, spent⟩
      es r q) (hlen : tokens.length ≤ 1) (hfresh : ∀ token ∈ tokens, ¬ Reached h token) :
    Careful h es ∧ ∀ e, r = .error e → ∀ token ∈ tokens, ¬ Reached (h ++ reported es) token := by
  have hpending : ((Ledger.empty correlationId).record h).pending tokens = tokens := by
    refine List.filter_eq_self.mpr fun token ht => ?_
    rw [isReached_record_empty]
    cases ho : latest h token with
    | none => rfl
    | some o =>
        obtain ⟨hm, hot⟩ := mem_of_latest ho
        have hfail : ¬ o.success = true := fun hsucc => hfresh token ht ⟨o, hm, hot, hsucc⟩
        simpa using hfail
  cases tries with
  | refused => exact ⟨⟨by simp [targets], trivial⟩, by simpa [outcomes] using hfresh⟩
  | @failed sent e sends =>
      rw [hpending] at sends
      obtain ⟨hcareful, hreached⟩ := sends.careful_of_length_le_one hlen hfresh
      refine ⟨⟨by simp [targets], ?_⟩, ?_⟩
      · rw [careful_append]
        exact ⟨by simpa [outcomes] using hcareful, by simp [targets, Careful]⟩
      · intro e' _ token ht hr
        cases (hreached token ht (by simpa [outcomes] using hr)).1
  | @answered sent sends =>
      simp only [hpending] at sends ⊢
      obtain ⟨hcareful, hreached⟩ := sends.careful_of_length_le_one hlen hfresh
      refine ⟨⟨by simp [targets], ?_⟩, ?_⟩
      · rw [careful_append]
        exact ⟨by simpa [outcomes] using hcareful, by simp [targets, Careful]⟩
      · intro e he token ht hr
        obtain ⟨-, o, ho, hsucc⟩ := hreached token ht (by simpa [outcomes] using hr)
        rw [record_record, verdict, if_pos ?_] at he
        · cases he
        · refine List.any_eq_true.mpr ⟨stamped correlationId o, ?_, hsucc⟩
          refine List.mem_filterMap.mpr ⟨token, ht, ?_⟩
          rw [outcome?_record_empty, ho]
          rfl

/-- Attempts at a single device are careful, whatever the gateway replies. -/
theorem Attempts.careful_of_length_le_one {policy : RetryPolicy} {breaker : String}
    {content : Content} {tokens : List String} {left number spent : Nat} {s : Progress}
    {es : List (Exchange interface)} {r : Except DeliveryError Unit}
    {correlationId : Option String}
    (tries : Attempts policy breaker content tokens left number ⟨.empty correlationId, spent⟩
      es r s)
    (hlen : tokens.length ≤ 1) : Careful [] es := by
  refine (Attempts.keeps (P := fun _ => True) (fun h => ∀ token ∈ tokens, ¬ Reached h token)
    (fun _ => True) (fun _ _ => trivial) ?_ tries (record_nil _).symm (fun _ _ => trivial)
    (fun token _ => not_reached_nil token)).1
  intro number spent h es r q tries _ hfresh
  obtain ⟨hcareful, hnot⟩ := tries.careful_of_length_le_one hlen hfresh
  exact ⟨hcareful, trivial, hnot⟩

/-! ### Deliveries -/

/-- A delivery is as careful as its dispatch. -/
theorem Cleared.careful_iff {c : Courier} {job : Job} {checks rest : List (Exchange interface)}
    {started : Instant} {content : Content} {res : Except DeliveryError Unit × Job}
    (h : Cleared c job checks started content)
    (go : Exchanges (c.deliver job started content) rest res) :
    ∃ tries r s, (∀ e ∈ tries, e ∈ rest) ∧
      Attempts c.retry c.breaker content job.validTokens (c.retry.maxAttempts - job.attemptCount)
        job.attemptCount ⟨.empty job.correlationId, job.attemptCount⟩ tries r s ∧
      (Careful [] (checks ++ rest) ↔ Careful [] tries) := by
  obtain ⟨tries, r, s, now, accepted, marks, htries, rfl, hm, -⟩ := exchanges_deliver_iff.mp go
  refine ⟨tries, r, s, fun e he => List.mem_append_left _ he, exchanges_dispatch_iff.mp htries, ?_⟩
  have hchecks : ∀ e ∈ checks, e.1.isPush = false := fun e he =>
    Request.not_isPush_of_inChecks (h.inChecks e he)
  rw [careful_append, reported_of_not_push hchecks, List.append_nil, careful_append]
  constructor
  · rintro ⟨-, htries, -⟩
    exact htries
  · intro htries
    exact ⟨careful_of_not_push hchecks, htries,
      careful_of_not_push (hm.closing_not_push _ _ _ _)⟩

/-- If every dispatch of a job is careful, so is its delivery. -/
theorem careful_of_process {c : Courier} {job : Job} {es : List (Exchange interface)}
    {res : Except DeliveryError Unit × Job} (h : Exchanges (c.process job) es res)
    (hdispatch : job.problem? = none → ∀ content tries r s, (∀ e ∈ tries, e ∈ es) →
      Attempts c.retry c.breaker content job.validTokens (c.retry.maxAttempts - job.attemptCount)
        job.attemptCount ⟨.empty job.correlationId, job.attemptCount⟩ tries r s →
      Careful [] tries) : Careful [] es := by
  rcases exchanges_process_cases h with hquiet | ⟨checks, rest, started, content, rfl, hc, go⟩
  · exact careful_of_not_push hquiet
  · obtain ⟨tries, r, s, hmem, htries, hiff⟩ := hc.careful_iff go
    have valid : job.problem? = none := by
      cases hc
      assumption
    exact hiff.mpr (hdispatch valid content tries r s
      (fun e he => List.mem_append_right _ (hmem e he)) htries)

end PushDelivery.Delivery
