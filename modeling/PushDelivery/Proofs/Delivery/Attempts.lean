import PushDelivery.Proofs.Delivery.Sending

/-!
# The Attempts of a Dispatch

A dispatch makes attempts until one reaches a device, fails for good, or is the last one that the
policy leaves; a wait between two of them may be cancelled. This module states the exchanges of one
attempt and of a whole dispatch as inductive relations, `Attempt` and `Attempts`, and shows that
they describe exactly the runs of the code. What a dispatch keeps is then shown by induction on
`Attempts`, with a case for each way in which it can go on or end.

## Main results

* `exchanges_attempt_iff`: `Attempt` describes the runs of `attempt`.
* `exchanges_dispatch_iff`: `Attempts` describes the runs of `dispatch`.
* `Attempts.inDispatch`: a dispatch asks only for what attempts consist of.
* `Attempts.ledger_eq`: the ledger of a dispatch holds what was reported in it, and nothing else.
-/

namespace PushDelivery.Delivery

open Run (Exchange Exchanges exchanges_done_iff exchanges_ask_iff exchanges_bind_iff)

/-- The exchanges by which devices are sent to. -/
abbrev SendsTo (content : Content) (tokens : List String) :
    List (Exchange interface) → Except GatewayError Unit → Prop :=
  Sends content (decide (tokens.length = 1)) (batches tokens)

/-- The exchanges of an attempt, how it ended and what the dispatch has come to: the breaker refuses
it; a request fails; or all requests are answered, and the outcomes of the devices decide. -/
inductive Attempt (breaker : String) (content : Content) (tokens : List String) (number : Nat)
    (p : Progress) : List (Exchange interface) → Except DeliveryError Unit → Progress → Prop
  | refused : Attempt breaker content tokens number p [⟨.permit, false⟩]
      (.error (.circuitOpen breaker)) { p with spent := number + 1 }
  | failed {es : List (Exchange interface)} {e : GatewayError}
      (sends : SendsTo content (p.ledger.pending tokens) es (.error e)) :
      Attempt breaker content tokens number p (⟨.permit, true⟩ :: (es ++ [⟨.settle false, ()⟩]))
        (.error (.gateway e)) ⟨p.ledger.record (reported es), number + 1⟩
  | answered {es : List (Exchange interface)}
      (sends : SendsTo content (p.ledger.pending tokens) es (.ok ())) :
      Attempt breaker content tokens number p (⟨.permit, true⟩ :: (es ++ [⟨.settle true, ()⟩]))
        (verdict ((p.ledger.record (reported es)).outcomes (p.ledger.pending tokens)))
        ⟨p.ledger.record (reported es), number + 1⟩

/-- The exchanges between an attempt that failed and the next one. -/
def waiting (duration : Duration) (how : Pause) : List (Exchange interface) :=
  [⟨.note .retried, ()⟩, ⟨.pause duration, how⟩]

/-- The exchanges of a dispatch that has `left` attempts, the first of them with a number: no
attempt is left; an attempt ends the dispatch; the wait after it is cancelled; or it is followed by
others. -/
inductive Attempts (policy : RetryPolicy) (breaker : String) (content : Content)
    (tokens : List String) : (left number : Nat) → Progress → List (Exchange interface) →
      Except DeliveryError Unit → Progress → Prop
  | spent {number : Nat} {p : Progress} :
      Attempts policy breaker content tokens 0 number p []
        (.error (.maxRetriesExceeded number)) p
  | last {left number : Nat} {p q : Progress} {es : List (Exchange interface)}
      {r : Except DeliveryError Unit} (tries : Attempt breaker content tokens number p es r q)
      (final : ∀ e, r = .error e → ¬ (e.isRetryable ∧ left ≠ 0)) :
      Attempts policy breaker content tokens (left + 1) number p es r q
  | cancelled {left number : Nat} {p q : Progress} {es : List (Exchange interface)}
      {e : DeliveryError} (tries : Attempt breaker content tokens number p es (.error e) q)
      (again : e.isRetryable ∧ left ≠ 0) :
      Attempts policy breaker content tokens (left + 1) number p
        (es ++ waiting (policy.backoff number) .cancelled) (.error .cancelled) q
  | again {left number : Nat} {p q s : Progress} {es rest : List (Exchange interface)}
      {e : DeliveryError} {r : Except DeliveryError Unit}
      (tries : Attempt breaker content tokens number p es (.error e) q)
      (again : e.isRetryable ∧ left ≠ 0)
      (more : Attempts policy breaker content tokens left (number + 1) q rest r s) :
      Attempts policy breaker content tokens (left + 1) number p
        (es ++ waiting (policy.backoff number) .elapsed ++ rest) r s

/-! ### The runs of an attempt -/

/-- Sending is a run of the code, whatever the dispatch has come to before. -/
theorem SendsTo.exchanges {content : Content} {tokens : List String}
    {es : List (Exchange interface)} {d : Except GatewayError Unit}
    (h : SendsTo content tokens es d) (p : Progress) :
    Exchanges ((sendAll content tokens).run p) es
      (d, { p with ledger := p.ledger.record (reported es) }) :=
  exchanges_sendAll_iff.mpr ⟨h, rfl⟩

/-- How an attempt goes on once its requests are over. -/
def conclude (pending : List String) :
    Except GatewayError Unit × Progress → Run interface (Except DeliveryError Unit × Progress)
  | (.error e, p) => .ask (.settle false) fun _ => .done (.error (.gateway e), p)
  | (.ok (), p) => .ask (.settle true) fun _ => .done (verdict (p.ledger.outcomes pending), p)

/-- An attempt begins with a request for admission. -/
theorem run_attempt (breaker : String) (content : Content) (tokens : List String) (number : Nat)
    (p : Progress) :
    (attempt breaker content tokens number).run p =
      .ask .permit fun
        | true => (sendAll content (p.ledger.pending tokens)).run { p with spent := number + 1 } >>=
            conclude (p.ledger.pending tokens)
        | false => .done (.error (.circuitOpen breaker), { p with spent := number + 1 }) := by
  refine congrArg (Run.ask _) (funext fun admitted => ?_)
  cases admitted with
  | false => rfl
  | true =>
      let sending := (sendAll content (p.ledger.pending tokens)).run { p with spent := number + 1 }
      refine bind_congr (x := sending) fun ⟨d, q⟩ => ?_
      cases d <;> rfl

/-- The runs of an attempt are those that `Attempt` describes. -/
theorem exchanges_attempt_iff {breaker : String} {content : Content} {tokens : List String}
    {number : Nat} {p q : Progress} {es : List (Exchange interface)}
    {r : Except DeliveryError Unit} :
    Exchanges ((attempt breaker content tokens number).run p) es (r, q) ↔
      Attempt breaker content tokens number p es r q := by
  rw [run_attempt, exchanges_ask_iff]
  constructor
  · rintro ⟨admitted, es, rfl, go⟩
    cases admitted with
    | false =>
        obtain ⟨rfl, hr⟩ := exchanges_done_iff.mp go
        obtain ⟨rfl, rfl⟩ := Prod.mk.inj hr
        exact .refused
    | true =>
        obtain ⟨⟨d, q'⟩, sent, closing, rfl, hsent, hclosing⟩ := exchanges_bind_iff.mp go
        obtain ⟨sends, rfl⟩ := exchanges_sendAll_iff.mp hsent
        cases d with
        | error e =>
            obtain ⟨_, rest, rfl, hrest⟩ := exchanges_ask_iff.mp hclosing
            obtain ⟨rfl, hr⟩ := exchanges_done_iff.mp hrest
            obtain ⟨rfl, rfl⟩ := Prod.mk.inj hr
            exact .failed sends
        | ok _ =>
            obtain ⟨_, rest, rfl, hrest⟩ := exchanges_ask_iff.mp hclosing
            obtain ⟨rfl, hr⟩ := exchanges_done_iff.mp hrest
            obtain ⟨rfl, rfl⟩ := Prod.mk.inj hr
            exact .answered sends
  · intro h
    cases h with
    | refused => exact ⟨false, [], rfl, .done _⟩
    | failed sends | answered sends =>
        have hsent := sends.exchanges { p with spent := number + 1 }
        exact ⟨true, _, rfl, exchanges_bind_iff.mpr ⟨_, _, _, rfl, hsent, .ask (.done _)⟩⟩

/-! ### The runs of a dispatch -/

/-- How a dispatch goes on after an attempt. -/
def proceed (policy : RetryPolicy) (breaker : String) (content : Content) (tokens : List String)
    (left number : Nat) :
    Except DeliveryError Unit × Progress → Run interface (Except DeliveryError Unit × Progress)
  | (.ok (), p) => .done (.ok (), p)
  | (.error e, p) =>
    if e.isRetryable ∧ left ≠ 0 then
      .ask (.note .retried) fun _ => .ask (.pause (policy.backoff number)) fun
        | .cancelled => .done (.error .cancelled, p)
        | .elapsed =>
          (policy.attempts pause (attempt breaker content tokens) left (number + 1)).run p
    else .done (.error e, p)

/-- A dispatch that has an attempt left makes it and goes on. -/
theorem run_attempts_succ (policy : RetryPolicy) (breaker : String) (content : Content)
    (tokens : List String) (left number : Nat) (p : Progress) :
    (policy.attempts pause (attempt breaker content tokens) (left + 1) number).run p =
      (attempt breaker content tokens number).run p >>=
        proceed policy breaker content tokens left number := by
  refine congrArg (Run.bind _) (funext fun ⟨r, q⟩ => ?_)
  cases r with
  | ok _ => rfl
  | error e =>
      by_cases he : e.isRetryable ∧ left ≠ 0
      · simp only [proceed, if_pos he]
        refine congrArg (Run.ask _) (funext fun _ => congrArg (Run.ask _) (funext fun how => ?_))
        cases how <;> rfl
      · simp only [proceed, if_neg he]
        rfl

/-- What follows an attempt is the end of the dispatch, a cancelled wait, or more attempts. -/
theorem exchanges_proceed_iff {policy : RetryPolicy} {breaker : String} {content : Content}
    {tokens : List String} {left number : Nat} {p s : Progress} {es : List (Exchange interface)}
    {d r : Except DeliveryError Unit} :
    Exchanges (proceed policy breaker content tokens left number (d, p)) es (r, s) ↔
      (es = [] ∧ r = d ∧ s = p ∧ ∀ e, d = .error e → ¬ (e.isRetryable ∧ left ≠ 0)) ∨
      (∃ e, d = .error e ∧ (e.isRetryable ∧ left ≠ 0) ∧
        es = waiting (policy.backoff number) .cancelled ∧ r = .error .cancelled ∧ s = p) ∨
      ∃ e rest, d = .error e ∧ (e.isRetryable ∧ left ≠ 0) ∧
        es = waiting (policy.backoff number) .elapsed ++ rest ∧
        Exchanges ((policy.attempts pause (attempt breaker content tokens) left (number + 1)).run p)
          rest (r, s) := by
  cases d with
  | ok _ =>
      simp only [proceed, exchanges_done_iff, Prod.mk.injEq, reduceCtorEq, false_and, exists_false,
        or_false, false_imp_iff, implies_true, and_true]
  | error e =>
      by_cases he : e.isRetryable ∧ left ≠ 0
      · simp only [proceed, if_pos he, exchanges_ask_iff]
        constructor
        · rintro ⟨_, es, rfl, how, es, rfl, go⟩
          cases how with
          | cancelled =>
              obtain ⟨rfl, hr⟩ := exchanges_done_iff.mp go
              obtain ⟨rfl, rfl⟩ := Prod.mk.inj hr
              exact .inr (.inl ⟨e, rfl, he, rfl, rfl, rfl⟩)
          | elapsed => exact .inr (.inr ⟨e, es, rfl, he, rfl, go⟩)
        · rintro (⟨-, -, -, hfinal⟩ | ⟨e', -, -, rfl, rfl, rfl⟩ | ⟨e', rest, -, -, rfl, go⟩)
          · exact absurd he (hfinal e rfl)
          · exact ⟨_, _, rfl, .cancelled, [], rfl, .done _⟩
          · exact ⟨_, _, rfl, .elapsed, rest, rfl, go⟩
      · simp only [proceed, if_neg he, exchanges_done_iff, Prod.mk.injEq]
        constructor
        · rintro ⟨rfl, rfl, rfl⟩
          refine .inl ⟨rfl, rfl, rfl, ?_⟩
          intro e' h
          obtain rfl : e = e' := Except.error.inj h
          exact he
        · rintro (⟨rfl, rfl, rfl, -⟩ | ⟨e', h, h', -⟩ | ⟨e', _, h, h', -⟩)
          · exact ⟨rfl, rfl, rfl⟩
          · obtain rfl : e = e' := Except.error.inj h
            exact absurd h' he
          · obtain rfl : e = e' := Except.error.inj h
            exact absurd h' he

/-- The runs of the attempts that a policy leaves are those that `Attempts` describes. -/
theorem exchanges_attempts_iff {policy : RetryPolicy} {breaker : String} {content : Content}
    {tokens : List String} {left number : Nat} {p s : Progress} {es : List (Exchange interface)}
    {r : Except DeliveryError Unit} :
    Exchanges ((policy.attempts pause (attempt breaker content tokens) left number).run p)
        es (r, s) ↔
      Attempts policy breaker content tokens left number p es r s := by
  induction left generalizing number p es with
  | zero =>
      rw [show (policy.attempts pause (attempt breaker content tokens) 0 number).run p =
        .done (.error (.maxRetriesExceeded number), p) from rfl, exchanges_done_iff, Prod.mk.injEq]
      constructor
      · rintro ⟨rfl, rfl, rfl⟩
        exact .spent
      · intro h
        cases h
        exact ⟨rfl, rfl, rfl⟩
  | succ left ih =>
      rw [run_attempts_succ, exchanges_bind_iff]
      constructor
      · rintro ⟨⟨d, q⟩, es, rest, rfl, htries, hrest⟩
        have tries := exchanges_attempt_iff.mp htries
        rcases exchanges_proceed_iff.mp hrest with
          ⟨rfl, rfl, rfl, hfinal⟩ | ⟨e, rfl, he, rfl, rfl, rfl⟩ | ⟨e, rest, rfl, he, rfl, go⟩
        · rw [List.append_nil]
          exact .last tries hfinal
        · exact .cancelled tries he
        · rw [← List.append_assoc]
          exact .again tries he (ih.mp go)
      · intro h
        cases h with
        | last tries final =>
            exact ⟨_, _, [], (List.append_nil _).symm, exchanges_attempt_iff.mpr tries,
              exchanges_proceed_iff.mpr (.inl ⟨rfl, rfl, rfl, final⟩)⟩
        | cancelled tries again =>
            exact ⟨_, _, _, rfl, exchanges_attempt_iff.mpr tries,
              exchanges_proceed_iff.mpr (.inr (.inl ⟨_, rfl, again, rfl, rfl, rfl⟩))⟩
        | again tries again more =>
            exact ⟨_, _, _, List.append_assoc _ _ _, exchanges_attempt_iff.mpr tries,
              exchanges_proceed_iff.mpr (.inr (.inr ⟨_, _, rfl, again, rfl, ih.mpr more⟩))⟩

/-- The runs of a dispatch are those that `Attempts` describes, from an empty ledger. -/
theorem exchanges_dispatch_iff {policy : RetryPolicy} {breaker : String} {content : Content}
    {tokens : List String} {correlationId : Option String} {spent : Nat}
    {es : List (Exchange interface)} {r : Except DeliveryError Unit} {s : Progress} :
    Exchanges (dispatch policy breaker content tokens correlationId spent) es (r, s) ↔
      Attempts policy breaker content tokens (policy.maxAttempts - spent) spent
        ⟨.empty correlationId, spent⟩ es r s :=
  exchanges_attempts_iff

/-! ### What a dispatch asks -/

/-- Whether a request is one that attempts consist of. Of events they note only what was sent and
that another attempt follows. -/
def Request.inDispatch : Request → Bool
  | .permit | .settle _ | .send .. | .sendMany .. | .pause _ => true
  | .note (.sent ..) | .note .retried => true
  | _ => false

/-- Sending asks for nothing else. -/
theorem Sends.inDispatch {content : Content} {alone : Bool} {bs : List (List String)}
    {es : List (Exchange interface)} {d : Except GatewayError Unit}
    (h : Sends content alone bs es d) : ∀ e ∈ es, e.1.inDispatch = true := by
  have ofAsked : ∀ {batch : List String} {x : Exchange interface},
      x.1 = requestFor content alone batch → x.1.inDispatch = true := by
    intro batch x asked
    rcases requestFor_eq_or content alone batch with ⟨token, -, hr⟩ | hr
    · rw [asked, hr]
      rfl
    · rw [asked, hr]
      rfl
  induction h with
  | nil => simp
  | failed asked _ => simpa using ofAsked asked
  | answered asked _ _ ih =>
      simp only [List.mem_cons, forall_eq_or_imp]
      exact ⟨ofAsked asked, rfl, ih⟩

/-- An attempt asks for nothing else. -/
theorem Attempt.inDispatch {breaker : String} {content : Content} {tokens : List String}
    {number : Nat} {p q : Progress} {es : List (Exchange interface)}
    {r : Except DeliveryError Unit} (h : Attempt breaker content tokens number p es r q) :
    ∀ e ∈ es, e.1.inDispatch = true := by
  cases h with
  | refused => simp [Request.inDispatch]
  | failed sends | answered sends =>
      simp only [List.mem_cons, List.mem_append, List.not_mem_nil, or_false]
      rintro e (rfl | he | rfl)
      · rfl
      · exact sends.inDispatch e he
      · rfl

/-- A dispatch asks for nothing else. -/
theorem Attempts.inDispatch {policy : RetryPolicy} {breaker : String} {content : Content}
    {tokens : List String} {left number : Nat} {p s : Progress} {es : List (Exchange interface)}
    {r : Except DeliveryError Unit}
    (h : Attempts policy breaker content tokens left number p es r s) :
    ∀ e ∈ es, e.1.inDispatch = true := by
  have ofWaiting : ∀ {d : Duration} {how : Pause}, ∀ e ∈ waiting d how, e.1.inDispatch = true := by
    simp [waiting, Request.inDispatch]
  induction h with
  | spent => simp
  | last tries _ => exact tries.inDispatch
  | cancelled tries _ =>
      intro e he
      rcases List.mem_append.mp he with he | he
      · exact tries.inDispatch e he
      · exact ofWaiting e he
  | again tries _ _ ih =>
      intro e he
      rcases List.mem_append.mp he with he | he
      · rcases List.mem_append.mp he with he | he
        · exact tries.inDispatch e he
        · exact ofWaiting e he
      · exact ih e he

/-! ### The ledger -/

/-- A wait reports nothing. -/
@[simp] theorem reported_waiting (duration : Duration) (how : Pause) :
    reported (waiting duration how) = [] := rfl

/-- An attempt adds to the ledger what was reported in it. -/
theorem Attempt.ledger_eq {breaker : String} {content : Content} {tokens : List String}
    {number : Nat} {p q : Progress} {es : List (Exchange interface)}
    {r : Except DeliveryError Unit} (h : Attempt breaker content tokens number p es r q) :
    q.ledger = p.ledger.record (reported es) := by
  cases h with
  | refused => rfl
  | failed sends | answered sends =>
      rw [reported_cons, reported_append]
      exact congrArg p.ledger.record (List.append_nil _).symm

/-- A dispatch adds to the ledger what was reported in it. -/
theorem Attempts.ledger_eq {policy : RetryPolicy} {breaker : String} {content : Content}
    {tokens : List String} {left number : Nat} {p s : Progress} {es : List (Exchange interface)}
    {r : Except DeliveryError Unit}
    (h : Attempts policy breaker content tokens left number p es r s) :
    s.ledger = p.ledger.record (reported es) := by
  induction h with
  | spent => rfl
  | last tries _ => exact tries.ledger_eq
  | cancelled tries _ =>
      rw [reported_append, reported_waiting, List.append_nil]
      exact tries.ledger_eq
  | again tries _ _ ih =>
      rw [ih, tries.ledger_eq, record_record, reported_append, reported_append, reported_waiting,
        List.append_nil]

end PushDelivery.Delivery
