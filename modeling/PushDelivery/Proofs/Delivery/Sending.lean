import PushDelivery.Delivery.Dispatch
import PushDelivery.Proofs.Delivery.Replies
import PushDelivery.Proofs.Runs.Paths

/-!
# The Requests of an Attempt

An attempt sends its devices in batches, one request after the other, until a request fails. This
module states what the exchanges of an attempt look like as an inductive relation, `Sends`, and
shows that it describes exactly the runs of `sendAll`.

## Main results

* `flatten_batches`: the batches of a list are consecutive pieces of it.
* `exchanges_sendAll_iff`: `Sends` describes the runs of `sendAll`, and the ledger afterwards holds
  what was reported.
* `Sends.reports_all`: a faithful gateway that answers every request reports on every device.
-/

namespace PushDelivery.Delivery

open Run (Exchange Exchanges exchanges_done_iff exchanges_ask_iff)

/-! ### Batches -/

/-- The batches of a list, put together again, are the list. -/
theorem flatten_batches (tokens : List String) : (batches tokens).flatten = tokens := by
  induction tokens using batches.induct with
  | case1 => rw [batches, List.flatten_nil]
  | case2 t rest ih => rw [batches, List.flatten_cons, ih, List.take_append_drop]

/-- Devices that fit into one batch are a batch. -/
theorem batches_of_length_le {tokens : List String} (hne : tokens ≠ [])
    (hlen : tokens.length ≤ batchLimit) : batches tokens = [tokens] := by
  obtain ⟨t, rest, rfl⟩ := List.exists_cons_of_ne_nil hne
  rw [batches, List.take_of_length_le hlen, List.drop_of_length_le hlen, batches]

/-- A single device is a batch. -/
theorem batches_singleton (token : String) : batches [token] = [[token]] :=
  batches_of_length_le (List.cons_ne_nil _ _) (by simp [batchLimit])

/-! ### The relation -/

/-- Why a request to the gateway failed, if it did. -/
def failure? : Exchange interface → Option GatewayError
  | ⟨.send _ _, .error e⟩ => some e
  | ⟨.sendMany _ _, .error e⟩ => some e
  | _ => none

/-- The request for a batch. A device that is alone gets a request of its own kind. -/
def requestFor (content : Content) (alone : Bool) (batch : List String) : Request :=
  match alone, batch with
  | true, [token] => .send token content
  | _, _ => .sendMany batch content

/-- The two kinds of requests for a batch. -/
theorem requestFor_eq_or (content : Content) (alone : Bool) (batch : List String) :
    (∃ token, batch = [token] ∧ requestFor content alone batch = .send token content) ∨
      requestFor content alone batch = .sendMany batch content := by
  unfold requestFor
  split
  · exact .inl ⟨_, rfl, rfl⟩
  · exact .inr rfl

/-- The note on the outcomes of a request. -/
def tally (os : List Outcome) : Exchange interface :=
  ⟨.note (.sent (os.filter (·.success)).length
    (os.length - (os.filter (·.success)).length)), ()⟩

/-- The exchanges by which batches are sent, and what comes of it: nothing is left to send; a
request fails, and nothing is sent after it; or a request is answered, its outcomes are noted, and
the other batches are sent. -/
inductive Sends (content : Content) (alone : Bool) :
    List (List String) → List (Exchange interface) → Except GatewayError Unit → Prop
  | nil : Sends content alone [] [] (.ok ())
  | failed {batch : List String} {rest : List (List String)} {x : Exchange interface}
      {e : GatewayError} (asked : x.1 = requestFor content alone batch)
      (failure : failure? x = some e) : Sends content alone (batch :: rest) [x] (.error e)
  | answered {batch : List String} {rest : List (List String)} {x : Exchange interface}
      {es : List (Exchange interface)} {d : Except GatewayError Unit}
      (asked : x.1 = requestFor content alone batch) (success : failure? x = none)
      (more : Sends content alone rest es d) :
      Sends content alone (batch :: rest) (x :: tally (outcomes x) :: es) d

/-- A request for a batch is for its devices. -/
theorem targets_of_asked {content : Content} {alone : Bool} {batch : List String}
    {x : Exchange interface} (asked : x.1 = requestFor content alone batch) :
    targets x = batch := by
  obtain ⟨r, answer⟩ := x
  rcases requestFor_eq_or content alone batch with ⟨token, rfl, hr⟩ | hr
  · obtain rfl : r = .send token content := asked.trans hr
    rfl
  · obtain rfl : r = .sendMany batch content := asked.trans hr
    rfl

/-- A faithful reply has an outcome for each device. -/
theorem Faithful.map_outcomes {content : Content} {alone : Bool} {batch : List String}
    {x : Exchange interface} (h : Faithful x) (asked : x.1 = requestFor content alone batch)
    (success : failure? x = none) : (outcomes x).map (·.deviceToken) = batch := by
  obtain ⟨r, answer⟩ := x
  rcases requestFor_eq_or content alone batch with ⟨token, rfl, hr⟩ | hr
  · obtain rfl : r = .send token content := asked.trans hr
    cases answer with
    | error e => cases success
    | ok o => exact congrArg (fun t => [t]) (h : o.deviceToken = token)
  · obtain rfl : r = .sendMany batch content := asked.trans hr
    cases answer with
    | error e => cases success
    | ok os => exact h

/-- A note names no device. -/
@[simp] theorem targets_tally (os : List Outcome) : targets (tally os) = [] := rfl

/-- A note reports nothing. -/
@[simp] theorem outcomes_tally (os : List Outcome) : outcomes (tally os) = [] := rfl

/-- A request that fails reports nothing. -/
theorem outcomes_of_failure {x : Exchange interface} {e : GatewayError}
    (h : failure? x = some e) : outcomes x = [] := by
  obtain ⟨r, answer⟩ := x
  cases r with
  | send token content =>
      cases answer with
      | error e => rfl
      | ok o => cases h
  | sendMany tokens content =>
      cases answer with
      | error e => rfl
      | ok os => cases h
  | _ => rfl

/-! ### The runs of the code -/

/-- Sending several batches begins with the request for the first one. -/
theorem run_sendBatches_cons (content : Content) (batch : List String) (rest : List (List String))
    (p : Progress) :
    (sendBatches content (batch :: rest)).run p =
      .ask (.sendMany batch content) fun
        | .error e => .done (.error e, p)
        | .ok os => .ask (tally os).1 fun _ =>
            (sendBatches content rest).run { p with ledger := p.ledger.record os } := by
  refine congrArg (Run.ask _) (funext fun answer => ?_)
  cases answer <;> rfl

/-- Sending to a single device is one request. -/
theorem run_sendAll_singleton (content : Content) (token : String) (p : Progress) :
    (sendAll content [token]).run p =
      .ask (.send token content) fun
        | .error e => .done (.error e, p)
        | .ok o => .ask (tally [o]).1 fun _ =>
            .done (.ok (), { p with ledger := p.ledger.record [o] }) := by
  refine congrArg (Run.ask _) (funext fun answer => ?_)
  cases answer <;> rfl

/-- The runs of `sendBatches` are those that `Sends` describes. -/
theorem exchanges_sendBatches_iff {content : Content} {bs : List (List String)} {p p' : Progress}
    {es : List (Exchange interface)} {d : Except GatewayError Unit} :
    Exchanges ((sendBatches content bs).run p) es (d, p') ↔
      Sends content false bs es d ∧ p' = { p with ledger := p.ledger.record (reported es) } := by
  induction bs generalizing p es with
  | nil =>
      rw [show (sendBatches content []).run p = .done (.ok (), p) from rfl, exchanges_done_iff,
        Prod.mk.injEq]
      constructor
      · rintro ⟨rfl, rfl, rfl⟩
        exact ⟨.nil, rfl⟩
      · rintro ⟨h, rfl⟩
        cases h
        exact ⟨rfl, rfl, rfl⟩
  | cons batch rest ih =>
      rw [run_sendBatches_cons, exchanges_ask_iff]
      constructor
      · rintro ⟨answer, es, rfl, go⟩
        cases answer with
        | error e =>
            obtain ⟨rfl, hd⟩ := exchanges_done_iff.mp go
            obtain ⟨rfl, rfl⟩ := Prod.mk.inj hd
            exact ⟨.failed rfl rfl, rfl⟩
        | ok os =>
            obtain ⟨_, es, rfl, hrest⟩ := exchanges_ask_iff.mp go
            obtain ⟨hs, rfl⟩ := ih.mp hrest
            refine ⟨.answered rfl rfl hs, ?_⟩
            simp only [record_record, reported_cons]
            rfl
      · rintro ⟨h, rfl⟩
        cases h with
        | @failed _ _ x e asked failure =>
            obtain ⟨r, answer⟩ := x
            obtain rfl : r = .sendMany batch content := asked
            cases answer with
            | error e' =>
                obtain rfl : e' = e := Option.some.inj failure
                exact ⟨_, _, rfl, .done _⟩
            | ok os => cases failure
        | @answered _ _ x es _ asked success more =>
            obtain ⟨r, answer⟩ := x
            obtain rfl : r = .sendMany batch content := asked
            cases answer with
            | error e => cases success
            | ok os =>
                refine ⟨_, _, rfl, .ask (ih.mpr ⟨more, ?_⟩)⟩
                simp only [record_record, reported_cons]
                rfl

/-- The runs of `sendAll` are those that `Sends` describes, and the ledger afterwards holds what was
reported. -/
theorem exchanges_sendAll_iff {content : Content} {tokens : List String} {p p' : Progress}
    {es : List (Exchange interface)} {d : Except GatewayError Unit} :
    Exchanges ((sendAll content tokens).run p) es (d, p') ↔
      Sends content (decide (tokens.length = 1)) (batches tokens) es d ∧
        p' = { p with ledger := p.ledger.record (reported es) } := by
  match tokens with
  | [] => exact exchanges_sendBatches_iff
  | t :: u :: rest =>
      rw [show decide ((t :: u :: rest).length = 1) = false from rfl]
      exact exchanges_sendBatches_iff
  | [token] =>
      rw [run_sendAll_singleton, batches_singleton, exchanges_ask_iff]
      constructor
      · rintro ⟨answer, es, rfl, go⟩
        cases answer with
        | error e =>
            obtain ⟨rfl, hd⟩ := exchanges_done_iff.mp go
            obtain ⟨rfl, rfl⟩ := Prod.mk.inj hd
            exact ⟨.failed rfl rfl, rfl⟩
        | ok o =>
            obtain ⟨_, es, rfl, hrest⟩ := exchanges_ask_iff.mp go
            obtain ⟨rfl, hd⟩ := exchanges_done_iff.mp hrest
            obtain ⟨rfl, rfl⟩ := Prod.mk.inj hd
            exact ⟨.answered rfl rfl .nil, rfl⟩
      · rintro ⟨h, rfl⟩
        cases h with
        | @failed _ _ x e asked failure =>
            obtain ⟨r, answer⟩ := x
            obtain rfl : r = .send token content := asked
            cases answer with
            | error e' =>
                obtain rfl : e' = e := Option.some.inj failure
                exact ⟨_, _, rfl, .done _⟩
            | ok o => cases failure
        | @answered _ _ x es _ asked success more =>
            obtain ⟨r, answer⟩ := x
            obtain rfl : r = .send token content := asked
            cases more
            cases answer with
            | error e => cases success
            | ok o => exact ⟨_, _, rfl, .ask (.done _)⟩

/-! ### What is reported -/

/-- A faithful gateway that answers every request reports on every device. -/
theorem Sends.reports_all {content : Content} {alone : Bool} {bs : List (List String)}
    {es : List (Exchange interface)} (h : Sends content alone bs es (.ok ()))
    (hf : ∀ e ∈ es, Faithful e) : (reported es).map (·.deviceToken) = bs.flatten := by
  generalize hd : (Except.ok () : Except GatewayError Unit) = d at h
  induction h with
  | nil => rfl
  | failed => cases hd
  | @answered batch rest x es _ asked success _ ih =>
      have hx := (hf x (by simp)).map_outcomes asked success
      have hrest := ih (fun e he => hf e (by simp [he])) hd
      simp only [reported_cons, outcomes_tally, List.nil_append, List.map_append, hx, hrest,
        List.flatten_cons]

end PushDelivery.Delivery
