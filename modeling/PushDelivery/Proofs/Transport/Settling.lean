import PushDelivery.Proofs.Runs.Performance
import PushDelivery.Proofs.Transport.DeadLetters

/-!
# How Messages Are Settled

A message that was handed out is refused if it spells no job. A job goes to the handler, and the
message is acknowledged after it: at once if the handler was content, and after the publication of
a dead letter if it failed. This module says so of the exchanges of settling a message, and takes
the part of the handler apart into the requests that it made and their transport.

## Main definitions

* `Settled`: the ways in which a message is settled, by their exchanges.

## Main results

* `exchanges_settle_iff_settled`: there are no other ways.
* `exchanges_carryOut_publish_iff`, `exchanges_carryOut_iff`: a request of the handler on its way.
-/

namespace PushDelivery.Transport

open Run (Exchange Exchanges Performs exchanges_done_iff exchanges_ask_iff exchanges_bind_iff
  exchanges_request_bind_iff)

/-! ### Ways of settling -/

/-- The exchanges by which a message is settled: it is refused since it spells no job, or its job
was handled and it is acknowledged, or its job failed and it is acknowledged after the publication
of a dead letter, however that ended. -/
inductive Settled (t : Topology) (handler : Handler) (h : Handout) :
    List (Exchange interface) → Prop
  | malformed {now : Instant} {answer : Except BrokerError Unit}
      (spells : job? h.body (.ofInstant now) = none) :
      Settled t handler h [⟨.note .received, ()⟩, ⟨.delivery .now, now⟩, ⟨.note .malformed, ()⟩,
        ⟨.refuse h, answer⟩]
  | completed {now : Instant} {job handled : Job} {work : List (Exchange interface)}
      {answer : Except BrokerError Unit} (spells : job? h.body (.ofInstant now) = some job)
      (handles : Exchanges (carry t (handler job)) work (.ok (), handled)) :
      Settled t handler h (⟨.note .received, ()⟩ :: ⟨.delivery .now, now⟩ ::
        (work ++ [⟨.note .completed, ()⟩, ⟨.acknowledge h, answer⟩]))
  | failed {now : Instant} {job failed : Job} {error : DeliveryError}
      {work letter : List (Exchange interface)} {result answer : Except BrokerError Unit}
      (spells : job? h.body (.ofInstant now) = some job)
      (fails : Exchanges (carry t (handler job)) work (.error error, failed))
      (buries : Exchanges (publishDeadLetter t failed error) letter result) :
      Settled t handler h (⟨.note .received, ()⟩ :: ⟨.delivery .now, now⟩ ::
        (work ++ (letter ++ [⟨.acknowledge h, answer⟩])))

/-- A message is settled in one of these ways. -/
theorem exchanges_settle_iff_settled {t : Topology} {handler : Handler} {h : Handout}
    {es : List (Exchange interface)} :
    Exchanges (settle t handler h) es () ↔ Settled t handler h es := by
  constructor
  · intro hs
    obtain ⟨⟨⟩, rest, rfl, received⟩ := exchanges_request_bind_iff.mp hs
    obtain ⟨now, rest, rfl, dated⟩ := exchanges_request_bind_iff.mp received
    cases spells : job? h.body (.ofInstant now) with
    | none =>
        rw [spells] at dated
        obtain ⟨⟨⟩, rest, rfl, noted⟩ := exchanges_request_bind_iff.mp dated
        obtain ⟨answer, rest, rfl, done⟩ := exchanges_request_bind_iff.mp noted
        obtain ⟨rfl, -⟩ := exchanges_done_iff.mp done
        exact .malformed spells
    | some job =>
        rw [spells] at dated
        obtain ⟨⟨result, handled⟩, work, rest, rfl, hwork, left⟩ := exchanges_bind_iff.mp dated
        cases result with
        | ok =>
            obtain ⟨⟨⟩, rest, rfl, noted⟩ := exchanges_request_bind_iff.mp left
            obtain ⟨answer, rest, rfl, done⟩ := exchanges_request_bind_iff.mp noted
            obtain ⟨rfl, -⟩ := exchanges_done_iff.mp done
            exact .completed spells hwork
        | error error =>
            obtain ⟨result, letter, rest, rfl, hletter, left⟩ := exchanges_bind_iff.mp left
            obtain ⟨answer, rest, rfl, done⟩ := exchanges_request_bind_iff.mp left
            obtain ⟨rfl, -⟩ := exchanges_done_iff.mp done
            exact .failed spells hwork hletter
  · intro hs
    cases hs with
    | @malformed now answer spells =>
        refine exchanges_request_bind_iff.mpr ⟨(), _, rfl,
          exchanges_request_bind_iff.mpr ⟨now, _, rfl, ?_⟩⟩
        rw [spells]
        exact .ask (.ask (.done _))
    | @completed now job handled work answer spells handles =>
        refine exchanges_request_bind_iff.mpr ⟨(), _, rfl,
          exchanges_request_bind_iff.mpr ⟨now, _, rfl, ?_⟩⟩
        rw [spells]
        exact exchanges_bind_iff.mpr ⟨_, work, _, rfl, handles, .ask (.ask (.done _))⟩
    | @failed now job failed error work letter result answer spells fails buries =>
        exact (exchanges_settle_iff spells fails).mpr ⟨letter, result, answer, rfl, buries⟩

/-! ### Requests on their way -/

/-- A report is on its way to the status queue, and accepted if the publication goes well. -/
theorem exchanges_carryOut_publish_iff {t : Topology} {r : Report}
    {es : List (Exchange interface)} {accepted : Bool} :
    Exchanges (carryOut t (.publish r)) es accepted ↔
      ∃ result, Exchanges (publishReport t r) es result ∧
        (accepted = true ↔ result = .ok ()) := by
  have split : Exchanges (carryOut t (.publish r)) es accepted ↔ _ :=
    @exchanges_bind_iff interface _ _ (publishReport t r) _ _ _
  rw [split]
  constructor
  · rintro ⟨result, es₁, es₂, rfl, hpublish, hdone⟩
    cases result with
    | ok =>
        obtain ⟨rfl, rfl⟩ := exchanges_done_iff.mp hdone
        exact ⟨.ok (), (List.append_nil es₁).symm ▸ hpublish, by simp⟩
    | error e =>
        obtain ⟨rfl, rfl⟩ := exchanges_done_iff.mp hdone
        exact ⟨.error e, (List.append_nil es₁).symm ▸ hpublish, by simp⟩
  · rintro ⟨result, hpublish, haccepted⟩
    refine ⟨result, es, [], (List.append_nil es).symm, hpublish, ?_⟩
    cases result with
    | ok => exact exchanges_done_iff.mpr ⟨rfl, haccepted.mpr rfl⟩
    | error e =>
        refine exchanges_done_iff.mpr ⟨rfl, ?_⟩
        cases accepted with
        | false => rfl
        | true => cases haccepted.mp rfl

/-- Every other request of a delivery is passed on. -/
theorem exchanges_carryOut_iff {t : Topology} {r : Delivery.Request}
    (h : ∀ report, r ≠ .publish report)
    {es : List (Exchange interface)} {answer : r.Answer} :
    Exchanges (carryOut t r) es answer ↔ es = [⟨.delivery r, answer⟩] := by
  have passed : carryOut t r = request (.delivery r) := by
    cases r with
    | publish report => exact absurd rfl (h report)
    | _ => rfl
  rw [passed]
  constructor
  · intro hs
    obtain ⟨given, rest, rfl, done⟩ := exchanges_ask_iff.mp hs
    obtain ⟨rfl, rfl⟩ := exchanges_done_iff.mp done
    rfl
  · rintro rfl
    exact .ask (.done _)

end PushDelivery.Transport
