import PushDelivery.Proofs.Delivery.Budget
import PushDelivery.Proofs.Delivery.Foresight
import PushDelivery.Proofs.Delivery.Resending
import PushDelivery.Proofs.Text.Blanks

/-!
# Which Requests an Attempt Makes

An attempt sends to the devices that are left: those of the valid tokens for which the ledger does
not hold a success. A device that is alone gets a request of its own. Several devices are cut into
batches, and there is one request for each of them, in order, up to the first that fails. This
module states that without the code, for one attempt and for attempts that follow each other, and
shows that all deliveries are of this kind.

What the ledger holds of a device is the last outcome that was reported about it. If the tokens of a
job are distinct and the gateway reports on no device more often than it is asked for it, this is a
success as soon as any outcome of the device is one. So the devices that are left are then those
without any success.

## Main definitions

* `unreached`, `neverReached`: the devices that are left, by the last outcome and by all outcomes.
* `Chunks`: the pieces into which devices are cut.
* `Pushes`, `Attempted`: the pushes to some devices, and an attempt at them.
* `Successive`: attempts one after the other.

## Main results

* `chunks_batches`: batches are such pieces.
* `Attempt.attempted`: an attempt of the code is one at the devices that are left.
* `Job.trim_of_mem_validTokens`: valid tokens are trimmed and not blank.
* `trim_of_mem_targets`: so are all devices in the pushes of a delivery.
* `attempts_in_batches`: the requests of all attempts of a delivery.
-/

namespace PushDelivery

/-! ### Valid tokens -/

namespace Job

/-- Valid tokens are trimmed, and they are not blank. -/
theorem trim_of_mem_validTokens {job : Job} {token : String} (h : token ∈ job.validTokens) :
    Text.trim token = token ∧ Text.isBlankText token = false := by
  obtain ⟨trimmed, some⟩ := List.mem_filter.mp h
  obtain ⟨raw, -, rfl⟩ := List.mem_map.mp trimmed
  have same := Text.trim_trim raw
  refine ⟨same, Bool.eq_false_iff.mpr fun blank => ?_⟩
  rw [Text.isBlankText_iff_trim, same] at blank
  exact of_decide_eq_true some blank

/-- A job without a problem has a valid token: its tokens are checked for blanks as they are
trimmed. -/
theorem validTokens_ne_nil {job : Job} (valid : job.problem? = none) : job.validTokens ≠ [] := by
  have notAll : job.deviceTokens.all Text.isBlankText = false := by
    unfold problem? at valid
    split_ifs at valid with _ _ blank
    exact Bool.eq_false_iff.mpr blank
  obtain ⟨raw, hraw, notBlank⟩ := List.all_eq_false.mp notAll
  have left : Text.trim raw ≠ "" := fun empty => notBlank (Text.isBlankText_iff_trim.mpr empty)
  exact List.ne_nil_of_mem
    (List.mem_filter.mpr ⟨List.mem_map_of_mem hraw, decide_eq_true left⟩)

end Job

namespace Delivery

open Run (Exchange Exchanges)

/-! ### The devices that are left -/

/-- The devices for which the last outcome, if they have one, is not a success. -/
def unreached (tokens : List String) (h : List Outcome) : List String :=
  tokens.filter fun token => !(latest h token).any (·.success)

/-- The devices without any success. -/
def neverReached (tokens : List String) (h : List Outcome) : List String :=
  tokens.filter fun token => ¬ Reached h token

/-- At first all devices are left. -/
theorem unreached_nil (tokens : List String) : unreached tokens [] = tokens :=
  List.filter_eq_self.mpr fun _ _ => rfl

/-- The devices that the ledger leaves are those without a success as their last outcome. -/
theorem pending_eq_unreached (correlationId : Option String) (h : List Outcome)
    (tokens : List String) :
    ((Ledger.empty correlationId).record h).pending tokens = unreached tokens h :=
  List.filter_congr fun token _ => by rw [isReached_record_empty]

/-! ### Pieces -/

/-- Devices are cut into consecutive pieces. No piece is empty or too long, and a piece that another
one follows is full. -/
structure Chunks (devices : List String) (pieces : List (List String)) : Prop where
  whole : pieces.flatten = devices
  sized : ∀ piece ∈ pieces, 0 < piece.length ∧ piece.length ≤ batchLimit
  full : pieces.Pairwise fun piece _ => piece.length = batchLimit

/-- Batches are pieces of this kind. -/
theorem chunks_batches (devices : List String) : Chunks devices (batches devices) := by
  refine ⟨flatten_batches devices, ?_, ?_⟩
  · induction devices using batches.induct with
    | case1 => simp [batches]
    | case2 t rest ih =>
        rw [batches]
        refine List.forall_mem_cons.mpr ⟨?_, ih⟩
        rw [List.length_take, List.length_cons, batchLimit]
        omega
  · induction devices using batches.induct with
    | case1 => simp [batches]
    | case2 t rest ih =>
        rw [batches]
        refine List.pairwise_cons.mpr ⟨fun next hnext => ?_, ih⟩
        -- Another piece follows only if the first one does not take all.
        have more : (t :: rest).drop batchLimit ≠ [] := by
          intro none
          rw [none, batches] at hnext
          cases hnext
        rw [Ne, List.drop_eq_nil_iff, Nat.not_le] at more
        rw [List.length_take, Nat.min_eq_left (Nat.le_of_lt more)]

/-! ### Pushes to some devices -/

/-- The pushes among some exchanges. -/
def pushesOf (es : List (Exchange interface)) : List (Exchange interface) :=
  es.filter fun e => e.1.isPush

theorem pushesOf_cons_of_isPush {e : Exchange interface} {es : List (Exchange interface)}
    (push : e.1.isPush = true) : pushesOf (e :: es) = e :: pushesOf es :=
  List.filter_cons_of_pos push

@[simp] theorem pushesOf_tally_cons (os : List Outcome) (es : List (Exchange interface)) :
    pushesOf (tally os :: es) = pushesOf es := rfl

@[simp] theorem pushesOf_concat_settle (es : List (Exchange interface)) (success : Bool) :
    pushesOf (es ++ [⟨.settle success, ()⟩]) = pushesOf es :=
  (List.filter_append ..).trans (List.append_nil _)

/-- The pushes to some devices. A device that is alone gets one of its own. Otherwise there is one
for each piece, in order, and pieces are left only if a push has failed, which no other one
follows. -/
inductive Pushes (content : Content) (devices : List String) : List (Exchange interface) → Prop
  | alone {token : String} {e : Exchange interface} (only : devices = [token])
      (asked : e.1 = .send token content) : Pushes content devices [e]
  | batched {es : List (Exchange interface)} {sent unsent : List (List String)}
      (several : devices.length ≠ 1) (pieces : Chunks devices (sent ++ unsent))
      (asked : es.map (·.1) = sent.map fun piece => .sendMany piece content)
      (stops : es.Pairwise fun e _ => failure? e = none)
      (complete : (∀ e ∈ es, failure? e = none) → unsent = []) : Pushes content devices es

/-- The pushes by which several batches are sent. -/
theorem Sends.batched {content : Content} {bs : List (List String)}
    {es : List (Exchange interface)} {d : Except GatewayError Unit}
    (h : Sends content false bs es d) :
    ∃ sent unsent, bs = sent ++ unsent ∧
      (pushesOf es).map (·.1) = sent.map (fun piece => Request.sendMany piece content) ∧
      (pushesOf es).Pairwise (fun e _ => failure? e = none) ∧
      ((∀ e ∈ pushesOf es, failure? e = none) → unsent = []) := by
  have pushed : ∀ {batch : List String} {x : Exchange interface},
      x.1 = requestFor content false batch → x.1 = .sendMany batch content ∧ x.1.isPush = true := by
    intro batch x asked
    exact ⟨asked, asked ▸ rfl⟩
  induction h with
  | nil => exact ⟨[], [], rfl, rfl, .nil, fun _ => rfl⟩
  | @failed batch rest x e asked failure =>
      obtain ⟨asked, push⟩ := pushed asked
      rw [pushesOf_cons_of_isPush push]
      refine ⟨[batch], rest, rfl, congrArg (fun r => [r]) asked, List.pairwise_singleton _ _, ?_⟩
      · intro fine
        cases failure.symm.trans (fine x List.mem_cons_self)
  | @answered batch rest x es d asked success more ih =>
      obtain ⟨asked, push⟩ := pushed asked
      obtain ⟨sent, unsent, rfl, requests, stops, complete⟩ := ih
      rw [pushesOf_cons_of_isPush push, pushesOf_tally_cons]
      refine ⟨batch :: sent, unsent, rfl, ?_, ?_, fun fine => ?_⟩
      · rw [List.map_cons, List.map_cons, requests, asked]
      · exact List.pairwise_cons.mpr ⟨fun _ _ => success, stops⟩
      · exact complete (List.forall_mem_cons.mp fine).2

/-- Sending to devices makes the pushes to them. -/
theorem SendsTo.pushes {content : Content} {devices : List String}
    {es : List (Exchange interface)} {d : Except GatewayError Unit}
    (h : SendsTo content devices es d) : Pushes content devices (pushesOf es) := by
  by_cases one : devices.length = 1
  · obtain ⟨token, rfl⟩ := List.length_eq_one_iff.mp one
    rw [SendsTo, decide_eq_true one, batches_singleton] at h
    have pushed : ∀ {x : Exchange interface}, x.1 = .send token content → x.1.isPush = true :=
      fun asked => asked ▸ rfl
    cases h with
    | failed asked =>
        rw [pushesOf_cons_of_isPush (pushed asked)]
        exact .alone rfl asked
    | answered asked _ more =>
        cases more
        rw [pushesOf_cons_of_isPush (pushed asked)]
        exact .alone rfl asked
  · rw [SendsTo, decide_eq_false one] at h
    obtain ⟨sent, unsent, pieces, requests, stops, complete⟩ := h.batched
    exact .batched one (pieces ▸ chunks_batches devices) requests stops complete

/-- Pushes to some devices name no others. -/
theorem Pushes.targets_subset {content : Content} {devices : List String}
    {es : List (Exchange interface)} (h : Pushes content devices es) :
    ∀ e ∈ es, targets e ⊆ devices := by
  cases h with
  | @alone token e only asked =>
      obtain ⟨r, answer⟩ := e
      obtain rfl : r = .send token content := asked
      exact List.forall_mem_singleton.mpr (only ▸ List.Subset.refl [token])
  | @batched _ sent unsent _ pieces asked _ _ =>
      rintro ⟨r, answer⟩ he token ht
      obtain ⟨piece, hpiece, rfl⟩ : ∃ piece ∈ sent, Request.sendMany piece content = r :=
        List.mem_map.mp (asked ▸ List.mem_map_of_mem he)
      rw [← pieces.whole, List.flatten_append]
      exact List.mem_append_left _ (List.mem_flatten_of_mem hpiece ht)

/-- Where there are devices, there is a push. -/
theorem Pushes.ne_nil {content : Content} {devices : List String}
    {es : List (Exchange interface)} (h : Pushes content devices es) (some : devices ≠ []) :
    es ≠ [] := by
  cases h with
  | alone => exact List.cons_ne_nil _ _
  | batched _ pieces asked _ complete =>
      rintro rfl
      obtain rfl := List.map_eq_nil_iff.mp asked.symm
      obtain rfl := complete (List.forall_mem_nil _)
      exact some pieces.whole.symm

/-! ### Attempts -/

/-- An attempt at some devices asks for admission. If it is refused it asks for nothing else, and if
it is admitted it makes the pushes to its devices. -/
inductive Attempted (content : Content) (devices : List String) :
    List (Exchange interface) → Prop
  | refused : Attempted content devices [⟨.permit, false⟩]
  | admitted {es : List (Exchange interface)} (once : ∀ e ∈ es, e.1.isPermit = false)
      (pushes : Pushes content devices (pushesOf es)) :
      Attempted content devices (⟨.permit, true⟩ :: es)

/-- An attempt of the code is one at the devices that the ledger leaves. -/
theorem Attempt.attempted {breaker : String} {content : Content} {tokens : List String}
    {number : Nat} {p q : Progress} {es : List (Exchange interface)}
    {r : Except DeliveryError Unit} (h : Attempt breaker content tokens number p es r q) :
    Attempted content (p.ledger.pending tokens) es := by
  cases h with
  | refused => exact .refused
  | failed sends | answered sends =>
      refine .admitted (List.forall_mem_append.mpr ⟨fun e he => (sends.economical.1 e he).2, ?_⟩) ?_
      · exact List.forall_mem_singleton.mpr rfl
      · rw [pushesOf_concat_settle]
        exact sends.pushes

/-- An attempt names no other devices. -/
theorem Attempted.targets_subset {content : Content} {devices : List String}
    {es : List (Exchange interface)} (h : Attempted content devices es) :
    ∀ e ∈ es, targets e ⊆ devices := by
  cases h with
  | refused => exact List.forall_mem_singleton.mpr (List.nil_subset _)
  | admitted _ pushes =>
      refine List.forall_mem_cons.mpr ⟨List.nil_subset _, fun e he => ?_⟩
      by_cases push : e.1.isPush = true
      · exact pushes.targets_subset e (List.mem_filter.mpr ⟨he, push⟩)
      · rw [targets_of_not_push (Bool.eq_false_iff.mpr push)]
        exact List.nil_subset _

/-- Attempts one after the other, each at the devices that the outcomes so far leave. -/
inductive Successive (content : Content) (left : List Outcome → List String) :
    List Outcome → List (List (Exchange interface)) → Prop
  | nil {h : List Outcome} : Successive content left h []
  | cons {h : List Outcome} {es : List (Exchange interface)}
      {rest : List (List (Exchange interface))} (first : Attempted content (left h) es)
      (more : Successive content left (h ++ reported es) rest) :
      Successive content left h (es :: rest)

/-- What an attempt leaves is in the ledger of the next one. -/
theorem Attempt.ledger_record {breaker : String} {content : Content} {tokens : List String}
    {number : Nat} {p q : Progress} {es : List (Exchange interface)}
    {r : Except DeliveryError Unit} {correlationId : Option String} {h : List Outcome}
    (tries : Attempt breaker content tokens number p es r q)
    (hp : p.ledger = (Ledger.empty correlationId).record h) :
    q.ledger = (Ledger.empty correlationId).record (h ++ reported es) := by
  rw [tries.ledger_eq, hp, record_record]

/-- The rounds of a dispatch are attempts at the devices whose last outcome is no success. -/
theorem Rounds.successive {breaker : String} {content : Content} {tokens : List String}
    {number : Nat} {p s : Progress} {tries : List (List (Exchange interface))}
    {correlationId : Option String} {h : List Outcome}
    (rounds : Rounds breaker content tokens number p tries s)
    (hp : p.ledger = (Ledger.empty correlationId).record h) :
    Successive content (unreached tokens) h tries := by
  induction rounds generalizing h with
  | nil => exact .nil
  | cons first _ ih =>
      have attempted := first.attempted
      rw [hp, pending_eq_unreached] at attempted
      exact .cons attempted (ih (first.ledger_record hp))

/-- If the devices are distinct and the gateway is modest, they are attempts at the devices that no
outcome reports as reached. -/
theorem Rounds.successive_of_nodup {breaker : String} {content : Content} {tokens : List String}
    {number : Nat} {p s : Progress} {tries : List (List (Exchange interface))}
    {correlationId : Option String} {h : List Outcome}
    (rounds : Rounds breaker content tokens number p tries s)
    (hp : p.ledger = (Ledger.empty correlationId).record h) (distinct : tokens.Nodup)
    (modest : ∀ es ∈ tries, ∀ e ∈ es, Modest e) (steady : Steady h) :
    Successive content (neverReached tokens) h tries := by
  induction rounds generalizing h with
  | nil => exact .nil
  | @cons number p q s es r rest first _ ih =>
      have next := first.ledger_record hp
      obtain ⟨ledger, spent⟩ := p
      obtain rfl : ledger = _ := hp
      obtain ⟨modest, others⟩ := List.forall_mem_cons.mp modest
      refine .cons ?_ (ih next others (first.careful modest distinct steady).2)
      rw [neverReached, ← steady.pending_eq correlationId tokens]
      exact first.attempted

/-- As long as attempts are refused, all devices are left. -/
theorem Successive.attempted_of_refused {content : Content} {tokens : List String}
    {h : List Outcome} {before after : List (List (Exchange interface))}
    {es : List (Exchange interface)}
    (successive : Successive content (unreached tokens) h (before ++ es :: after))
    (refused : ∀ t ∈ before, ⟨.permit, true⟩ ∉ t) : Attempted content (unreached tokens h) es := by
  induction before with
  | nil =>
      cases successive with
      | cons first _ => exact first
  | cons t before ih =>
      obtain ⟨ht, others⟩ := List.forall_mem_cons.mp refused
      cases successive with
      | cons first more =>
          cases first with
          | refused =>
              rw [show reported [⟨.permit, false⟩] = [] from rfl, List.append_nil] at more
              exact ih more others
          | admitted => exact absurd List.mem_cons_self ht

/-- Attempts name no devices but those of the list from which they are left. -/
theorem Successive.targets_subset {content : Content} {tokens : List String} {h : List Outcome}
    {tries : List (List (Exchange interface))}
    (successive : Successive content (unreached tokens) h tries) :
    ∀ es ∈ tries, ∀ e ∈ es, targets e ⊆ tokens := by
  induction successive with
  | nil => exact List.forall_mem_nil _
  | cons first _ ih =>
      refine List.forall_mem_cons.mpr ⟨fun e he => ?_, ih⟩
      exact List.Subset.trans (first.targets_subset e he) (List.filter_subset_self _)

/-! ### Deliveries -/

/-- All devices in the pushes of a delivery are trimmed and not blank. -/
theorem trim_of_mem_targets {c : Courier} {job : Job} {es : List (Exchange interface)}
    {res : Except DeliveryError Unit × Job} (run : Exchanges (c.process job) es res)
    {e : Exchange interface} (he : e ∈ es) {token : String} (ht : token ∈ targets e) :
    Text.trim token = token ∧ Text.isBlankText token = false := by
  obtain ⟨content, tries, progress, rounds, -, -, hflat⟩ := exists_rounds run
  have push : e.1.isPush = true := by
    by_contra quiet
    rw [targets_of_not_push (Bool.eq_false_iff.mpr quiet)] at ht
    cases ht
  obtain ⟨t, htries, het⟩ := List.mem_flatten.mp
    (hflat ▸ List.mem_filter.mpr ⟨he, Request.inAttempt_of_isPush push⟩)
  have successive := rounds.successive (record_nil _).symm
  exact Job.trim_of_mem_validTokens (successive.targets_subset t htries e het ht)

/-- **Which requests a delivery makes.** Whatever its surroundings answer, the requests for
admission and the pushes of a delivery are those of attempts that follow each other, each at the
valid tokens that have no success on record, in their order: one push for a device that is alone,
and else one for each of the pieces into which they are cut, up to the first that fails. What is on
record for a device is its last outcome; if the valid tokens are distinct and the gateway reports on
none more often than it is asked for it, the tokens without any success are the same. All devices in
pushes are trimmed and not blank, and the first attempt that is admitted makes at least one push. -/
theorem attempts_in_batches (c : Courier) {job : Job} (valid : job.problem? = none)
    (answer : List (Exchange interface) → (r : Request) → r.Answer) :
    let es := ((c.process job).against answer).1
    ∃ content tries, es.filter (fun e => e.1.inAttempt) = tries.flatten ∧
      Successive content (unreached job.validTokens) [] tries ∧
      (job.validTokens.Nodup → (∀ e ∈ es, Modest e) →
        Successive content (neverReached job.validTokens) [] tries) ∧
      (∀ e ∈ es, ∀ token ∈ targets e, Text.trim token = token ∧ Text.isBlankText token = false) ∧
      ∀ before first after, tries = before ++ first :: after →
        (∀ t ∈ before, ⟨.permit, true⟩ ∉ t) → ⟨.permit, true⟩ ∈ first →
        ∃ e ∈ first, e.1.isPush = true := by
  intro es
  have run := Run.exchanges_against (c.process job) answer
  obtain ⟨content, tries, progress, rounds, -, -, hflat⟩ := exists_rounds run
  have successive := rounds.successive (record_nil _).symm
  refine ⟨content, tries, hflat, successive, fun distinct modest => ?_,
    fun e he token ht => trim_of_mem_targets run he ht, ?_⟩
  · refine rounds.successive_of_nodup (record_nil _).symm distinct (fun t htries e he => ?_)
      steady_nil
    exact modest e (List.mem_of_mem_filter (hflat ▸ List.mem_flatten_of_mem htries he))
  · rintro before first after rfl refused admitted
    have attempted := successive.attempted_of_refused refused
    rw [unreached_nil] at attempted
    cases attempted with
    | refused => cases List.mem_singleton.mp admitted
    | admitted _ pushes =>
        obtain ⟨e, he⟩ := List.exists_mem_of_ne_nil _ (pushes.ne_nil (Job.validTokens_ne_nil valid))
        obtain ⟨he, push⟩ := List.mem_filter.mp he
        exact ⟨e, List.mem_cons_of_mem _ he, push⟩

/-- All devices but one can be reached. -/
def reachingAllButOne : Foresight :=
  ⟨fun token => if token = "c" then .failed token "gone" default else .delivered token "m1" default,
    fun code => .error (.notFound code)⟩

/-- Surroundings in which the first attempt is refused, and the first push takes too long. -/
def unsteady (before : List (Exchange interface)) : (r : Request) → r.Answer
  | .permit => before.any (·.1.isPermit)
  | .sendMany tokens content =>
    if (pushesOf before).isEmpty then .error .timeout
    else reachingAllButOne.answer (.sendMany tokens content)
  | r => reachingAllButOne.answer r

/-- A delivery to three devices, with a blank token beside them. -/
def unsteadyRun : List (Exchange interface) × Except DeliveryError Unit × Job :=
  (({} : Courier).process (plainJob [" a ", "", "b", "c"])).against unsteady

/-- It makes one push for all three devices in each of the attempts that are admitted. -/
theorem attempts_in_batches_unsteady :
    (plainJob [" a ", "", "b", "c"]).problem? = none ∧
    Exchanges (({} : Courier).process (plainJob [" a ", "", "b", "c"])) unsteadyRun.1
      unsteadyRun.2 ∧
    unsteadyRun.2.2.attemptCount = 3 ∧
    (pushesOf unsteadyRun.1).map targets = [["a", "b", "c"], ["a", "b", "c"]] ∧
    ∃ content tries, unsteadyRun.1.filter (fun e => e.1.inAttempt) = tries.flatten ∧
      Successive content (unreached ["a", "b", "c"]) [] tries ∧
      Successive content (neverReached ["a", "b", "c"]) [] tries ∧
      ∀ before first after, tries = before ++ first :: after →
        (∀ t ∈ before, ⟨.permit, true⟩ ∉ t) → ⟨.permit, true⟩ ∈ first →
        ∃ e ∈ first, e.1.isPush = true := by
  have valid : (plainJob [" a ", "", "b", "c"]).problem? = none := by decide
  have modest : ∀ e ∈ unsteadyRun.1, Modest e := by decide +kernel
  obtain ⟨content, tries, whole, successive, never, -, pushes⟩ :=
    attempts_in_batches {} valid unsteady
  exact ⟨valid, Run.exchanges_against _ _, by decide +kernel, by decide +kernel, content, tries,
    whole, successive, never (by decide) modest, pushes⟩

end Delivery

end PushDelivery
