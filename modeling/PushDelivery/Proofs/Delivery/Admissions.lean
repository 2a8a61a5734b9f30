import PushDelivery.Delivery.Scene
import PushDelivery.Proofs.Breaker.Steps
import PushDelivery.Proofs.Delivery.Endings
import PushDelivery.Proofs.Delivery.Foresight
import PushDelivery.Proofs.Delivery.Overlap

/-!
# What the Breaker Is Told

An attempt can fail in two ways. A request to the gateway fails, or all requests are answered and no
device was reached. Both are failures to the retry policy. To the breaker only the first one is: it
watches the gateway, and a gateway that answers is well, whatever it says about the devices.

This module shows it of any number of deliveries that share a breaker. The exchanges of a delivery
are stretches that leave the breaker alone, requests that it refuses, and admitted attempts, each of
which ends by telling the breaker how it went. So every report to the breaker can be traced back to
the admission that it belongs to, with the requests in between, and in a delivery that is over every
admission has its report. A breaker that starts closed, and is told of no failure, stays closed.

## Main definitions

* `Told`: what was sent in an admitted attempt, and what the breaker is told of it; `Tells`: what
  follows an admission, if it is told.
* `Consults`: the exchanges of a delivery, cut into attempts.
* `Act.consulted?`: the breaker after an act, if it answers like this.

## Main results

* `consults_process`: the exchanges of every delivery can be cut so.
* `Consults.settled`, `Consults.admitted_settled`: each report has its admission, and each admission
  its report.
* `admitted_of_reaches`: the report on an admission is made, or is still to come.
* `closed_of_unharmed`: a closed breaker that is told of no failure.
* `told_of_failures`: what deliveries tell the breaker that they share.
-/

namespace PushDelivery.Delivery

open Run (Exchange Exchanges Reaches)

/-! ### Attempts and what is told of them -/

/-- Whether a request is made to the breaker. -/
def Request.isConsultation : Request → Bool
  | .permit | .settle _ => true
  | _ => false

/-- Checks are not made to the breaker. -/
theorem Request.not_isConsultation_of_inChecks {r : Request} (h : r.inChecks = true) :
    r.isConsultation = false := by
  cases r with
  | permit | settle => cases h
  | _ => rfl

/-- The exchanges between an admission and the end of its attempt, and how the attempt is told to
have ended: as a failure if and only if a request to the gateway failed. -/
structure Told (sent : List (Exchange interface)) (success : Bool) : Prop where
  /-- Nothing in between is asked of the breaker. -/
  apart : ∀ e ∈ sent, e.1.isConsultation = false
  /-- A failure is that of a request to the gateway. -/
  failed_iff : success = false ↔ ∃ e ∈ sent, failure? e ≠ none

/-- What follows an admission begins with the rest of its attempt, and tells the breaker of it. -/
def Tells (after : List (Exchange interface)) : Prop :=
  ∃ sent success rest, after = sent ++ ⟨.settle success, ()⟩ :: rest ∧ Told sent success

/-- A request for a batch is not made to the breaker. -/
theorem not_isConsultation_requestFor (content : Content) (alone : Bool) (batch : List String) :
    (requestFor content alone batch).isConsultation = false := by
  rcases requestFor_eq_or content alone batch with ⟨token, -, asked⟩ | asked
  · rw [asked]
    rfl
  · rw [asked]
    rfl

/-- Sending asks nothing of the breaker. -/
theorem Sends.apart {content : Content} {alone : Bool} {bs : List (List String)}
    {es : List (Exchange interface)} {d : Except GatewayError Unit}
    (h : Sends content alone bs es d) : ∀ e ∈ es, e.1.isConsultation = false := by
  induction h with
  | nil => exact List.forall_mem_nil _
  | failed asked _ =>
      refine List.forall_mem_singleton.mpr ?_
      rw [asked]
      exact not_isConsultation_requestFor _ _ _
  | answered asked _ _ ih =>
      refine List.forall_mem_cons.mpr ⟨?_, List.forall_mem_cons.mpr ⟨rfl, ih⟩⟩
      rw [asked]
      exact not_isConsultation_requestFor _ _ _

/-- Sending fails if and only if one of the requests does. -/
theorem Sends.failed_iff {content : Content} {alone : Bool} {bs : List (List String)}
    {es : List (Exchange interface)} {d : Except GatewayError Unit}
    (h : Sends content alone bs es d) :
    (∃ error, d = .error error) ↔ ∃ e ∈ es, failure? e ≠ none := by
  induction h with
  | nil => simp
  | @failed batch rest x e _ failure => simp [failure]
  | @answered batch rest x es d _ success _ ih =>
      have noted : failure? (tally (outcomes x)) = none := rfl
      simp [success, noted, ih]

/-! ### Deliveries cut into attempts -/

/-- Exchanges that are not made to the breaker, admissions that it refuses, and admitted attempts
that are over and told to it. -/
inductive Consults : List (Exchange interface) → Prop
  | nil : Consults []
  | apart {e : Exchange interface} {rest : List (Exchange interface)}
      (other : e.1.isConsultation = false) (more : Consults rest) : Consults (e :: rest)
  | refused {rest : List (Exchange interface)} (more : Consults rest) :
      Consults (⟨.permit, false⟩ :: rest)
  | admitted {sent rest : List (Exchange interface)} {success : Bool} (told : Told sent success)
      (more : Consults rest) :
      Consults (⟨.permit, true⟩ :: (sent ++ ⟨.settle success, ()⟩ :: rest))

/-- A stretch that leaves the breaker alone comes before anything. -/
theorem Consults.of_apart {es rest : List (Exchange interface)}
    (h : ∀ e ∈ es, e.1.isConsultation = false) (more : Consults rest) : Consults (es ++ rest) := by
  induction es with
  | nil => exact more
  | cons e es ih =>
      obtain ⟨first, others⟩ := List.forall_mem_cons.mp h
      exact .apart first (ih others)

/-- Two stretches. -/
theorem Consults.append {es rest : List (Exchange interface)} (h : Consults es)
    (more : Consults rest) : Consults (es ++ rest) := by
  induction h with
  | nil => exact more
  | apart other _ ih => exact .apart other ih
  | refused _ ih => exact .refused ih
  | @admitted sent between success told _ ih =>
      rw [List.cons_append, List.append_assoc]
      exact .admitted told ih

/-- An attempt is refused, or admitted and told. -/
theorem Attempt.consults {breaker : String} {content : Content} {tokens : List String}
    {number : Nat} {p q : Progress} {es : List (Exchange interface)}
    {r : Except DeliveryError Unit} (h : Attempt breaker content tokens number p es r q) :
    Consults es := by
  cases h with
  | refused => exact .refused .nil
  | failed sends =>
      exact .admitted ⟨sends.apart, iff_of_true rfl (sends.failed_iff.mp ⟨_, rfl⟩)⟩ .nil
  | answered sends =>
      refine .admitted ⟨sends.apart, iff_of_false nofun fun failed => ?_⟩ .nil
      obtain ⟨error, never⟩ := sends.failed_iff.mpr failed
      cases never

/-- A dispatch is attempts with waits between them. -/
theorem Attempts.consults {policy : RetryPolicy} {breaker : String} {content : Content}
    {tokens : List String} {left number : Nat} {p s : Progress} {es : List (Exchange interface)}
    {r : Except DeliveryError Unit}
    (h : Attempts policy breaker content tokens left number p es r s) : Consults es := by
  have waits : ∀ {d : Duration} {how : Pause}, Consults (waiting d how) :=
    .apart rfl (.apart rfl .nil)
  induction h with
  | spent => exact .nil
  | last tries _ => exact tries.consults
  | cancelled tries _ => exact tries.consults.append waits
  | again tries _ _ ih => exact (tries.consults.append waits).append ih

/-- The end of a delivery leaves the breaker alone. -/
theorem Marks.consults_closing {job : Job} {marks : List (Exchange interface)}
    (h : Marks job marks) (report : Report) (started now : Instant) (accepted : Bool) :
    Consults (closing report started now accepted marks) := by
  have marked : Consults (marks ++ []) :=
    .of_apart (fun e he => Request.not_isConsultation_of_inChecks (h.inChecks e he)) .nil
  rw [List.append_nil] at marked
  exact .apart rfl (.apart rfl (.apart rfl marked))

/-- **The exchanges of a delivery, cut into attempts.** -/
theorem consults_process {c : Courier} {job : Job} {es : List (Exchange interface)}
    {res : Except DeliveryError Unit × Job} (run : Exchanges (c.process job) es res) :
    Consults es := by
  have checked : ∀ {checks rest : List (Exchange interface)},
      (∀ e ∈ checks, e.1.inChecks = true) → Consults rest → Consults (checks ++ rest) :=
    fun checks => .of_apart fun e he => Request.not_isConsultation_of_inChecks (checks e he)
  rcases exchanges_process_iff.mp run with
    ⟨suppressed, -⟩ | ⟨checks, rest, started, message, error, rfl, refused, go⟩ |
      ⟨checks, rest, started, content, rfl, cleared, go⟩
  · rw [← List.append_nil es]
    exact checked suppressed.inChecks .nil
  · obtain ⟨now, accepted, marks, rfl, marked, -⟩ := exchanges_refuse_iff.mp go
    exact checked refused.inChecks (marked.consults_closing _ _ _ _)
  · obtain ⟨tries, result, progress, now, accepted, marks, dispatched, rfl, marked, -⟩ :=
      exchanges_deliver_iff.mp go
    have attempts := exchanges_dispatch_iff.mp dispatched
    exact checked cleared.inChecks (attempts.consults.append (marked.consults_closing _ _ _ _))

/-! ### Reports and admissions -/

/-- What is told to the breaker was sent after an admission. -/
theorem Consults.settled {es before after : List (Exchange interface)} {success : Bool}
    (h : Consults es) (split : es = before ++ ⟨.settle success, ()⟩ :: after) :
    ∃ earlier sent, before = earlier ++ ⟨.permit, true⟩ :: sent ∧ Told sent success := by
  induction h generalizing before with
  | nil => simp at split
  | @apart e rest other more ih =>
      rcases List.cons_eq_append_iff.mp split with ⟨-, first⟩ | ⟨before, rfl, rest⟩
      · obtain rfl := (List.cons.inj first).1
        cases other
      · obtain ⟨earlier, sent, rfl, told⟩ := ih rest
        exact ⟨e :: earlier, sent, rfl, told⟩
  | @refused rest more ih =>
      rcases List.cons_eq_append_iff.mp split with ⟨-, first⟩ | ⟨before, rfl, rest⟩
      · cases first
      · obtain ⟨earlier, sent, rfl, told⟩ := ih rest
        exact ⟨_ :: earlier, sent, rfl, told⟩
  | @admitted sent rest success' told more ih =>
      rcases List.cons_eq_append_iff.mp split with ⟨-, first⟩ | ⟨before, rfl, attempt⟩
      · cases first
      rcases List.append_eq_append_iff.mp attempt with
        ⟨between, rfl, later⟩ | ⟨between, rfl, later⟩
      · rcases List.cons_eq_append_iff.mp later with ⟨rfl, same⟩ | ⟨between, rfl, rest⟩
        · cases same
          exact ⟨[], sent, by simp, told⟩
        · -- the report is that of a later attempt
          obtain ⟨earlier, others, rfl, told⟩ := ih rest
          exact ⟨⟨.permit, true⟩ :: (sent ++ ⟨.settle success', ()⟩ :: earlier), others, by simp,
            told⟩
      · rcases List.cons_eq_append_iff.mp later with ⟨rfl, same⟩ | ⟨between, rfl, -⟩
        · cases same
          exact ⟨[], before, by simp, by simpa using told⟩
        · -- nothing that is sent in an attempt is a report to the breaker
          cases told.apart ⟨.settle success, ()⟩ (by simp)

/-- What is sent after an admission is told to the breaker. -/
theorem Consults.admitted_settled {es before after : List (Exchange interface)} (h : Consults es)
    (split : es = before ++ ⟨.permit, true⟩ :: after) : Tells after := by
  induction h generalizing before with
  | nil => simp at split
  | @apart e rest other more ih =>
      rcases List.cons_eq_append_iff.mp split with ⟨-, first⟩ | ⟨before, rfl, rest⟩
      · obtain rfl := (List.cons.inj first).1
        cases other
      · exact ih rest
  | @refused rest more ih =>
      rcases List.cons_eq_append_iff.mp split with ⟨-, first⟩ | ⟨before, rfl, rest⟩
      · cases first
      · exact ih rest
  | @admitted sent rest success told more ih =>
      rcases List.cons_eq_append_iff.mp split with ⟨-, first⟩ | ⟨before, rfl, attempt⟩
      · obtain rfl := (List.cons.inj first).2
        exact ⟨sent, success, rest, rfl, told⟩
      rcases List.append_eq_append_iff.mp attempt with
        ⟨between, rfl, later⟩ | ⟨between, rfl, later⟩
      · rcases List.cons_eq_append_iff.mp later with ⟨-, same⟩ | ⟨between, rfl, rest⟩
        · cases same
        · exact ih rest
      · rcases List.cons_eq_append_iff.mp later with ⟨-, same⟩ | ⟨between, rfl, -⟩
        · cases same
        · -- nothing that is sent in an attempt asks for admission
          cases told.apart ⟨.permit, true⟩ (by simp)

/-! ### The breaker -/

variable {ι : Type}

/-- The breaker after an act, if it answers the act like this. -/
def Act.consulted? (config : Breaker.Config) (b : Breaker) (a : Act ι) : Option Breaker :=
  match a.exchange with
  | ⟨.permit, admitted⟩ =>
    let (answer, b') := b.permit config a.time
    if answer = admitted then some b' else none
  | ⟨.settle success, _⟩ => some (b.settle config success a.time)
  | _ => some b

/-- The breaker of a scene is consulted by what is answered there. -/
theorem Act.consulted?_perform (s : Scene) (i : ι) {r : Request} {answer : r.Answer}
    (h : (s.perform r).1 = .now answer ∨ r.isConsultation = false) :
    Act.consulted? s.breakerConfig s.breaker ⟨i, s.now, ⟨r, answer⟩⟩ =
      some (s.perform r).2.breaker := by
  cases r with
  | permit =>
      obtain answered | never := h
      · obtain rfl : (s.breaker.permit s.breakerConfig s.now).1 = answer := by
          injection answered
        have kept : (s.perform .permit).2.breaker =
            (s.breaker.permit s.breakerConfig s.now).2 := by
          simp only [Scene.perform, Scene.permit]
          split <;> rfl
        rw [kept]
        exact if_pos rfl
      · cases never
  | settle success => rfl
  | guard r => cases r <;> rfl
  | _ => rfl

/-- **A closed breaker that is told of no failure** admits every call, and stays closed. -/
theorem closed_of_unharmed {config : Breaker.Config} {b b' : Breaker} {acts : List (Act ι)}
    (closed : b.circuit = .closed) (unharmed : ∀ a ∈ acts, a.exchange ≠ ⟨.settle false, ()⟩)
    (consulted : acts.foldlM (Act.consulted? config) b = some b') :
    b'.circuit = .closed ∧ ∀ a ∈ acts, a.exchange ≠ ⟨.permit, false⟩ := by
  induction acts generalizing b with
  | nil =>
      obtain rfl : b = b' := Option.some.inj consulted
      exact ⟨closed, List.forall_mem_nil _⟩
  | cons a acts ih =>
      obtain ⟨first, others⟩ := List.forall_mem_cons.mp unharmed
      rw [List.foldlM_cons] at consulted
      obtain ⟨b₁, step, rest⟩ := Option.bind_eq_some_iff.mp consulted
      suffices kept : b₁.circuit = .closed ∧ a.exchange ≠ ⟨.permit, false⟩ by
        obtain ⟨last, admitted⟩ := ih kept.1 others rest
        exact ⟨last, List.forall_mem_cons.mpr ⟨kept.2, admitted⟩⟩
      obtain ⟨i, time, r, answer⟩ := a
      cases r with
      | permit =>
          rcases said : b.permit config time with ⟨admitted, b₂⟩
          simp only [Act.consulted?, said] at step
          split at step
          · rename_i same
            obtain rfl : b₂ = b₁ := Option.some.inj step
            subst same
            -- a closed circuit refuses nothing
            cases Breaker.permits said with
            | closed | forgiven => exact ⟨closed, nofun⟩
            | waiting opened | firstTrial opened => exact nomatch closed.symm.trans opened
            | trial half | full half => exact nomatch closed.symm.trans half
          · cases step
      | settle success =>
          obtain rfl : success = true := by
            cases success with
            | true => rfl
            | false => exact absurd rfl first
          refine ⟨?_, nofun⟩
          cases Breaker.settles (Option.some.inj step) with
          | success => exact closed
          | recovery half => exact nomatch closed.symm.trans half
      | _ =>
          obtain rfl : b = b₁ := Option.some.inj step
          exact ⟨closed, nofun⟩

/-! ### Deliveries that share a breaker -/

section Reached

variable {c : Courier} {job : Job} {es before after : List (Exchange interface)}
  {left : Run interface (Except DeliveryError Unit × Job)}

/-- What a delivery has exchanged so far is the beginning of something that can be cut into
attempts. -/
theorem exists_consults (h : Reaches (c.process job) es left) : ∃ rest, Consults (es ++ rest) := by
  obtain ⟨rest, res, -, run⟩ := exists_ending h
  exact ⟨rest, consults_process run⟩

/-- What a delivery has told the breaker was sent after an admission. -/
theorem settled_of_reaches {success : Bool} (h : Reaches (c.process job) es left)
    (split : es = before ++ ⟨.settle success, ()⟩ :: after) :
    ∃ earlier sent, before = earlier ++ ⟨.permit, true⟩ :: sent ∧ Told sent success := by
  obtain ⟨rest, consults⟩ := exists_consults h
  rw [split, List.append_assoc, List.cons_append] at consults
  exact consults.settled rfl

/-- Whatever a delivery goes on to do until it is over, it has told the breaker of each of its
attempts then. -/
theorem tells_of_ended {rest : List (Exchange interface)} {res : Except DeliveryError Unit × Job}
    (h : Reaches (c.process job) es left) (split : es = before ++ ⟨.permit, true⟩ :: after)
    (ends : Exchanges left rest res) : Tells (after ++ rest) := by
  have consults := consults_process (h.exchanges ends)
  exact consults.admitted_settled (by rw [split, List.append_assoc, List.cons_append])

/-- What a delivery has sent after an admission was told to the breaker, unless the delivery is not
over. Then it has asked the breaker for nothing since, and the breaker is going to be told. -/
theorem admitted_of_reaches (h : Reaches (c.process job) es left)
    (split : es = before ++ ⟨.permit, true⟩ :: after) :
    Tells after ∨ (∀ res, left ≠ .done res) ∧ (∀ e ∈ after, e.1.isConsultation = false) ∧
      ∀ rest res, Exchanges left rest res → Tells (after ++ rest) := by
  by_cases finished : ∃ res, left = .done res
  · obtain ⟨res, rfl⟩ := finished
    have told := tells_of_ended h split (.done res)
    rw [List.append_nil] at told
    exact .inl told
  have unfinished : ∀ res, left ≠ .done res := not_exists.mp finished
  have later : ∀ rest res, Exchanges left rest res → Tells (after ++ rest) :=
    fun rest res ends => tells_of_ended h split ends
  obtain ⟨rest, res, ends, -⟩ := exists_ending h
  obtain ⟨sent, success, others, ended, told⟩ := later rest res ends
  rcases List.append_eq_append_iff.mp ended with ⟨unsent, rfl, -⟩ | ⟨more, rfl, told_later⟩
  · exact .inr ⟨unfinished, fun e he => told.apart e (List.mem_append_left _ he), later⟩
  · rcases List.cons_eq_append_iff.mp told_later with ⟨rfl, -⟩ | ⟨more, rfl, -⟩
    · exact .inr ⟨unfinished, fun e he => told.apart e (by simpa using he), later⟩
    · exact .inl ⟨sent, success, more, rfl, told⟩

/-- A delivery that has told the breaker of a failure has made a request to the gateway that
failed. -/
theorem exists_failure_of_reaches (h : Reaches (c.process job) es left)
    (told : ⟨.settle false, ()⟩ ∈ es) : ∃ e ∈ es, failure? e ≠ none := by
  obtain ⟨before, after, rfl⟩ := List.append_of_mem told
  obtain ⟨earlier, sent, rfl, failed⟩ := settled_of_reaches h rfl
  obtain ⟨e, he, failure⟩ := failed.failed_iff.mp rfl
  exact ⟨e, by simp [he], failure⟩

end Reached

variable [DecidableEq ι]

/-- **What the breaker is told.** Take any number of deliveries, each of its job and as far as it
has come, with their acts in any order. What one of them tells the breaker follows an admission of
the same delivery, and is a failure if and only if a request to the gateway that the delivery made
in between was answered with an error. An admission is followed by such a report. A delivery that is
not over may still owe the last one: then it has asked the breaker for nothing since the admission,
and however it goes on, it makes the report before it ends. So if the gateway answers none of the
requests with an error, and the breaker was closed, then it is closed after any of the acts, and has
refused none of the deliveries. -/
theorem told_of_failures (c : ι → Courier) (jobs : ι → Job) (acts : List (Act ι))
    (left : ι → Run interface (Except DeliveryError Unit × Job))
    (runs : ∀ i, Reaches ((c i).process (jobs i)) (exchangesOf i acts) (left i)) :
    (∀ i before success after,
      exchangesOf i acts = before ++ ⟨.settle success, ()⟩ :: after →
      ∃ earlier sent, before = earlier ++ ⟨.permit, true⟩ :: sent ∧ Told sent success) ∧
    (∀ i before after, exchangesOf i acts = before ++ ⟨.permit, true⟩ :: after →
      Tells after ∨ (∀ res, left i ≠ .done res) ∧ (∀ e ∈ after, e.1.isConsultation = false) ∧
        ∀ rest res, Exchanges (left i) rest res → Tells (after ++ rest)) ∧
    ∀ (config : Breaker.Config) (b : Breaker), b.circuit = .closed →
      (∀ a ∈ acts, failure? a.exchange = none) →
      ∀ before after b', acts = before ++ after →
        before.foldlM (Act.consulted? config) b = some b' →
        b'.circuit = .closed ∧ ∀ a ∈ before, a.exchange ≠ ⟨.permit, false⟩ := by
  refine ⟨fun i before success after split => settled_of_reaches (runs i) split,
    fun i before after split => admitted_of_reaches (runs i) split,
    fun config b closed well before after b' split consulted => ?_⟩
  refine closed_of_unharmed closed (fun a ha failed => ?_) consulted
  -- a failure would be told of a request that failed
  obtain ⟨i, time, e⟩ := a
  obtain rfl : e = ⟨.settle false, ()⟩ := failed
  have told : ⟨.settle false, ()⟩ ∈ exchangesOf i acts := by
    rw [split]
    exact List.mem_filterMap.mpr ⟨_, List.mem_append_left _ ha, if_pos rfl⟩
  obtain ⟨e, asked, failure⟩ := exists_failure_of_reaches (runs i) told
  obtain ⟨a, hact, same⟩ := List.mem_filterMap.mp asked
  split at same
  · rw [← Option.some.inj same] at failure
    exact failure (well a hact)
  · cases same

/-- The gateway rejects every device. -/
def rejecting : Foresight :=
  ⟨fun token => .failed token "unregistered" default, fun code => .error (.notFound code)⟩

/-- Two jobs, one for two devices and one for a single device. -/
def rejectedJob (single : Bool) : Job :=
  if single then { plainJob ["c"] with id := "n2" } else plainJob ["a", "b"]

/-- The deliveries of the two, each of which may try three times. -/
def rejectedRun (single : Bool) : List (Exchange interface) × Except DeliveryError Unit × Job :=
  (({} : Courier).process (rejectedJob single)).against fun _ => rejecting.answer

/-- Their acts, when they take turns. -/
def rejectedActs : List (Act Bool) :=
  weave (List.replicate 28 [false, true]).flatten fun single => (rejectedRun single).1

/-- A breaker that a single failure would open is told of all six attempts, and stays closed while
all devices are rejected and all attempts are spent. -/
theorem told_of_failures_rejected :
    (∀ i, Reaches (({} : Courier).process (rejectedJob i)) (exchangesOf i rejectedActs)
      (.done (rejectedRun i).2)) ∧
    (∀ a ∈ rejectedActs, failure? a.exchange = none) ∧
    (∀ i, (rejectedRun i).2.2.attemptCount = ({} : Courier).retry.maxAttempts) ∧
    (rejectedRun false).2.1 = .error (.allDevicesFailed 2 "unregistered") ∧
    (rejectedRun true).2.1 = .error (.allDevicesFailed 1 "unregistered") ∧
    rejectedActs.countP (·.exchange.1 = .permit) = 6 ∧
    (∀ i before after, exchangesOf i rejectedActs = before ++ ⟨.permit, true⟩ :: after →
      Tells after) ∧
    ∃ b', rejectedActs.foldlM (Act.consulted? { failureThreshold := 1 }) (.initial (0 : Nat)) =
        some b' ∧ b'.circuit = .closed ∧ ∀ a ∈ rejectedActs, a.exchange ≠ ⟨.permit, false⟩ := by
  have enough : ∀ i, (rejectedRun i).1.length ≤
      (List.replicate 28 [false, true]).flatten.count i := by decide +kernel
  have reached : ∀ i, Reaches (({} : Courier).process (rejectedJob i))
      (exchangesOf i rejectedActs) (.done (rejectedRun i).2) := fun i => by
    rw [rejectedActs, exchangesOf_weave_of_le (enough i)]
    exact Run.reaches_done_iff.mpr (Run.exchanges_against _ _)
  have well : ∀ a ∈ rejectedActs, failure? a.exchange = none := by decide +kernel
  have consulted : ∃ b', rejectedActs.foldlM (Act.consulted? { failureThreshold := 1 })
      (.initial (0 : Nat)) = some b' := Option.isSome_iff_exists.mp (by decide +kernel)
  obtain ⟨b', consulted⟩ := consulted
  obtain ⟨-, told, stays⟩ := told_of_failures (fun _ => {}) rejectedJob rejectedActs _ reached
  refine ⟨reached, well, by decide +kernel, by decide +kernel, by decide +kernel,
    by decide +kernel, fun i before after split => ?_, b', consulted,
    stays _ _ rfl well rejectedActs [] b' (List.append_nil _).symm consulted⟩
  exact (told i before after split).resolve_right fun pending => pending.1 _ rfl

end PushDelivery.Delivery
